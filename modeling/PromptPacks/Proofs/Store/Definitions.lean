import PromptPacks.Proofs.Store.Contexts
import PromptPacks.Proofs.Store.Stories
import PromptPacks.Proofs.Variable.Acceptance

namespace PromptPacks

open PromptPacks.Json PromptPacks.Store PromptPacks.Transaction

/-- What is wrong with a value that a story is to have under a name. It is the
    value that is at fault, not the variable. -/
inductive IsOverrideFault (declared : List VariableDefinition) (name : String) (value : Json) :
    Refusal → Prop where
  | undeclared (hnone : ∀ definition ∈ declared, definition.name ≠ name) :
    IsOverrideFault declared name value (.violation (.undeclaredOverride name))
  | composite (hcomposite : scalarText? value = none) :
    IsOverrideFault declared name value (.violation (.compositeOverride name))
  | unfit {definition : VariableDefinition} {text : String} {fault : ValueFault}
    (hdefinition : definition ∈ declared) (hname : definition.name = name)
    (htext : scalarText? value = some text) (hfault : definition.valueFault? text = some fault) :
    IsOverrideFault declared name value (.violation (.value fault name text))

/-- A value is rejected for one of the named faults and for nothing else. Which
    of them it is depends on how far the check gets. -/
theorem IsOverrideFault.of_checkOverride {declared : List VariableDefinition} {name : String}
    {value : Json} {refusal : Refusal}
    (hcheck : checkOverride declared name value = .error refusal) :
    IsOverrideFault declared name value refusal := by
  rw [checkOverride] at hcheck
  cases hfound : declared.find? (·.name == name) with
  | none =>
    rw [hfound] at hcheck
    cases hcheck
    exact .undeclared (by simpa [List.find?_eq_none] using hfound)
  | some definition =>
    have hname : definition.name = name := by simpa using List.find?_some hfound
    cases htext : scalarText? value with
    | none =>
      rw [hfound, htext] at hcheck
      cases hcheck
      exact .composite htext
    | some text =>
      simp only [hfound, htext, VariableDefinition.checkValue] at hcheck
      cases hfault : definition.valueFault? text with
      | none => simp [hfault] at hcheck
      | some fault =>
        rw [hfault] at hcheck
        cases hcheck
        rw [hname]
        exact .unfit (List.mem_of_find?_eq_some hfound) hname htext hfault

namespace Tables

/-- Why a story does not get some values: there is no such story, or one of the
    values is at fault. -/
inductive RejectsValues (tables : Tables) (storyId : Int) (values : Dictionary Json) :
    StoreFailure → Prop where
  | missing (hmissing : ∀ story ∈ tables.stories, story.id ≠ storyId) :
    RejectsValues tables storyId values (.refused (.notFound .story (toString storyId)))
  | fault {story : Story} {name : String} {value : Json} {refusal : Refusal}
    (hstory : story ∈ tables.stories) (hid : story.id = storyId)
    (hvalue : values.get? name = some value)
    (hfault : IsOverrideFault ((tables.variablesOf story.packId).map (·.definition)) name value
      refusal) : RejectsValues tables storyId values (.refused refusal)

/-- Why there is no context for a rendering: its story or, without one, the
    default pack is missing. -/
inductive LacksSource (tables : Tables) (rendering : Rendering) : StoreFailure → Prop where
  | story {storyId : Int} (hid : rendering.storyId = some storyId)
    (hmissing : ∀ story ∈ tables.stories, story.id ≠ storyId) :
    LacksSource tables rendering (.refused (.notFound .story (toString storyId)))
  | default (hnone : rendering.storyId = none)
    (hmissing : ∀ pack ∈ tables.packs, pack.isDefault = false) :
    LacksSource tables rendering (.refused (.notFound .pack "default"))

/-- A story is not found exactly if no story has the identifier. -/
theorem story?_eq_none {tables : Tables} {storyId : Int} :
    tables.story? storyId = none ↔ ∀ story ∈ tables.stories, story.id ≠ storyId := by
  simp [story?, List.find?_eq_none]

/-- A variable keeps its row if it is replaced by itself. -/
theorem Valid.setVariable_self {tables : Tables} (hvalid : tables.Valid) {row : PackVariable}
    (hrow : row ∈ tables.variables) : tables.setVariable row = tables := by
  have hsame : (tables.variables.map fun other => if other.id = row.id then row else other) =
      tables.variables := by
    refine (List.map_congr_left fun other hother => ?_).trans (List.map_id _)
    split
    next hid => exact (List.inj_on_of_nodup_map hvalid.variableIds hother hrow hid).symm
    next => rfl
  rw [Tables.setVariable, hsame]

end Tables

namespace Store

/-- The changes to a variable that change nothing. -/
def VariablePatch.unchanged : VariablePatch :=
  ⟨none, none, none, none, none, none, none, none⟩

variable {registry : Registry} {tables : Tables}

/-- An update that changes nothing is accepted and leaves the tables as they
    are. In particular the definition is accepted again. -/
theorem updateVariable_unchanged (hvalid : tables.Valid) {pack : Pack} (hpack : pack ∈ tables.packs)
    (heditable : pack.isDefault = false) {row : PackVariable} (hrow : row ∈ tables.variables)
    (howner : row.packId = pack.id) (hcheck : row.definition.check = .ok ()) :
    updateVariable pack.id row.id .unchanged tables = .ok (row, tables) := by
  have hsame : PackVariable.ofDefinition row.id pack.id
      (VariablePatch.unchanged.apply row.definition)
      (VariablePatch.unchanged.sortOrder.getD row.sortOrder) = row := by
    rw [← howner]
    rfl
  have hfree : ∀ other ∈ tables.variables, other.key = row.key → other.id = row.id := by
    intro other hother hkey
    rw [List.inj_on_of_nodup_map hvalid.variableKeys hother hrow hkey]
  have hwritten : updateVariable pack.id row.id .unchanged tables =
      .ok (row, tables.setVariable row) :=
    updateVariable_eq_ok hvalid hpack heditable hrow howner hcheck hsame.symm hfree
  rwa [hvalid.setVariable_self hrow] at hwritten

/-- A pack that exists can be exported, whatever its variables. So an export
    that fails says that there is no such pack. -/
theorem exportPack_eq_error {packId : Int} {reason : StoreFailure}
    (hrun : exportPack packId tables = .error reason) :
    reason = .refused (.notFound .pack (toString packId)) ∧ ¬tables.HasPack packId := by
  have houtcome : (exportPack packId).Outcome tables
      (fun reason => reason = .refused (.notFound .pack (toString packId)) ∧
        ¬tables.HasPack packId) fun _ _ => True := by
    rw [exportPack_eq, outcome_bind, outcome_requirePack]
    refine ⟨fun hmissing => ⟨rfl, fun hpack => ?_⟩, fun pack _ => trivial⟩
    simpa [hmissing] using Tables.pack?_isSome_iff.2 hpack
  exact houtcome.of_error hrun

/-- A context fails only because the story, its pack or the default pack is
    missing. Stored variables are never the reason. -/
theorem context_eq_error (hreads : tables.ReadsStories) {rendering : Rendering}
    {reason : StoreFailure} (hrun : rendering.context registry tables = .error reason) :
    tables.LacksSource rendering reason := by
  have houtcome : (rendering.context registry).Outcome tables (tables.LacksSource rendering)
      fun _ _ => True := by
    rw [Rendering.context, outcome_bind, Rendering.resolvePack]
    cases hid : rendering.storyId with
    | some storyId =>
      rw [outcome_bind, outcome_readStory hreads]
      refine ⟨fun hmissing => .story hid (Tables.story?_eq_none.1 hmissing), fun story _ => ?_⟩
      exact Rendering.outcome_contextFor.2 trivial
    | none =>
      rw [outcome_bind, outcome_requireDefault]
      refine ⟨fun hmissing => .default hid (Tables.defaultPack?_eq_none.1 hmissing), fun _ _ => ?_⟩
      exact Rendering.outcome_contextFor.2 trivial
  exact houtcome.of_error hrun

/-- Values are rejected because there is no such story, or for one of the
    values. Stored variables are never the reason. -/
theorem setStoryValues_eq_error (hvalid : tables.Valid) (hreads : tables.ReadsStories)
    {storyId : Int} {values : Dictionary Json} {reason : StoreFailure}
    (hrun : setStoryValues storyId values tables = .error reason) :
    tables.RejectsValues storyId values reason := by
  have houtcome : (setStoryValues storyId values).Outcome tables
      (tables.RejectsValues storyId values) fun _ _ => True := by
    rw [setStoryValues, outcome_bind, outcome_readStory hreads]
    refine ⟨fun hmissing => .missing (Tables.story?_eq_none.1 hmissing), fun story hstory => ?_⟩
    obtain ⟨hmem, hid⟩ := Tables.story?_eq_some hstory
    rw [readDefinitions_eq_ask, outcome_bind, outcome_ask, outcome_bind, outcome_accept]
    refine ⟨fun refusal hcheck => ?_, fun _ => ?_⟩
    · obtain ⟨name, value, hvalue, hfault, -⟩ := exists_of_checkOverrides_eq_error hcheck
      exact .fault hmem hid hvalue (.of_checkOverride hfault)
    · have hpack := hvalid.storyPacks story hmem
      rw [outcome_bind, outcome_replaceStory (by exact hpack)]
      trivial
  exact houtcome.of_error hrun

/-- A story of a pack takes a text that fits a variable of the pack, so each
    variable can be set. -/
theorem setStoryValues_of_fits (hvalid : tables.Valid) (hreads : tables.ReadsStories)
    {story : Story} (hstory : story ∈ tables.stories) {row : PackVariable}
    (hrow : row ∈ tables.variables) (howner : row.packId = story.packId) {text : String}
    (hfits : row.definition.valueFault? text = none) :
    setStoryValues story.id (.ofList [(row.name, .string text)]) tables =
      .ok (.ofList [(row.name, .string text)],
        tables.setStory { story with values := .ofList [(row.name, .string text)] }) := by
  have hnamed : tables.variableNamed? story.packId row.name = some row :=
    hvalid.variableNamed?_eq_some_iff.2 ⟨hrow, howner, rfl⟩
  have hfound : ((tables.variablesOf story.packId).map (·.definition)).find?
      (·.name == row.name) = some row.definition := by
    rw [hvalid.find?_declared, hnamed]
    rfl
  have haccepted : checkOverrides ((tables.variablesOf story.packId).map (·.definition))
      (.ofList [(row.name, .string text)]) = .ok () := by
    rw [checkOverrides_eq_ok_iff]
    intro name value hvalue
    have hmem : (name, value) ∈ [(row.name, Json.string text)] :=
      Dictionary.mem_entries_iff.2 hvalue
    obtain ⟨rfl, rfl⟩ : name = row.name ∧ value = .string text := by simpa using hmem
    exact checkOverride_eq_ok_iff.2 ⟨row.definition, text, hfound, rfl, hfits⟩
  exact setStoryValues_eq_ok (hvalid.story?_of_mem hstory) (hreads story hstory)
    (hvalid.storyPacks story hstory) haccepted

end Store

namespace Tables

/-- Nothing that the tables hold of a variable gets in the way of a request:
    each variable can be read, keeps to the rules for definitions and has a name
    of its own in its pack. -/
structure KeepsDefinitions (registry : Registry) (tables : Tables) : Prop where
  converts : ∀ row ∈ tables.variables, row.record.definition = .ok row.definition
  passes : ∀ row ∈ tables.variables, row.definition.check = .ok ()
  distinct : tables.variables.Pairwise fun a b => a.packId = b.packId → a.name ≠ b.name
  reads : ∀ packId, readDefinitions packId tables =
    .ok ((tables.variablesOf packId).map (·.definition), tables)
  updates : ∀ pack ∈ tables.packs, pack.isDefault = false → ∀ row ∈ tables.variables,
    row.packId = pack.id →
      updateVariable pack.id row.id .unchanged tables = .ok (row, tables)
  exports : ∀ packId reason, exportPack packId tables = .error reason →
    reason = .refused (.notFound .pack (toString packId)) ∧ ¬tables.HasPack packId
  contexts : ∀ rendering reason, rendering.context registry tables = .error reason →
    tables.LacksSource rendering reason
  rejects : ∀ storyId values reason, setStoryValues storyId values tables = .error reason →
    tables.RejectsValues storyId values reason
  takes : ∀ story ∈ tables.stories, ∀ row ∈ tables.variables, row.packId = story.packId →
    ∃ text, (∀ value, row.defaultValue = some value → text = value) ∧
      setStoryValues story.id (.ofList [(row.name, .string text)]) tables =
        .ok (.ofList [(row.name, .string text)],
          tables.setStory { story with values := .ofList [(row.name, .string text)] })

/-- Two variables of one pack have different names. -/
theorem Valid.pairwise_variableNames {tables : Tables} (hvalid : tables.Valid) :
    tables.variables.Pairwise fun a b => a.packId = b.packId → a.name ≠ b.name := by
  have hkeys := List.pairwise_map.1 hvalid.variableKeys
  refine hkeys.imp fun {a b} hkey hpack hname => hkey ?_
  rw [PackVariable.key, PackVariable.key, hpack, hname]

end Tables

namespace Reachable

variable {registry : Registry} {tables : Tables}

/-- However the variables of a store came about, each of them is one that the
    store accepts, reads and can use. All ways in which rows are written are
    covered by the effects. -/
theorem keepsDefinitions (hreachable : Reachable registry tables) :
    tables.KeepsDefinitions registry where
  converts row _ := row.definition_record
  passes := hreachable.check_definition
  distinct := hreachable.valid.pairwise_variableNames
  reads := readDefinitions_eq_ok tables
  updates pack hpack heditable row hrow howner :=
    updateVariable_unchanged hreachable.valid hpack heditable hrow howner
      (hreachable.check_definition row hrow)
  exports _ _ := exportPack_eq_error
  contexts _ _ := context_eq_error hreachable.sound.stories
  rejects _ _ _ := setStoryValues_eq_error hreachable.valid hreachable.sound.stories
  takes story hstory row hrow howner := by
    have hreads := hreachable.sound.stories
    have hcheck := hreachable.check_definition row hrow
    cases hdefault : row.defaultValue with
    | none =>
      obtain ⟨text, hfits⟩ := VariableDefinition.exists_valueFault?_eq_none hcheck
      refine ⟨text, by simp, ?_⟩
      exact setStoryValues_of_fits hreachable.valid hreads hstory hrow howner hfits
    | some value =>
      have hfits := VariableDefinition.valueFault?_defaultValue hcheck hdefault
      refine ⟨value, by simp, ?_⟩
      exact setStoryValues_of_fits hreachable.valid hreads hstory hrow howner hfits

/-- A variable with options, one of which is its default value. -/
def season : VariableDefinition :=
  ⟨"season", "Season", .enum, .custom, true, some "winter",
    some [⟨"Winter", "winter"⟩, ⟨"Summer", "summer"⟩], none⟩

/-- Tables with a story whose pack has a variable with options. -/
def seasonalTale : Tables :=
  (Request.createVariable 2 season (some 0)).after .empty tale

theorem reachable_seasonalTale : Reachable .empty seasonalTale := by
  refine .request ?_ reachable_tale
  rintro place ⟨rfl⟩
  exact ⟨by decide, by decide⟩

/-- The variable of the sample is read, updated without a change and set for a
    story. -/
theorem keepsDefinitions_seasonalTale : ∃ row ∈ seasonalTale.variables, row.name = "season" ∧
    row.record.definition = .ok season ∧
    updateVariable 2 row.id .unchanged seasonalTale = .ok (row, seasonalTale) ∧
    ∃ after, setStoryValues 1 (.ofList [("season", .string "winter")]) seasonalTale =
      .ok (.ofList [("season", .string "winter")], after) := by
  have hkeeps := reachable_seasonalTale.keepsDefinitions
  obtain ⟨pack, hpack, hid, heditable⟩ : ∃ pack ∈ seasonalTale.packs, pack.id = 2 ∧
      pack.isDefault = false := by decide +kernel
  obtain ⟨row, hrow, howner, hdefinition⟩ : ∃ row ∈ seasonalTale.variables, row.packId = 2 ∧
      row.definition = season := by decide +kernel
  have hname : row.name = "season" := congrArg VariableDefinition.name hdefinition
  have hdefault : row.defaultValue = some "winter" :=
    congrArg VariableDefinition.defaultValue hdefinition
  obtain ⟨story, hstory, hnumber, hpackId⟩ : ∃ story ∈ seasonalTale.stories, story.id = 1 ∧
      story.packId = 2 := by decide +kernel
  obtain ⟨text, htext, htakes⟩ := hkeeps.takes story hstory row hrow (howner.trans hpackId.symm)
  rw [htext "winter" hdefault, hname, hnumber] at htakes
  refine ⟨row, hrow, hname, ?_, ?_, _, htakes⟩
  · rw [hkeeps.converts row hrow, hdefinition]
  · rw [← hid]
    exact hkeeps.updates pack hpack heditable row hrow (howner.trans hid.symm)

end Reachable

end PromptPacks
