import PromptPacks.Proofs.Store.Effects

namespace PromptPacks

namespace Tables

/-- Two tables have the same of a pack: its row, its templates and its
    variables, each of them in their order. -/
structure AgreesOn (packId : Int) (tables after : Tables) : Prop where
  packs : after.packs.filter (·.id == packId) = tables.packs.filter (·.id == packId)
  templates : after.templates.filter (·.packId == packId) =
    tables.templates.filter (·.packId == packId)
  «variables» : after.variables.filter (·.packId == packId) =
    tables.variables.filter (·.packId == packId)

namespace AgreesOn

variable {packId target : Int} {tables next after : Tables}

theorem refl : AgreesOn packId tables tables :=
  ⟨rfl, rfl, rfl⟩

/-- What one change and then another leave alone is left alone by both
    together. -/
theorem trans (hfirst : AgreesOn packId tables next) (hsecond : AgreesOn packId next after) :
    AgreesOn packId tables after :=
  ⟨hsecond.packs.trans hfirst.packs, hsecond.templates.trans hfirst.templates,
    hsecond.variables.trans hfirst.variables⟩

/-- A pack that tables agree on keeps its row. -/
theorem mem_packs (hagrees : AgreesOn packId tables after) {pack : Pack}
    (hpack : pack ∈ tables.packs) (hid : pack.id = packId) : pack ∈ after.packs := by
  have hmem : pack ∈ tables.packs.filter (·.id == packId) :=
    List.mem_filter.2 ⟨hpack, by simpa using hid⟩
  rw [← hagrees.packs] at hmem
  exact (List.mem_filter.1 hmem).1

/-- Putting a template of another pack leaves a pack alone. It may replace a row
    or add one. -/
theorem put {row : PackTemplate} (hother : row.packId ≠ packId) :
    AgreesOn packId tables (tables.put row) :=
  ⟨rfl, filter_templates_put hother, rfl⟩

/-- The same for any number of templates of other packs. -/
theorem putAll {rows : List PackTemplate} (hothers : ∀ row ∈ rows, row.packId ≠ packId) :
    AgreesOn packId tables (tables.putAll rows) := by
  induction rows generalizing tables with
  | nil => exact refl
  | cons row rows ih =>
    obtain ⟨hother, hothers⟩ := List.forall_mem_cons.1 hothers
    exact (put hother).trans (ih hothers)

/-- Refreshing a template of another pack leaves a pack alone. -/
theorem refresh {row : PackTemplate} (hother : row.packId ≠ packId) :
    AgreesOn packId tables (tables.refresh row) := by
  unfold Tables.refresh
  split
  · exact refl
  · exact put hother

/-- The same for any number of them. -/
theorem refreshAll {rows : List PackTemplate} (hothers : ∀ row ∈ rows, row.packId ≠ packId) :
    AgreesOn packId tables (tables.refreshAll rows) := by
  induction rows generalizing tables with
  | nil => exact refl
  | cons row rows ih =>
    obtain ⟨hother, hothers⟩ := List.forall_mem_cons.1 hothers
    exact (refresh hother).trans (ih hothers)

/-- Adding a pack leaves every pack alone that does not get its number. -/
theorem addPack {name : String} {description author : Option String} {isDefault : Bool}
    (hother : (tables.lastPack + 1 : Int) ≠ packId) :
    AgreesOn packId tables (tables.addPack name description author isDefault) := by
  refine ⟨?_, rfl, rfl⟩
  rw [Tables.addPack, List.filter_append, List.filter_cons_of_neg (by simpa using hother),
    List.filter_nil, List.append_nil]

/-- Replacing the row of another pack leaves a pack alone. -/
theorem setPack {row : Pack} (hother : row.id ≠ packId) :
    AgreesOn packId tables (tables.setPack row) := by
  refine ⟨Rows.filter_replace (fun old _ hid => ?_) (by simpa using hother), rfl, rfl⟩
  simpa [hid] using hother

/-- Deleting another pack takes only its own rows along. -/
theorem withoutPack (hother : target ≠ packId) :
    AgreesOn packId tables (tables.withoutPack target) := by
  have hkept : ∀ {α : Type} (owner : α → Int) (rows : List α),
      (rows.filter (owner · != target)).filter (owner · == packId) =
        rows.filter (owner · == packId) := by
    intro α owner rows
    rw [List.filter_filter]
    refine List.filter_congr fun row _ => ?_
    by_cases hrow : owner row = packId
    · simp [hrow, hother.symm]
    · simp [hrow]
  exact ⟨hkept _ _, hkept _ _, hkept _ _⟩

/-- Adding variables to another pack leaves a pack alone. -/
theorem addVariables {items : List (VariableDefinition × Int)} (hother : target ≠ packId) :
    AgreesOn packId tables (tables.addVariables target items) := by
  refine ⟨rfl, rfl, ?_⟩
  have hnone : (PackVariable.numbered target tables.lastVariable items).filter
      (·.packId == packId) = [] := by
    rw [List.filter_eq_nil_iff]
    intro row hrow
    obtain ⟨item, -, heq⟩ := PackVariable.mem_numbered hrow
    rw [heq]
    simpa [PackVariable.ofDefinition] using hother
  rw [Tables.addVariables, List.filter_append, hnone, List.append_nil]

/-- A variable may be replaced if neither its new row nor any row with its
    number belongs to the pack. -/
theorem setVariable {row : PackVariable} (hother : row.packId ≠ packId)
    (hothers : ∀ old ∈ tables.variables, old.id = row.id → old.packId ≠ packId) :
    AgreesOn packId tables (tables.setVariable row) := by
  refine ⟨rfl, rfl, Rows.filter_replace (fun old hold hid => ?_) (by simpa using hother)⟩
  simpa using hothers old hold hid

/-- Variables may be deleted if none of them belongs to the pack. -/
theorem deleteVariables {condition : PackVariable → Bool}
    (hothers : ∀ row ∈ tables.variables, condition row = true → row.packId ≠ packId) :
    AgreesOn packId tables (tables.deleteVariables condition) := by
  refine ⟨rfl, rfl, ?_⟩
  rw [Tables.deleteVariables, List.filter_filter]
  refine List.filter_congr fun row hrow => ?_
  cases hcondition : condition row with
  | false => simp
  | true => simpa using hothers row hrow hcondition

end AgreesOn

end Tables

namespace Request

/-- The pack that a request is to change. The one that it adds is not meant. -/
def target? {α : Type} (tables : Tables) : Request α → Option Int
  | seed => tables.defaultPack?.map (·.id)
  | updatePack packId .. | deletePack packId | setTemplate packId .. | resetTemplate packId .. |
    resetAll packId | createVariable packId .. | updateVariable packId .. |
    deleteVariable packId .. => some packId
  | _ => none

/-- The pack whose rows a request may change: its target, or else the pack that
    it adds, which gets the next number. -/
def changed? {α : Type} (tables : Tables) : Request α → Option Int
  | seed => some ((tables.defaultPack?.map (·.id)).getD (tables.lastPack + 1))
  | createPack .. | importPack _ => some (tables.lastPack + 1)
  | request => request.target? tables

/-- The story whose row a request may change. -/
def changedStory? {α : Type} : Request α → Option Int
  | assignPack storyId _ | setStoryValues storyId _ => some storyId
  | _ => none

variable {α : Type} {registry : Registry} {tables after : Tables} {packId : Int}
  {request : Request α}

/-- Among the packs that are there, only the target may be changed. A pack that
    is added gets a number that no pack has. -/
theorem changed?_ne_of_hasPack (hvalid : tables.Valid) (hpack : tables.HasPack packId)
    (htarget : request.target? tables ≠ some packId) : request.changed? tables ≠ some packId := by
  have hnew : some (tables.lastPack + 1 : Int) ≠ some packId := by
    rintro ⟨rfl⟩
    exact hvalid.not_hasPack_next hpack
  cases request with
  | seed =>
    cases hdefault : tables.defaultPack? with
    | none => simpa [changed?, hdefault] using hnew
    | some default => simpa [changed?, target?, hdefault] using htarget
  | createPack | importPack => exact hnew
  | _ => exact htarget

/-- A request changes nothing of any pack besides the one whose rows it may
    change. For a variable this needs that only one has the given number, and it
    has been seen to belong to the target. -/
theorem Effect.agreesOn_of_changed?_ne (heffect : request.Effect registry tables after)
    (hvalid : tables.Valid) (hchanged : request.changed? tables ≠ some packId) :
    Tables.AgreesOn packId tables after := by
  have hmoved : ∀ {target : Int} {rows : List PackTemplate}, target ≠ packId →
      ∀ row ∈ rows.map (·.moved target), row.packId ≠ packId := by
    intro target rows hother row hrow
    obtain ⟨old, -, rfl⟩ := List.mem_map.1 hrow
    exact hother
  have hshipped : ∀ {target : Int}, target ≠ packId →
      ∀ row ∈ ShippedTemplate.all.map (·.row target), row.packId ≠ packId := by
    intro target hother row hrow
    obtain ⟨shipped, -, rfl⟩ := List.mem_map.1 hrow
    exact hother
  have hexported : ∀ {envelope : Envelope} {target : Int}, target ≠ packId →
      ∀ row ∈ envelope.rows target, row.packId ≠ packId := by
    intro envelope target hother row hrow
    obtain ⟨template, -, rfl⟩ := List.mem_map.1 hrow
    exact hother
  cases heffect with
  | unchanged request => exact .refl
  | seed hdefault =>
    refine .refreshAll (hshipped ?_)
    simpa [changed?, hdefault] using hchanged
  | firstSeed hdefault =>
    have hnew : (tables.lastPack + 1 : Int) ≠ packId := by
      simpa [changed?, hdefault] using hchanged
    exact .trans (.addPack hnew) (.refreshAll (hshipped hnew))
  | createPack =>
    have hnew : (tables.lastPack + 1 : Int) ≠ packId := by simpa [changed?] using hchanged
    exact .trans (.addPack hnew) (.trans (.putAll (hmoved hnew)) (.addVariables hnew))
  | updatePack => exact .setPack (by simpa [changed?, target?] using hchanged)
  | deletePack => exact .withoutPack (by simpa [changed?, target?] using hchanged)
  | setTemplate => exact .put (by simpa [changed?, target?] using hchanged)
  | @resetTemplate target =>
    have hother : target ≠ packId := by simpa [changed?, target?] using hchanged
    exact .put hother
  | resetAll => exact .putAll (hmoved (by simpa [changed?, target?] using hchanged))
  | createVariable => exact .addVariables (by simpa [changed?, target?] using hchanged)
  | @updateVariable target variableId patch pack existing _ _ hexisting howner =>
    have hother : target ≠ packId := by simpa [changed?, target?] using hchanged
    obtain ⟨hmem, -⟩ := Tables.variableRow?_eq_some hexisting
    refine .setVariable hother fun old hold hid => ?_
    rw [List.inj_on_of_nodup_map hvalid.variableIds hold hmem hid, howner]
    exact hother
  | @deleteVariable target variableId pack existing _ _ hexisting howner =>
    have hother : target ≠ packId := by simpa [changed?, target?] using hchanged
    obtain ⟨hmem, hid⟩ := Tables.variableRow?_eq_some hexisting
    refine .deleteVariables fun row hrow heq => ?_
    rw [List.inj_on_of_nodup_map hvalid.variableIds hrow hmem
      (by simpa [hid] using heq), howner]
    exact hother
  | importPack =>
    have hnew : (tables.lastPack + 1 : Int) ≠ packId := by simpa [changed?] using hchanged
    exact .trans (.addPack hnew) (.trans (.putAll (hexported hnew))
      (.trans (.putAll (hmoved hnew)) (.addVariables hnew)))
  | assignPack row => exact ⟨rfl, rfl, rfl⟩
  | setStoryValues row => exact ⟨rfl, rfl, rfl⟩

/-- A request changes nothing of any pack that is there besides the one it is to
    change. For the pack that an import or a copy adds nothing has to be shown. -/
theorem Effect.agreesOn (heffect : request.Effect registry tables after) (hvalid : tables.Valid)
    (hpack : tables.HasPack packId) (htarget : request.target? tables ≠ some packId) :
    Tables.AgreesOn packId tables after :=
  heffect.agreesOn_of_changed?_ne hvalid (changed?_ne_of_hasPack hvalid hpack htarget)

/-- Stories are changed by requests for stories only. Requests for packs never
    reach them. -/
theorem Effect.stories_eq (heffect : request.Effect registry tables after)
    (hstory : request.changedStory? = none) : after.stories = tables.stories := by
  cases heffect with
  | assignPack | setStoryValues => cases hstory
  | seed | firstSeed => exact Tables.stories_refreshAll
  | createPack | resetAll => exact Tables.stories_putAll _
  | importPack => exact (Tables.stories_putAll _).trans (Tables.stories_putAll _)
  | _ => rfl

end Request

end PromptPacks
