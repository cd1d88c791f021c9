import PromptPacks.Proofs.Store.Atomicity
import PromptPacks.Proofs.Store.Definitions
import PromptPacks.Proofs.Store.Isolation
import PromptPacks.Proofs.Text.ByteOrder

namespace PromptPacks

open PromptPacks.Json PromptPacks.Number PromptPacks.Store PromptPacks.Text PromptPacks.Transaction

namespace Json

/-- The text that a string, a whole number or a truth value is checked as. -/
inductive IsShownAs : Json → String → Prop
  | string (s : String) : IsShownAs (.string s) s
  | integer (n : Int) : IsShownAs (.integer n) (toString n)
  | true : IsShownAs (.bool true) "true"
  | false : IsShownAs (.bool false) "false"

/-- A document that is no floating-point number. Whole numbers are those that
    fit into 64 bits. -/
def IsPlain : Json → Prop
  | .float _ => False
  | .integer n => minInt64 ≤ n ∧ n ≤ maxUnsigned64
  | _ => True

variable {value : Json} {text : String}

/-- The text form of a plain value, said without the function that finds it.
    Fractions are left out, as they are of no plain value. -/
theorem isShownAs_iff (hplain : value.IsPlain) :
    value.IsShownAs text ↔ scalarText? value = some text := by
  constructor
  · rintro (_ | _ | _ | _) <;> rfl
  · intro htext
    cases value with
    | null | array items | object fields => cases htext
    | float x => cases hplain
    | string s =>
      cases htext
      exact .string text
    | integer n =>
      cases htext
      exact .integer n
    | bool b =>
      cases htext
      cases b
      · exact .false
      · exact .true

/-- A plain value with a text form can be written and read back. -/
theorem IsShownAs.isExact (hshown : value.IsShownAs text) (hplain : value.IsPlain) :
    value.IsExact := by
  cases hshown with
  | integer => exact hplain
  | string | true | false => trivial

/-- What has a text form has no parts. -/
theorem IsShownAs.depth_eq_zero (hshown : value.IsShownAs text) : value.depth = 0 := by
  cases hshown <;> rfl

end Json

namespace Tables

variable {tables : Tables} {packId : Int} {name : String} {value : Json}

/-- A variable of a pack takes a value: the text form of the value is valid for
    it. -/
def TakesValue (tables : Tables) (packId : Int) (name : String) (value : Json) : Prop :=
  ∃ row ∈ tables.variables, row.packId = packId ∧ row.name = name ∧
    ∃ text, value.IsShownAs text ∧ row.definition.checkValue text = .ok ()

/-- What a pack says to a value that it does not take. -/
inductive RefusesValue (tables : Tables) (packId : Int) (name : String) (value : Json) :
    Refusal → Prop
  | undeclared (hnone : ∀ row ∈ tables.variables, row.packId = packId → row.name ≠ name) :
    RefusesValue tables packId name value (.violation (.undeclaredOverride name))
  | composite {row : PackVariable} (hrow : row ∈ tables.variables) (howner : row.packId = packId)
    (hname : row.name = name) (hcomposite : ∀ text, ¬value.IsShownAs text) :
    RefusesValue tables packId name value (.violation (.compositeOverride name))
  | unfit {row : PackVariable} (hrow : row ∈ tables.variables) (howner : row.packId = packId)
    (hname : row.name = name) {text : String} (hshown : value.IsShownAs text) {refusal : Refusal}
    (hcheck : row.definition.checkValue text = .error refusal) :
    RefusesValue tables packId name value refusal

/-- The definitions by which a store checks the values of a story that uses a
    pack. -/
def declared (tables : Tables) (packId : Int) : List VariableDefinition :=
  (tables.variablesOf packId).map (·.definition)

/-- When a value is accepted, said in words: the pack declares its name, and its
    text form fits the declaration. -/
theorem Valid.checkOverride_eq_ok_iff (hvalid : tables.Valid) (hplain : value.IsPlain) :
    checkOverride (tables.declared packId) name value = .ok () ↔
      tables.TakesValue packId name value := by
  have htakes : tables.TakesValue packId name value ↔
      ∃ row, tables.variableNamed? packId name = some row ∧
        ∃ text, value.IsShownAs text ∧ row.definition.checkValue text = .ok () := by
    simp only [hvalid.variableNamed?_eq_some_iff, TakesValue, and_assoc]
  rw [checkOverride, declared, hvalid.find?_declared, htakes]
  cases tables.variableNamed? packId name with
  | none => simp
  | some row =>
    simp only [isShownAs_iff hplain]
    cases scalarText? value <;> simp

/-- What a rejected value lacks, for each of the refusals. A pack has one
    variable of a name, so it does not matter which row the check looks at. -/
theorem Valid.refusesValue_of_checkOverride (hvalid : tables.Valid) (hplain : value.IsPlain)
    {refusal : Refusal}
    (hcheck : checkOverride (tables.declared packId) name value = .error refusal) :
    tables.RefusesValue packId name value refusal := by
  rw [checkOverride, declared, hvalid.find?_declared] at hcheck
  cases hrow : tables.variableNamed? packId name with
  | none =>
    rw [hrow] at hcheck
    cases hcheck
    refine .undeclared fun row hmem howner hname => ?_
    exact variableNamed?_eq_none.1 hrow row hmem (Prod.ext howner hname)
  | some row =>
    obtain ⟨hmem, howner, hname⟩ := hvalid.variableNamed?_eq_some_iff.1 hrow
    rw [hrow, Option.map_some] at hcheck
    cases htext : scalarText? value with
    | none =>
      simp only [htext] at hcheck
      cases hcheck
      refine .composite hmem howner hname fun text hshown => ?_
      cases htext.symm.trans ((isShownAs_iff hplain).1 hshown)
    | some text =>
      simp only [htext] at hcheck
      exact .unfit hmem howner hname ((isShownAs_iff hplain).2 htext) hcheck

end Tables

namespace Store

variable {tables : Tables} {story : Story} {values : Dictionary Json}

section

variable (hvalid : tables.Valid) (hstory : story ∈ tables.stories)
  (hread : story.record.readValues? = some story.values)

include hvalid hstory hread

/-- A story of the tables is read as it is. -/
theorem readStory_of_mem : readStory story.id tables = .ok (story, tables) :=
  readStory_eq_ok (hvalid.story?_of_mem hstory) hread

/-- The values of a story are told as they are. -/
theorem storyValues_eq_ok : storyValues story.id tables = .ok (story.values, tables) := by
  rw [storyValues, bind_eq_of_ok (readStory_of_mem hvalid hstory hread)]
  rfl

/-- Values of which one is rejected are refused, and none of them is stored. -/
theorem setStoryValues_of_refused {refusal : Refusal}
    (hcheck : checkOverrides (tables.declared story.packId) values = .error refusal) :
    setStoryValues story.id values tables = .error (.refused refusal) := by
  have hrefused : checkOverrides ((tables.variablesOf story.packId).map (·.definition)) values =
      .error refusal := hcheck
  rw [setStoryValues, bind_eq_of_ok (readStory_of_mem hvalid hstory hread),
    bind_eq_of_ok (readDefinitions_eq_ok tables story.packId), hrefused]
  rfl

/-- Nothing but the check of the values decides whether they are stored. The
    story can be read, its pack exists, and the definitions of the pack can be
    read whatever they are. -/
theorem setStoryValues_eq_ok_iff :
    (∃ answer after, setStoryValues story.id values tables = .ok (answer, after)) ↔
      checkOverrides (tables.declared story.packId) values = .ok () := by
  constructor
  · rintro ⟨answer, after, hrun⟩
    cases hcheck : checkOverrides (tables.declared story.packId) values with
    | ok _ => rfl
    | error refusal => cases hrun.symm.trans (setStoryValues_of_refused hvalid hstory hread hcheck)
  · intro hcheck
    exact ⟨_, _, setStoryValues_eq_ok (hvalid.story?_of_mem hstory) hread
      (hvalid.storyPacks story hstory) hcheck⟩

/-- Values are refused because of the first one, in the order of their names,
    that the check does not accept. -/
theorem exists_of_setStoryValues_eq_error {reason : StoreFailure}
    (hrun : setStoryValues story.id values tables = .error reason) :
    ∃ name value refusal, values.get? name = some value ∧ reason = .refused refusal ∧
      checkOverride (tables.declared story.packId) name value = .error refusal ∧
        ∀ other json, values.get? other = some json → other < name →
          checkOverride (tables.declared story.packId) other json = .ok () := by
  cases hcheck : checkOverrides (tables.declared story.packId) values with
  | ok _ =>
    obtain ⟨answer, after, hruns⟩ := (setStoryValues_eq_ok_iff hvalid hstory hread).2 hcheck
    cases hrun.symm.trans hruns
  | error refusal =>
    obtain ⟨name, value, hvalue, hfault, hbefore⟩ := exists_of_checkOverrides_eq_error hcheck
    have hrefused := setStoryValues_of_refused hvalid hstory hread hcheck
    exact ⟨name, value, refusal, hvalue, Except.error.inj (hrun.symm.trans hrefused), hfault,
      hbefore⟩

end

/-- The new values of a story can be asked for, and they can be read from its
    record. This needs nothing of the other stories but that they could be read
    before. -/
theorem setStoryValues_stores (hvalid : tables.Valid) (hreads : tables.ReadsStories)
    (hstory : story ∈ tables.stories) {answer : Dictionary Json} {after : Tables}
    (hrun : setStoryValues story.id values tables = .ok (answer, after))
    (hexact : ∀ entry ∈ values.entries, entry.2.IsExact ∧ entry.2.depth = 0) :
    answer = values ∧ storyValues story.id after = .ok (values, after) ∧
      readStory story.id after = .ok ({ story with values }, after) := by
  have hmap := setStoryValues_eq_mapStory hvalid hreads hrun
  obtain ⟨-, -, -, hanswer, -, hnext⟩ :=
    (setStoryValues_spec hvalid hreads story.id values).of_ok hrun
  have hmem : { story with values } ∈ after.stories := by
    rw [hmap]
    exact List.mem_map.2 ⟨story, hstory, if_pos rfl⟩
  have hread := @Story.readValues?_record { story with values } hexact
  exact ⟨hanswer, storyValues_eq_ok hnext hmem hread, readStory_of_mem hnext hmem hread⟩

end Store

/-- What becomes of the values that a story of some tables is to have instead of
    its own. They are stored as they are given if the pack of the story takes
    each of them, and no other row changes. Otherwise the first name in the
    order of bytes whose value is refused tells why, and the story has the
    values that it had. Names may be given in any order. -/
structure Tables.SettlesValues (registry : Registry) (tables : Tables) (story : Story)
    (entries : List (String × Json)) : Prop where
  succeeds : (∃ answer after,
      setStoryValues story.id (.ofList entries) tables = .ok (answer, after)) ↔
    ∀ entry ∈ entries, tables.TakesValue story.packId entry.1 entry.2
  stores : ∀ answer after,
    setStoryValues story.id (.ofList entries) tables = .ok (answer, after) →
      (∀ name value, answer.get? name = some value ↔ (name, value) ∈ entries) ∧
      storyValues story.id after = .ok (answer, after) ∧
      readStory story.id after = .ok ({ story with values := answer }, after) ∧
      after = tables.mapStory story.id ({ · with values := answer })
  refuses : ∀ reason, setStoryValues story.id (.ofList entries) tables = .error reason →
    ∃ name value refusal, (name, value) ∈ entries ∧ reason = .refused refusal ∧
      tables.RefusesValue story.packId name value refusal ∧
      ∀ entry ∈ entries, bytes entry.1 < bytes name →
        tables.TakesValue story.packId entry.1 entry.2
  keeps : ∀ reason, setStoryValues story.id (.ofList entries) tables = .error reason →
    ∀ faults, ∃ fault left,
      ((Request.setStoryValues story.id (.ofList entries)).procedure registry).perform faults
        tables = (.error fault, left) ∧
      storyValues story.id left = .ok (story.values, left)
  ordered : ∀ others, entries.Perm others →
    setStoryValues story.id (.ofList others) tables =
      setStoryValues story.id (.ofList entries) tables

namespace Reachable

variable {registry : Registry} {tables : Tables} {story : Story}

/-- What setting values does, for every story of every store and every list of
    plain values: acceptance, the values that are kept, the refusal for the
    first fault, and the other stories. -/
theorem settlesValues (hreachable : Reachable registry tables) (hstory : story ∈ tables.stories)
    {entries : List (String × Json)} (hnames : (entries.map (·.1)).Nodup)
    (hplain : ∀ entry ∈ entries, entry.2.IsPlain) :
    tables.SettlesValues registry story entries := by
  have hvalid := hreachable.valid
  have hreads := hreachable.sound.stories
  have hread := hreads story hstory
  have hget : ∀ {name value}, (Dictionary.ofList entries).get? name = some value ↔
      (name, value) ∈ entries := Dictionary.get?_ofList_eq_some_iff hnames
  have hsucceeds : (∃ answer after,
      setStoryValues story.id (.ofList entries) tables = .ok (answer, after)) ↔
        ∀ entry ∈ entries, tables.TakesValue story.packId entry.1 entry.2 := by
    rw [setStoryValues_eq_ok_iff hvalid hstory hread, checkOverrides_eq_ok_iff, Prod.forall]
    refine forall_congr' fun name => forall_congr' fun value => ?_
    rw [hget]
    exact forall_congr' fun hmem => hvalid.checkOverride_eq_ok_iff (hplain _ hmem)
  exact {
    succeeds := hsucceeds
    stores := by
      intro answer after hrun
      obtain ⟨rfl, hasked, hread⟩ :=
        setStoryValues_stores hvalid hreads hstory hrun fun entry hentry => by
          have hgiven := hget.1 (Dictionary.mem_entries_iff.1 hentry)
          obtain ⟨-, -, -, -, text, hshown, -⟩ := hsucceeds.1 ⟨answer, after, hrun⟩ _ hgiven
          exact ⟨hshown.isExact (hplain _ hgiven), hshown.depth_eq_zero⟩
      exact ⟨fun _ _ => hget, hasked, hread, setStoryValues_eq_mapStory hvalid hreads hrun⟩
    refuses := by
      intro reason hrun
      obtain ⟨name, value, refusal, hvalue, hreason, hfault, hbefore⟩ :=
        exists_of_setStoryValues_eq_error hvalid hstory hread hrun
      have hgiven := hget.1 hvalue
      refine ⟨name, value, refusal, hgiven, hreason,
        hvalid.refusesValue_of_checkOverride (hplain _ hgiven) hfault, fun entry hentry hlt => ?_⟩
      have hpasses := hbefore entry.1 entry.2 (hget.2 hentry) (lt_iff_bytes_lt.2 hlt)
      exact (hvalid.checkOverride_eq_ok_iff (hplain entry hentry)).1 hpasses
    keeps := by
      intro reason hrun faults
      obtain ⟨fault, hfails⟩ := (Request.setStoryValues story.id
        (.ofList entries)).perform_of_run_eq_error registry hrun faults
      exact ⟨fault, tables, hfails, storyValues_eq_ok hvalid hstory hread⟩
    ordered := fun others hperm => by rw [Dictionary.ofList_eq_of_perm hnames hperm] }

/-- Both values are refused, and the one under the smaller name tells why,
    though it comes last. -/
theorem settlesValues_seasonalTale :
    setStoryValues 1 (.ofList [("weather", .null), ("season", .null)]) seasonalTale =
        .error (.refused (.violation (.compositeOverride "season"))) ∧
      ∃ answer after, setStoryValues 1 (.ofList [("season", .string "summer")]) seasonalTale =
          .ok (answer, after) ∧
        answer.get? "season" = some (.string "summer") ∧
        storyValues 1 after = .ok (answer, after) := by
  obtain ⟨story, hstory, hid, hpack⟩ : ∃ story ∈ seasonalTale.stories, story.id = 1 ∧
      story.packId = 2 := by decide +kernel
  obtain ⟨row, hrow, howner, hname, hfits⟩ : ∃ row ∈ seasonalTale.variables, row.packId = 2 ∧
      row.name = "season" ∧ row.definition.checkValue "summer" = .ok () := by decide +kernel
  have hnull : ∀ text, ¬Json.null.IsShownAs text := by rintro text ⟨⟩
  rw [← hid]
  constructor
  · have hsettles : seasonalTale.SettlesValues .empty story
        [("weather", .null), ("season", .null)] :=
      reachable_seasonalTale.settlesValues hstory (by decide) (by simp [Json.IsPlain])
    have hseason : ¬seasonalTale.TakesValue story.packId "season" .null := by
      rintro ⟨-, -, -, -, text, hshown, -⟩
      exact hnull text hshown
    cases hrun : setStoryValues story.id (.ofList [("weather", .null), ("season", .null)])
        seasonalTale with
    | ok result =>
      have htakes := hsettles.succeeds.1 ⟨result.1, result.2, hrun⟩
      exact absurd (htakes ("season", .null) (by simp)) hseason
    | error reason =>
      obtain ⟨name, value, refusal, hmem, rfl, hrefuses, hbefore⟩ := hsettles.refuses reason hrun
      simp only [List.mem_cons, Prod.mk.injEq, List.not_mem_nil, or_false] at hmem
      obtain ⟨rfl, rfl⟩ | ⟨rfl, rfl⟩ := hmem
      · have hlt : bytes "season" < bytes "weather" := bytes_lt_bytes (by decide)
        exact absurd (hbefore ("season", .null) (by simp) hlt) hseason
      · cases hrefuses with
        | undeclared hnone => exact absurd hname (hnone row hrow (howner.trans hpack.symm))
        | composite => rfl
        | unfit _ _ _ hshown => exact absurd hshown (hnull _)
  · have hsettles : seasonalTale.SettlesValues .empty story [("season", .string "summer")] :=
      reachable_seasonalTale.settlesValues hstory (by decide) (by simp [Json.IsPlain])
    obtain ⟨answer, after, hrun⟩ := hsettles.succeeds.2 fun entry hentry => by
      obtain rfl := List.mem_singleton.1 hentry
      exact ⟨row, hrow, howner.trans hpack.symm, hname, "summer", .string "summer", hfits⟩
    obtain ⟨hget, hasked, -⟩ := hsettles.stores answer after hrun
    exact ⟨answer, after, hrun, (hget _ _).2 (by simp), hasked⟩

end Reachable

end PromptPacks
