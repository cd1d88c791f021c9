import PromptPacks.Context.Layers
import PromptPacks.Proofs.Variable.Registry

namespace PromptPacks

open PromptPacks.Text

/-- Items with distinct names, some of which have a value, give their values to
    their names. An item without a value leaves its name without one, so that a
    lower layer counts for it. -/
theorem lastValue?_filterMap {α β : Type} {items : List β} {name : β → String}
    (hnames : (items.map name).Nodup) (value? : β → Option α) (key : String) :
    lastValue? (items.filterMap fun item => (value? item).map (name item, ·)) key =
      (items.find? (name · == key)).bind value? := by
  induction items with
  | nil => rfl
  | cons item rest ih =>
    obtain ⟨hfresh, hrest⟩ := List.nodup_cons.1 hnames
    by_cases hkey : name item = key
    · have hnone : rest.find? (name · == key) = none := by
        rw [List.find?_eq_none]
        intro other hother
        simp only [beq_iff_eq]
        intro hname
        exact hfresh (List.mem_map.2 ⟨other, hother, hname.trans hkey.symm⟩)
      rw [List.find?_cons_of_pos (by simpa using hkey), Option.bind_some]
      cases hvalue : value? item with
      | none => rw [List.filterMap_cons_none (by simp [hvalue]), ih hrest, hnone, Option.bind_none]
      | some value =>
        rw [List.filterMap_cons_some (by rw [hvalue]; rfl), lastValue?_cons, ih hrest, hnone,
          Option.bind_none, Option.none_or, if_pos hkey.symm]
    · rw [List.find?_cons_of_neg (by simpa using hkey)]
      cases hvalue : value? item with
      | none => rw [List.filterMap_cons_none (by simp [hvalue]), ih hrest]
      | some value =>
        rw [List.filterMap_cons_some (by rw [hvalue]; rfl), lastValue?_cons, ih hrest,
          if_neg (Ne.symm hkey), Option.or_none]

/-- The default value of a definition, coerced by its type. -/
def VariableDefinition.default? (definition : VariableDefinition) : Option ContextValue :=
  definition.defaultValue.map (ContextValue.coerce · definition.type)

/-- The default value of the system variable with a name. -/
def Registry.systemDefault? (registry : Registry) (name : String) : Option ContextValue :=
  ((registry.get? name).filter (·.category = .system)).bind (·.default?)

namespace StoryFacts

/-- The field of a story that a system variable shows. -/
def field? (facts : StoryFacts) (name : String) : Option String :=
  match name with
  | "storyTitle" => facts.title
  | "genre" => facts.genre
  | "mode" => facts.mode
  | "pov" => facts.pov
  | "tense" => facts.tense
  | "protagonistName" => facts.protagonistName
  | _ => none

/-- What a story says about a system variable. It says nothing with a blank
    field. -/
def shown? (facts : StoryFacts) (name : String) : Option ContextValue :=
  ((facts.field? name).filter (!isBlankText ·)).map .text

/-- The fields with the names of the system variables that show them. -/
def fields (facts : StoryFacts) : List (String × Option String) :=
  [("storyTitle", facts.title), ("genre", facts.genre), ("mode", facts.mode), ("pov", facts.pov),
    ("tense", facts.tense), ("protagonistName", facts.protagonistName)]

/-- A search in the list of the facts of a story finds what the fact of that
    name is. The names of the list are fixed and distinct, so this can be
    checked name by name. -/
theorem find?_fields {facts : StoryFacts} {name : String} :
    (facts.fields.find? (·.1 == name)).bind (·.2) = facts.field? name := by
  unfold field?
  split
  case h_7 htitle hgenre hmode hpov htense hprotagonist =>
    simp [fields, Ne.symm htitle, Ne.symm hgenre, Ne.symm hmode, Ne.symm hpov, Ne.symm htense,
      Ne.symm hprotagonist]
  all_goals simp [fields]

/-- The entries of a story's facts hold for each name the fact that is shown,
    and nothing where there is none to show. -/
theorem lastValue?_entries {facts : StoryFacts} {name : String} :
    lastValue? facts.entries name = facts.shown? name := by
  have hform : facts.entries = facts.fields.filterMap fun field =>
      ((field.2.filter (!isBlankText ·)).map ContextValue.text).map (field.1, ·) := by
    simp only [entries, fields, Option.map_map, Function.comp_def]
  have hnames : (facts.fields.map (·.1)).Nodup := by simp [fields]
  rw [hform, lastValue?_filterMap hnames, shown?, ← find?_fields]
  cases facts.fields.find? (·.1 == name) <;> rfl

end StoryFacts

variable {declared : List VariableDefinition} {registry : Registry} {name : String}

/-- In the layer of defaults a name has the default of its definition, where it
    has a definition with one. Distinct names, which every pack has, make the
    order of the definitions irrelevant. -/
theorem get?_defaultsLayer (hnames : (declared.map (·.name)).Nodup) :
    (defaultsLayer declared).get? name =
      (declared.find? (·.name == name)).bind (·.default?) := by
  rw [defaultsLayer, Dictionary.get?_ofList, ← lastValue?_filterMap hnames]
  simp only [VariableDefinition.default?, Option.map_map, Function.comp_def]

/-- In the layer of the system a fact of the story counts before the default of
    the system variable. The registry need only keep each definition under its
    own name. -/
theorem get?_systemLayer (hkeyed : registry.IsKeyed) {facts : Option StoryFacts} :
    (systemLayer registry facts).get? name =
      (facts.bind (·.shown? name)).or (registry.systemDefault? name) := by
  rw [systemLayer, Dictionary.get?_overlay, get?_defaultsLayer (hkeyed.nodup_ofCategory _),
    hkeyed.find?_ofCategory, Registry.systemDefault?, Dictionary.get?_ofList]
  congr 1
  cases facts with
  | none => rfl
  | some facts => exact StoryFacts.lastValue?_entries

/-- A value that a story sets is read by the type of the variable, if there is
    one. Values under names that are not declared are read as well, and enter
    the layer. -/
theorem get?_overridesLayer {overrides : Dictionary Json} :
    (overridesLayer declared overrides).get? name =
      (overrides.get? name).bind (ContextValue.ofJson? (declaredType? declared name)) := by
  rw [overridesLayer, Dictionary.get?_ofList, lastValue?_filterMap overrides.nodup_names,
    Dictionary.get?]
  cases hfound : overrides.entries.find? (·.1 == name) with
  | none => rfl
  | some entry =>
    obtain rfl : entry.1 = name := by simpa using List.find?_some hfound
    rfl

/-- A check of one item after the other accepts all of them, or it ends at the
    first item that it does not accept. Both cases say all that is known of the
    items, so callers do not go through the loop again. -/
theorem forM_cases {α ε : Type} (check : α → Except ε Unit) (items : List α) :
    (items.forM check = .ok () ∧ ∀ item ∈ items, check item = .ok ()) ∨
      ∃ passed item rest reason, items = passed ++ item :: rest ∧
        items.forM check = .error reason ∧ check item = .error reason ∧
          ∀ other ∈ passed, check other = .ok () := by
  induction items with
  | nil => exact .inl ⟨rfl, by simp⟩
  | cons first rest ih =>
    have hstep : (first :: rest).forM check = check first >>= fun _ => rest.forM check := rfl
    cases hfirst : check first with
    | error reason =>
      exact .inr ⟨[], first, rest, reason, rfl, by rw [hstep, hfirst]; rfl, hfirst, by simp⟩
    | ok _ =>
      have hrest : (first :: rest).forM check = rest.forM check := by rw [hstep, hfirst]; rfl
      rw [hrest]
      obtain ⟨hall, hitems⟩ | ⟨passed, item, more, reason, rfl, hrun, hitem, hpassed⟩ := ih
      · exact .inl ⟨hall, List.forall_mem_cons.2 ⟨hfirst, hitems⟩⟩
      · exact .inr ⟨first :: passed, item, more, reason, rfl, hrun, hitem,
          List.forall_mem_cons.2 ⟨hfirst, hpassed⟩⟩

/-- Values are accepted together if each of them is accepted. The order of the
    names plays no part in this, it only decides which fault is told. -/
theorem checkOverrides_eq_ok_iff {overrides : Dictionary Json} :
    checkOverrides declared overrides = .ok () ↔ ∀ name value, overrides.get? name = some value →
      checkOverride declared name value = .ok () := by
  simp only [← Dictionary.mem_entries_iff]
  unfold checkOverrides
  obtain ⟨hall, hitems⟩ | ⟨passed, item, rest, reason, heq, hrun, hitem, -⟩ :=
    forM_cases (fun entry => checkOverride declared entry.1 entry.2) overrides.entries
  · exact iff_of_true hall fun name value hmem => hitems (name, value) hmem
  · refine iff_of_false (by simp [hrun]) fun hitems => ?_
    have hmem : (item.1, item.2) ∈ overrides.entries := by
      rw [heq]
      exact List.mem_append_right _ List.mem_cons_self
    cases hitem.symm.trans (hitems item.1 item.2 hmem)

/-- Values are rejected together because of the first one, in the order of their
    names, that is rejected. Behind it stand greater names only, so all smaller
    names have been accepted before. -/
theorem exists_of_checkOverrides_eq_error {overrides : Dictionary Json} {refusal : Refusal}
    (hcheck : checkOverrides declared overrides = .error refusal) :
    ∃ name value, overrides.get? name = some value ∧
      checkOverride declared name value = .error refusal ∧
        ∀ other json, overrides.get? other = some json → other < name →
          checkOverride declared other json = .ok () := by
  unfold checkOverrides at hcheck
  obtain ⟨hall, -⟩ | ⟨passed, item, rest, reason, heq, hrun, hitem, hpassed⟩ :=
    forM_cases (fun entry => checkOverride declared entry.1 entry.2) overrides.entries
  · cases hall.symm.trans hcheck
  · obtain rfl := Except.error.inj (hrun.symm.trans hcheck)
    have hascending := overrides.ascending
    rw [heq] at hascending
    obtain ⟨-, hlater, -⟩ := List.pairwise_append.1 hascending
    simp only [← Dictionary.mem_entries_iff, heq]
    refine ⟨item.1, item.2, List.mem_append_right _ List.mem_cons_self, hitem, ?_⟩
    intro other json hmem hlt
    obtain hmem | hmem := List.mem_append.1 hmem
    · exact hpassed (other, json) hmem
    obtain heq | hmem := List.mem_cons.1 hmem
    · exact absurd (congrArg Prod.fst heq) (String.ne_of_lt hlt)
    · exact absurd ((List.pairwise_cons.1 hlater).1 _ hmem) (String.lt_asymm hlt)

/-- Acceptance of one value: its name is declared, and its text form fits the
    declaration. The kind of the document itself is not looked at. -/
theorem checkOverride_eq_ok_iff {value : Json} :
    checkOverride declared name value = .ok () ↔
      ∃ definition text, declared.find? (·.name == name) = some definition ∧
        scalarText? value = some text ∧ definition.valueFault? text = none := by
  rw [checkOverride]
  cases declared.find? (·.name == name) with
  | none => simp
  | some definition =>
    cases scalarText? value with
    | none => simp
    | some text => cases hfault : definition.valueFault? text <;>
        simp [VariableDefinition.checkValue, hfault]

/-- Accepted values stand under declared names, and each of them has a text
    form. This is all that the layers need to know of the acceptance. -/
theorem checkOverrides_eq_ok {overrides : Dictionary Json}
    (haccepted : checkOverrides declared overrides = .ok ()) {value : Json}
    (hvalue : overrides.get? name = some value) :
    (declared.find? (·.name == name)).isSome = true ∧ (scalarText? value).isSome = true := by
  obtain ⟨definition, text, hfound, htext, -⟩ :=
    checkOverride_eq_ok_iff.1 (checkOverrides_eq_ok_iff.1 haccepted name value hvalue)
  exact ⟨by rw [hfound]; rfl, by rw [htext]; rfl⟩

/-- No accepted value has parts, as what has parts has no text form. So accepted
    values can be written and read back whatever their nesting is bounded by. -/
theorem depth_of_checkOverrides_eq_ok {overrides : Dictionary Json}
    (haccepted : checkOverrides declared overrides = .ok ()) :
    ∀ entry ∈ overrides.entries, entry.2.depth = 0 := by
  intro entry hentry
  have hscalar := (checkOverrides_eq_ok haccepted (Dictionary.mem_entries_iff.1 hentry)).2
  cases hvalue : entry.2 with
  | array items | object fields =>
    rw [hvalue] at hscalar
    cases hscalar
  | null | bool b | integer n | float x | string s => rfl

/-- A document with a text form is a value of a context, whatever type is
    declared. So no accepted value is dropped on its way into the layer. -/
theorem ContextValue.exists_ofJson? {value : Json} (hscalar : (scalarText? value).isSome = true)
    (type : Option VariableType) : ∃ result, ofJson? type value = some result := by
  cases value with
  | string s =>
    cases type with
    | none => exact ⟨_, rfl⟩
    | some type => exact ⟨_, rfl⟩
  | bool b => exact ⟨_, rfl⟩
  | integer n => exact ⟨_, rfl⟩
  | float x => exact ⟨_, rfl⟩
  | null | array items | object fields => cases hscalar

/-- The precedence of the four layers, name by name: runtime before overrides,
    overrides before defaults, defaults before the system. A layer without a
    value for a name leaves the name to those below. -/
theorem ContextLayers.get?_resolve (layers : ContextLayers) :
    layers.resolve.get? name = (layers.runtime.get? name).or
      ((layers.overrides.get? name).or
        ((layers.defaults.get? name).or (layers.system.get? name))) := by
  rw [resolve, Dictionary.get?_overlay, Dictionary.get?_overlay, Dictionary.get?_overlay]

end PromptPacks
