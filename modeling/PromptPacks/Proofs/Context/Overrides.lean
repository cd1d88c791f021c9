import PromptPacks.Proofs.Context.Layers
import PromptPacks.Proofs.Number.FloatReading

namespace PromptPacks

open PromptPacks.Number PromptPacks.Text

/-- A value has the kind of a definition: numbers for a number, truth values for
    a boolean, and texts for all else, where an enumeration admits the values of
    its options only. -/
def ContextValue.HasKind (definition : VariableDefinition) : ContextValue → Prop
  | .integer _ | .number _ => definition.type = .number
  | .bool _ => definition.type = .boolean
  | .text s =>
    match definition.type with
    | .text | .textarea => True
    | .enum => ∃ option ∈ definition.optionList, option.value = s
    | .number | .boolean => False
  | .list _ => False

/-- A scalar document says no more about its kind than a type does: it is a
    text, or it is of the kind that the type asks for. -/
def Json.Suits (type : VariableType) : Json → Prop
  | .string _ => True
  | .integer _ | .float _ => type = .number
  | .bool _ => type = .boolean
  | .null | .array _ | .object _ => False

/-- A text without white space is not changed when white space at its ends is
    dropped. -/
theorem Text.trim_of_forall_not_isBlank {cs : List Char} (hblank : ∀ c ∈ cs, isBlank c = false) :
    trim cs = cs := by
  have hstart : ∀ cs : List Char, (∀ c ∈ cs, isBlank c = false) → cs.dropWhile isBlank = cs := by
    rintro (_ | ⟨c, rest⟩) hblank
    · rfl
    · rw [List.dropWhile_cons_of_neg (by simp [hblank c List.mem_cons_self])]
  rw [trim, trimStart, hstart cs hblank, trimEnd, dropEndWhile,
    hstart _ fun c hmem => hblank c (List.mem_reverse.1 hmem), List.reverse_reverse]

namespace ContextValue

/-- An integer is coerced back from its own text. One that does not fit into
    sixty-four bits becomes the same double on both sides. -/
theorem coerce_toString (n : Int) : coerce (toString n) .number = ofInt n := by
  rw [coerce, Text.trim_of_forall_not_isBlank isBlank_of_mem_toString, readIntBetween?,
    readInt?_toString, Option.filter_some, readFloat?_toString, ofInt]
  cases decide (minInt64 ≤ n) && decide (n ≤ maxInt64) <;> rfl

/-- A double is coerced back from its own text, also where the text looks like a
    whole number: the text form of a double always shows that it is one. -/
theorem coerce_floatText (x : Float) :
    coerce (String.ofList (floatText .interchange x)) .number = .number x := by
  rw [coerce, String.toList_ofList, Text.trim_of_forall_not_isBlank isBlank_of_mem_floatText,
    readIntBetween?, readInt?_floatText, readFloat?_floatText]
  rfl

/-- A truth value is coerced back from its own spelling. -/
theorem coerce_truth (b : Bool) : coerce (if b then "true" else "false") .boolean = .bool b := by
  cases b <;> rfl

/-- Reading the text form of a document of the right kind loses nothing. So it
    does not matter for such documents whether the text form or the document
    itself is kept. -/
theorem ofJson?_eq_coerce {type : VariableType} {value : Json} (hsuits : value.Suits type)
    {text : String} (htext : scalarText? value = some text) :
    ofJson? (some type) value = some (coerce text type) := by
  cases value with
  | string s =>
    cases htext
    rfl
  | integer n =>
    cases htext
    cases hsuits
    rw [coerce_toString]
    rfl
  | float x =>
    cases htext
    cases hsuits
    rw [coerce_floatText]
    rfl
  | bool b =>
    cases htext
    cases hsuits
    rw [coerce_truth]
    rfl
  | null | array items | object fields => cases htext

/-- A text that fits a definition is read as a value of its kind. Nothing is
    needed besides the check that the fit is decided by. -/
theorem hasKind_coerce {definition : VariableDefinition} {text : String}
    (hfits : definition.valueFault? text = none) :
    (coerce text definition.type).HasKind definition := by
  unfold VariableDefinition.valueFault? at hfits
  cases htype : definition.type with
  | number =>
    simp only [htype, ite_eq_left_iff, reduceCtorEq, imp_false, not_not] at hfits
    obtain ⟨x, hread⟩ := Option.isSome_iff_exists.1 hfits
    simp only [coerce, hread]
    split <;> exact htype
  | boolean =>
    simp only [htype, ite_eq_left_iff, reduceCtorEq, imp_false, not_not] at hfits
    obtain ⟨b, hread⟩ := Option.isSome_iff_exists.1 hfits
    simp only [coerce, hread]
    exact htype
  | enum =>
    simp only [htype, ite_eq_left_iff, reduceCtorEq, imp_false, not_not] at hfits
    simpa [coerce, HasKind, htype] using hfits
  | text | textarea => simp [coerce, HasKind, htype]

/-- Only texts are coerced, so the other documents give values of their own
    kind. Whether such a value has the kind of the definition is therefore known
    from the document alone. -/
theorem hasKind_ofJson?_iff {definition : VariableDefinition} {value : Json} {text : String}
    (htext : scalarText? value = some text) (hfits : definition.valueFault? text = none)
    {result : ContextValue} (hresult : ofJson? (some definition.type) value = some result) :
    result.HasKind definition ↔ value.Suits definition.type := by
  cases value with
  | string s =>
    cases htext
    cases hresult
    exact iff_of_true (hasKind_coerce hfits) trivial
  | integer n =>
    cases hresult
    rw [ofInt]
    split <;> exact Iff.rfl
  | float x | bool b =>
    cases hresult
    exact Iff.rfl
  | null | array items | object fields => cases htext

end ContextValue

variable {declared : List VariableDefinition} {overrides : Dictionary Json}

/-- An accepted value stays accepted when its text form is given instead, and so
    do all others, as each value is checked by itself. -/
theorem checkOverrides_insert_text (haccepted : checkOverrides declared overrides = .ok ())
    {name : String} {value : Json} (hvalue : overrides.get? name = some value) {text : String}
    (htext : scalarText? value = some text) :
    checkOverrides declared (overrides.insert name (.string text)) = .ok () := by
  rw [checkOverrides_eq_ok_iff] at haccepted ⊢
  intro other given hgiven
  rw [Dictionary.get?_insert] at hgiven
  split at hgiven
  next hother =>
    cases hgiven
    obtain ⟨definition, shown, hfound, hshown, hfits⟩ :=
      checkOverride_eq_ok_iff.1 (haccepted name value hvalue)
    obtain rfl : text = shown := Option.some.inj (htext.symm.trans hshown)
    exact checkOverride_eq_ok_iff.2 ⟨definition, text, hother ▸ hfound, rfl, hfits⟩
  · exact haccepted other given hgiven

/-- What is known of an accepted value: its definition, its text form, which
    fits the definition, and the value of the context. The parts are stated
    together because they share their definition. -/
theorem exists_of_accepted (haccepted : checkOverrides declared overrides = .ok ())
    {name : String} {value : Json} (hvalue : overrides.get? name = some value) :
    ∃ definition text result, declared.find? (·.name == name) = some definition ∧
      scalarText? value = some text ∧ definition.valueFault? text = none ∧
      ContextValue.ofJson? (some definition.type) value = some result := by
  obtain ⟨definition, text, hfound, htext, hfits⟩ :=
    checkOverride_eq_ok_iff.1 (checkOverrides_eq_ok_iff.1 haccepted name value hvalue)
  have hscalar : (scalarText? value).isSome = true := by rw [htext]; rfl
  obtain ⟨result, hresult⟩ := ContextValue.exists_ofJson? hscalar (some definition.type)
  exact ⟨definition, text, result, hfound, htext, hfits, hresult⟩

/-- Under a declared name the layer holds the document read by the declared
    type, or nothing where the document has no value of a context. -/
theorem get?_overridesLayer_of_declared {name : String} {definition : VariableDefinition}
    (hfound : declared.find? (·.name == name) = some definition) {value : Json}
    (hvalue : overrides.get? name = some value) :
    (overridesLayer declared overrides).get? name =
      ContextValue.ofJson? (some definition.type) value := by
  rw [get?_overridesLayer, hvalue, declaredType?, hfound]
  rfl

/-- Accepted values enter a context under their names. Each of them has the kind
    of its definition, and is the value that its text form stands for, exactly
    if its document suits the type. -/
theorem overridesLayer_of_accepted (haccepted : checkOverrides declared overrides = .ok ()) :
    (∀ name, ((overridesLayer declared overrides).get? name).isSome =
      (overrides.get? name).isSome) ∧
    ∀ name value, overrides.get? name = some value →
      ∃ definition text result, declared.find? (·.name == name) = some definition ∧
        scalarText? value = some text ∧
        (overridesLayer declared overrides).get? name = some result ∧
        (result.HasKind definition ↔ value.Suits definition.type) ∧
        checkOverrides declared (overrides.insert name (.string text)) = .ok () ∧
        ((overridesLayer declared (overrides.insert name (.string text))).get? name =
          some result ↔ value.Suits definition.type) := by
  constructor
  · intro name
    cases hvalue : overrides.get? name with
    | none =>
      rw [get?_overridesLayer, hvalue]
      rfl
    | some value =>
      obtain ⟨definition, -, result, hfound, -, -, hresult⟩ := exists_of_accepted haccepted hvalue
      rw [get?_overridesLayer_of_declared hfound hvalue, hresult]
      rfl
  · intro name value hvalue
    obtain ⟨definition, text, result, hfound, htext, hfits, hresult⟩ :=
      exists_of_accepted haccepted hvalue
    have hkind := ContextValue.hasKind_ofJson?_iff htext hfits hresult
    have hlayer := get?_overridesLayer_of_declared hfound hvalue
    have hgiven : (overrides.insert name (.string text)).get? name = some (.string text) := by
      rw [Dictionary.get?_insert, if_pos rfl]
    have htwin := get?_overridesLayer_of_declared hfound hgiven
    refine ⟨definition, text, result, hfound, htext, hlayer.trans hresult, hkind,
      checkOverrides_insert_text haccepted hvalue htext, ?_⟩
    rw [htwin]
    constructor
    · intro hsame
      cases hsame
      exact hkind.1 (ContextValue.hasKind_coerce hfits)
    · intro hsuits
      rw [← hresult, ContextValue.ofJson?_eq_coerce hsuits htext]
      rfl

/-- A variable for the weather, which a story describes in words. -/
def weather : VariableDefinition where
  name := "weather"
  displayName := "Weather"
  type := .text
  category := .custom
  required := false
  defaultValue := none
  options := none
  description := none

/-- One of the options of a variable is accepted for it, and enters the context
    as a value of the variable's kind. -/
theorem overridesLayer_of_accepted_rain :
    checkOverrides [weather] (.ofList [("weather", .string "rain")]) = .ok () ∧
      ∃ result, (overridesLayer [weather] (.ofList [("weather", .string "rain")])).get? "weather" =
        some result ∧ result.HasKind weather := by
  have haccepted : checkOverrides [weather] (.ofList [("weather", .string "rain")]) = .ok () := rfl
  obtain ⟨definition, text, result, hfound, -, hresult, hkind, -⟩ :=
    (overridesLayer_of_accepted haccepted).2 "weather" (.string "rain") rfl
  cases hfound
  exact ⟨haccepted, result, hresult, hkind.2 trivial⟩

/-- The text form of a number is accepted for a text, but the number itself
    enters the context. Given as a text it would have entered as one, so the two
    forms of the same value are told apart. -/
theorem exists_accepted_not_hasKind : ∃ overrides : Dictionary Json, weather.check = .ok () ∧
    checkOverrides [weather] overrides = .ok () ∧
    (overridesLayer [weather] overrides).get? "weather" = some (.integer 5) ∧
    ¬(ContextValue.integer 5).HasKind weather ∧
    (overridesLayer [weather] (overrides.insert "weather" (.string "5"))).get? "weather" =
      some (.text "5") := by
  refine ⟨.ofList [("weather", .integer 5)], by decide, rfl, rfl, fun hkind => ?_, rfl⟩
  cases hkind

end PromptPacks
