import Mathlib.Data.String.Basic
import PromptPacks.Proofs.Store.Rows
import PromptPacks.Proofs.Text.Word
import PromptPacks.Variable.Rules

namespace PromptPacks

open PromptPacks.Text

/-- A character takes one byte at least, so a bound on bytes is a bound on
    characters. -/
theorem length_le_utf8ByteSize (s : String) : s.length ≤ s.utf8ByteSize := by
  rw [← String.utf8Len_toList, ← String.length_toList]
  induction s.toList with
  | nil => rfl
  | cons c rest ih =>
    have hpos := c.utf8Size_pos
    simp only [String.utf8Len_cons, List.length_cons]
    omega

/-- A character takes four bytes at most. So a quarter of the bound in
    characters is within the bound in bytes. -/
theorem utf8ByteSize_le (s : String) : s.utf8ByteSize ≤ 4 * s.length := by
  rw [← String.utf8Len_toList, ← String.length_toList]
  induction s.toList with
  | nil => rfl
  | cons c rest ih =>
    have hsize := c.utf8Size_le_four
    simp only [String.utf8Len_cons, List.length_cons]
    omega

/-- A text of ASCII has one byte for each character. For such texts the two ways
    to count agree. -/
theorem utf8ByteSize_eq_length {s : String} (hascii : ∀ c ∈ s.toList, c.toNat < 128) :
    s.utf8ByteSize = s.length := by
  rw [← String.utf8Len_toList, ← String.length_toList]
  generalize s.toList = cs at hascii
  induction cs with
  | nil => rfl
  | cons c rest ih =>
    obtain ⟨hc, hrest⟩ := List.forall_mem_cons.1 hascii
    have hsize : c.utf8Size = 1 :=
      Char.utf8Size_eq_one_iff.2 (UInt32.le_iff_toNat_le.2 (Nat.le_of_lt_succ hc))
    rw [String.utf8Len_cons, List.length_cons, hsize, ih hrest]

/-- A name that templates can refer to: letters, digits and underscores of
    ASCII, with no digit in front, that are no word of the template language. -/
def IsName (name : String) : Prop :=
  (∃ first rest, name.toList = first :: rest ∧ (first.isAlpha = true ∨ first = '_') ∧
    ∀ c ∈ rest, c.isAlphanum = true ∨ c = '_') ∧ name ∉ reservedNames

/-- The check of names in words: a letter or the underscore, and then letters,
    digits and underscores. -/
theorem isValidName_iff {name : String} : isValidName name = true ↔ IsName name := by
  rw [isValidName, IsName, Bool.and_eq_true, hasNameForm]
  refine and_congr ?_ (by simp)
  cases name.toList with
  | nil => simp
  | cons first rest => simp [isNameStart, isNameChar]

/-- Names consist of ASCII, so their length is the same in bytes and in
    characters. -/
theorem IsName.utf8ByteSize_eq_length {name : String} (hname : IsName name) :
    name.utf8ByteSize = name.length := by
  obtain ⟨⟨first, rest, hform, hfirst, hrest⟩, -⟩ := hname
  have hchars : ∀ c ∈ name.toList, isNameChar c = true := by
    rw [hform, List.forall_mem_cons]
    refine ⟨isNameChar_of_isNameStart ?_, fun c hc => ?_⟩
    · simpa [isNameStart] using hfirst
    · simpa [isNameChar] using hrest c hc
  refine PromptPacks.utf8ByteSize_eq_length fun c hc => ?_
  have hcode := code_of_isNameChar (hchars c hc)
  omega

/-- Options pass if no value is empty and the values are distinct and not among
    those already seen. -/
theorem optionFault?_eq_none_iff {name : String} {seen : List String} {options : List EnumOption} :
    optionFault? name seen options = none ↔
      (∀ option ∈ options, option.value ≠ "") ∧ (options.map (·.value)).Nodup ∧
        ∀ option ∈ options, option.value ∉ seen := by
  induction options generalizing seen with
  | nil => simp [optionFault?]
  | cons option rest ih =>
    rw [optionFault?, List.forall_mem_cons, List.forall_mem_cons, List.map_cons, List.nodup_cons]
    by_cases hempty : option.value = ""
    · simp [hempty]
    · by_cases hseen : option.value ∈ seen
      · simp [hempty, hseen]
      · rw [if_neg (by simpa using hempty), if_neg (by simpa using hseen), ih,
          Rows.forall_notMem_cons]
        simp only [hempty, hseen, ne_eq, not_false_eq_true, true_and, and_assoc, and_left_comm]

namespace VariableDefinition

variable {definition : VariableDefinition}

/-- No options are given, or an empty list of them. The two count the same
    everywhere. -/
theorem optionList_eq_nil_iff :
    definition.optionList = [] ↔ definition.options = none ∨ definition.options = some [] := by
  rw [optionList]
  cases definition.options <;> simp

/-- When options are in order: an enumeration has distinct ones that are not
    empty, and no other type has any. -/
theorem optionsFault?_eq_none_iff :
    definition.optionsFault? = none ↔
      (definition.type = .enum → definition.optionList ≠ [] ∧
        (∀ option ∈ definition.optionList, option.value ≠ "") ∧
        (definition.optionList.map (·.value)).Nodup) ∧
      (definition.type ≠ .enum → definition.options = none ∨ definition.options = some []) := by
  rw [← optionList_eq_nil_iff, optionsFault?]
  cases definition.type with
  | enum =>
    cases hlist : definition.optionList with
    | nil => simp
    | cons option rest => simp [optionFault?_eq_none_iff]
  | text | textarea | number | boolean => simp

/-- The check of a value finds no fault in it. The check only words the fault. -/
theorem checkValue_eq_ok_iff {value : String} :
    definition.checkValue value = .ok () ↔ definition.valueFault? value = none := by
  unfold checkValue
  cases definition.valueFault? value <;> simp

/-- A default value is in order if it would be accepted as a value. -/
theorem defaultFault?_eq_none_iff :
    definition.defaultFault? = none ↔ ∀ value, definition.defaultValue = some value →
      definition.checkValue value = .ok () := by
  rw [defaultFault?]
  cases definition.defaultValue <;> simp [checkValue_eq_ok_iff]

/-- The check of a definition passes exactly if it finds no fault. -/
theorem check_eq_ok_iff : definition.check = .ok () ↔ definition.fault? = none := by
  unfold check
  cases definition.fault? <;> simp

/-- A definition passes if each of its parts does. Both lengths are sizes in
    bytes. Which fault is told first does not matter here. -/
theorem fault?_eq_none_iff :
    definition.fault? = none ↔ isValidName definition.name = true ∧
      definition.name.utf8ByteSize ≤ maxVariableName ∧
      isBlankText definition.displayName = false ∧
      definition.displayName.utf8ByteSize ≤ maxDisplayName ∧
      definition.optionsFault? = none ∧ definition.defaultFault? = none := by
  rw [fault?]
  split_ifs with hname hsize hblank hlong
  · simp_all
  · exact iff_of_false nofun fun hall => absurd hall.2.1 (Nat.not_le.2 hsize)
  · simp_all
  · exact iff_of_false nofun fun hall => absurd hall.2.2.2.1 (Nat.not_le.2 hlong)
  · simp_all [Option.or_eq_none_iff]

/-- The default value of an accepted definition fits it. -/
theorem valueFault?_defaultValue (hcheck : definition.check = .ok ()) {value : String}
    (hvalue : definition.defaultValue = some value) : definition.valueFault? value = none := by
  obtain ⟨-, -, -, -, -, hdefault⟩ := fault?_eq_none_iff.1 (check_eq_ok_iff.1 hcheck)
  exact checkValue_eq_ok_iff.1 (defaultFault?_eq_none_iff.1 hdefault value hvalue)

/-- There is a value for each variable, as an enumeration has options. So no
    variable is accepted that could never be set. -/
theorem exists_valueFault?_eq_none (hcheck : definition.check = .ok ()) :
    ∃ value, definition.valueFault? value = none := by
  obtain ⟨-, -, -, -, hoptions, -⟩ := fault?_eq_none_iff.1 (check_eq_ok_iff.1 hcheck)
  have hsome := (optionsFault?_eq_none_iff.1 hoptions).1
  unfold valueFault?
  cases htype : definition.type with
  | text | textarea => exact ⟨"", rfl⟩
  | number =>
    have hread : (Number.readFloat? (Text.trim "0".toList)).isSome = true := by decide +kernel
    exact ⟨"0", if_pos hread⟩
  | boolean =>
    have hread : (readBool? "true").isSome = true := by decide +kernel
    exact ⟨"true", if_pos hread⟩
  | enum =>
    obtain ⟨option, rest, hlist⟩ := List.exists_cons_of_ne_nil (hsome htype).1
    exact ⟨option.value, by simp [hlist]⟩

/-- The rules for a definition. Lengths count characters. -/
structure ObeysRules (definition : VariableDefinition) : Prop where
  name : IsName definition.name
  nameLength : definition.name.length ≤ maxVariableName
  displayName : ∃ c ∈ definition.displayName.toList, isBlank c = false
  displayNameLength : definition.displayName.length ≤ maxDisplayName
  enumOptions : definition.type = .enum → definition.optionList ≠ [] ∧
    (∀ option ∈ definition.optionList, option.value ≠ "") ∧
    (definition.optionList.map (·.value)).Nodup
  otherOptions : definition.type ≠ .enum → definition.options = none ∨ definition.options = some []
  defaultValue : ∀ value, definition.defaultValue = some value →
    definition.checkValue value = .ok ()

/-- All rules but that for the length of the display name are checked as they
    stand. Names are of ASCII, so their bytes are their characters. -/
theorem check_eq_ok_iff_fits :
    definition.check = .ok () ↔
      definition.ObeysRules ∧ definition.displayName.utf8ByteSize ≤ maxDisplayName := by
  have hblank : isBlankText definition.displayName = false ↔
      ∃ c ∈ definition.displayName.toList, isBlank c = false := by
    simp [isBlankText]
  rw [check_eq_ok_iff, fault?_eq_none_iff, isValidName_iff, hblank, optionsFault?_eq_none_iff,
    defaultFault?_eq_none_iff]
  constructor
  · rintro ⟨hname, hsize, hshown, hlong, ⟨henum, hother⟩, hdefault⟩
    refine ⟨⟨hname, ?_, hshown, ?_, henum, hother, hdefault⟩, hlong⟩
    · exact hname.utf8ByteSize_eq_length ▸ hsize
    · exact (length_le_utf8ByteSize _).trans hlong
  · rintro ⟨hrules, hlong⟩
    exact ⟨hrules.name, hrules.name.utf8ByteSize_eq_length ▸ hrules.nameLength, hrules.displayName,
      hlong, ⟨hrules.enumOptions, hrules.otherOptions⟩, hrules.defaultValue⟩

/-- A definition that obeys the rules is refused only for the bytes of its display
    name, and the refusal takes their number for that of the characters. -/
theorem ObeysRules.check_eq_error (hrules : definition.ObeysRules)
    (hlong : maxDisplayName < definition.displayName.utf8ByteSize) :
    definition.check = .error (.violation (.definition
      (.displayNameTooLong definition.displayName.utf8ByteSize))) := by
  have hname := isValidName_iff.2 hrules.name
  have hsize : ¬maxVariableName < definition.name.utf8ByteSize := by
    rw [hrules.name.utf8ByteSize_eq_length]
    exact Nat.not_lt.2 hrules.nameLength
  have hblank : isBlankText definition.displayName = false := by
    simpa [isBlankText] using hrules.displayName
  rw [check, fault?, hname, hblank, if_neg (by decide), if_neg hsize, if_neg (by decide),
    if_pos hlong]

/-- A definition is accepted exactly if it obeys the rules and its display name
    has no more bytes than it may have characters. So the rules alone decide
    where each character is of ASCII, and where the display name is so short
    that its bytes cannot matter. -/
theorem check_eq_ok_iff_obeysRules (definition : VariableDefinition) :
    (definition.check = .ok () ↔
      definition.ObeysRules ∧ definition.displayName.utf8ByteSize ≤ maxDisplayName) ∧
    (definition.ObeysRules → maxDisplayName < definition.displayName.utf8ByteSize →
      definition.check = .error (.violation (.definition
        (.displayNameTooLong definition.displayName.utf8ByteSize)))) ∧
    ((∀ c ∈ definition.displayName.toList, c.toNat < 128) ∨
        4 * definition.displayName.length ≤ maxDisplayName →
      (definition.check = .ok () ↔ definition.ObeysRules)) := by
  refine ⟨check_eq_ok_iff_fits, fun hrules hlong => hrules.check_eq_error hlong, fun hshort => ?_⟩
  rw [check_eq_ok_iff_fits, and_iff_left_iff_imp]
  intro hrules
  obtain hascii | hshort := hshort
  · rw [utf8ByteSize_eq_length hascii]
    exact hrules.displayNameLength
  · exact (utf8ByteSize_le _).trans hshort

/-- An enumeration of two moods, the first of which is the default. -/
def mood : VariableDefinition where
  name := "mood"
  displayName := "Humeur de l'héroïne"
  type := .enum
  category := .custom
  required := true
  defaultValue := some "légère"
  options := some [⟨"Légère", "légère"⟩, ⟨"Sombre", "sombre"⟩]
  description := none

/-- A definition with a short display name is accepted, as it obeys the rules. -/
theorem check_eq_ok_iff_obeysRules_mood :
    4 * mood.displayName.length ≤ maxDisplayName ∧ mood.check = .ok () ∧ mood.ObeysRules := by
  have hshort : 4 * mood.displayName.length ≤ maxDisplayName := by decide
  have hcheck : mood.check = .ok () := by decide
  exact ⟨hshort, hcheck, ((check_eq_ok_iff_obeysRules mood).2.2 (.inr hshort)).1 hcheck⟩

/-- A variable for the tone, shown by sixty-one letters of two bytes each. -/
def tone : VariableDefinition where
  name := "tone"
  displayName := String.ofList (List.replicate 61 'é')
  type := .text
  category := .custom
  required := false
  defaultValue := none
  options := none
  description := none

theorem length_displayName_tone : tone.displayName.length = 61 := by
  rw [tone, String.length_ofList, List.length_replicate]

theorem utf8ByteSize_displayName_tone : tone.displayName.utf8ByteSize = 122 := by
  rw [tone, String.utf8ByteSize_ofList]
  rfl

/-- A definition whose display name has sixty-one characters of two bytes each
    obeys all rules. -/
theorem obeysRules_tone : tone.ObeysRules where
  name := isValidName_iff.1 (by decide)
  nameLength := by decide
  displayName := ⟨'é', by simp [tone], by decide⟩
  displayNameLength := by
    rw [length_displayName_tone]
    decide
  enumOptions := nofun
  otherOptions := fun _ => .inl rfl
  defaultValue := nofun

/-- A display name within the limit in characters is refused for its bytes. The
    message counts them as characters. -/
theorem exists_obeysRules_check_ne_ok : ∃ definition : VariableDefinition, definition.ObeysRules ∧
    definition.displayName.length = 61 ∧ definition.check =
      .error (.violation (.definition (.displayNameTooLong 122))) := by
  have hlong : maxDisplayName < tone.displayName.utf8ByteSize := by
    rw [utf8ByteSize_displayName_tone]
    decide
  refine ⟨tone, obeysRules_tone, length_displayName_tone, ?_⟩
  rw [obeysRules_tone.check_eq_error hlong, utf8ByteSize_displayName_tone]

end VariableDefinition

end PromptPacks
