import PromptPacks.Proofs.Context.Overrides
import PromptPacks.Proofs.Variable.Acceptance

namespace PromptPacks

open PromptPacks.Number PromptPacks.Text

namespace Number

/-- A text is a whole number in decimal digits, with or without a sign in front
    of them. -/
inductive IsIntegerText : List Char → ℤ → Prop where
  | digits {digits : List Char} (hsome : digits ≠ []) (hdigits : ∀ c ∈ digits, c.isDigit = true) :
    IsIntegerText digits (Nat.ofDigitChars 10 digits 0)
  | plus {digits : List Char} (hsome : digits ≠ []) (hdigits : ∀ c ∈ digits, c.isDigit = true) :
    IsIntegerText ('+' :: digits) (Nat.ofDigitChars 10 digits 0)
  | minus {digits : List Char} (hsome : digits ≠ []) (hdigits : ∀ c ∈ digits, c.isDigit = true) :
    IsIntegerText ('-' :: digits) (-Nat.ofDigitChars 10 digits 0)

variable {cs : List Char} {n : ℤ}

/-- A number is read from a text exactly if it consists of decimal digits, at
    least one, and it is the number that they write. Leading zeros are allowed,
    and there is no bound. -/
theorem readDigits?_eq_some_iff {m : ℕ} :
    readDigits? 10 cs = some m ↔
      cs ≠ [] ∧ (∀ c ∈ cs, c.isDigit = true) ∧ m = Nat.ofDigitChars 10 cs 0 := by
  constructor
  · intro hread
    have hsome : cs ≠ [] := by
      rintro rfl
      cases hread
    have hdigits : ∀ c ∈ cs, c.isDigit = true := by
      rw [readDigits?, if_neg (by simpa using hsome)] at hread
      exact isDigit_of_digitsFrom? hread
    rw [readDigits?_of_isDigit hsome hdigits] at hread
    exact ⟨hsome, hdigits, (Option.some.inj hread).symm⟩
  · rintro ⟨hsome, hdigits, rfl⟩
    exact readDigits?_of_isDigit hsome hdigits

/-- Digits have no sign in front, so nothing is split off. An empty text is
    excluded only as it has no first character to look at. -/
theorem splitSign_digits (hsome : cs ≠ []) (hdigits : ∀ c ∈ cs, c.isDigit = true) :
    splitSign cs = (false, cs) := by
  obtain ⟨c, rest, rfl⟩ := List.exists_cons_of_ne_nil hsome
  exact splitSign_of_isDigit ⟨c, rest, rfl, hdigits c List.mem_cons_self⟩

theorem splitSign_plus (digits : List Char) : splitSign ('+' :: digits) = (false, digits) :=
  rfl

theorem splitSign_minus (digits : List Char) : splitSign ('-' :: digits) = (true, digits) :=
  rfl

/-- What a split into sign and digits says about the text: only a minus sign
    makes it negative, and a plus sign may be missing. -/
theorem eq_of_splitSign {digits : List Char} {negative : Bool}
    (hsign : splitSign cs = (negative, digits)) :
    (negative = true ∧ cs = '-' :: digits) ∨
      (negative = false ∧ (cs = '+' :: digits ∨ cs = digits)) := by
  unfold splitSign at hsign
  split at hsign <;> cases hsign
  · exact .inl ⟨rfl, rfl⟩
  · exact .inr ⟨rfl, .inl rfl⟩
  · exact .inr ⟨rfl, .inr rfl⟩

/-- Reading a whole number is reading the digits behind its sign, so the three
    forms of the sign need not be told apart any more. -/
theorem readInt?_of_splitSign {digits : List Char} {negative : Bool}
    (hsign : splitSign cs = (negative, digits)) :
    readInt? cs = (readDigits? 10 digits).map fun m : ℕ => if negative then -(m : ℤ) else m := by
  simp only [readInt?, hsign]
  cases readDigits? 10 digits <;> rfl

/-- A whole number is what is split into a sign and digits. This form has one
    case where the definition has three, and both readers of numbers start with
    the same split. -/
theorem isIntegerText_iff :
    IsIntegerText cs n ↔ ∃ negative digits, splitSign cs = (negative, digits) ∧ digits ≠ [] ∧
      (∀ c ∈ digits, c.isDigit = true) ∧
        n = if negative then -(Nat.ofDigitChars 10 digits 0 : ℤ)
          else Nat.ofDigitChars 10 digits 0 := by
  constructor
  · rintro (⟨hsome, hdigits⟩ | ⟨hsome, hdigits⟩ | ⟨hsome, hdigits⟩)
    · exact ⟨false, cs, splitSign_digits hsome hdigits, hsome, hdigits, rfl⟩
    · exact ⟨false, _, splitSign_plus _, hsome, hdigits, rfl⟩
    · exact ⟨true, _, splitSign_minus _, hsome, hdigits, rfl⟩
  · rintro ⟨negative, digits, hsign, hsome, hdigits, rfl⟩
    obtain ⟨rfl, rfl⟩ | ⟨rfl, rfl | rfl⟩ := eq_of_splitSign hsign
    · exact .minus hsome hdigits
    · exact .plus hsome hdigits
    · exact .digits hsome hdigits

/-- The texts that are read as whole numbers are the written ones, of any size.
    The bound of sixty-four bits comes in only where the result is turned into a
    value. -/
theorem readInt?_eq_some_iff : readInt? cs = some n ↔ IsIntegerText cs n := by
  obtain ⟨⟨negative, digits⟩, hsign⟩ : ∃ parts, splitSign cs = parts := ⟨_, rfl⟩
  rw [isIntegerText_iff, readInt?_of_splitSign hsign]
  constructor
  · intro hread
    obtain ⟨m, hvalue, rfl⟩ := Option.map_eq_some_iff.1 hread
    obtain ⟨hsome, hdigits, rfl⟩ := readDigits?_eq_some_iff.1 hvalue
    exact ⟨negative, digits, hsign, hsome, hdigits, rfl⟩
  · rintro ⟨_, _, hsame, hsome, hdigits, rfl⟩
    cases hsign.symm.trans hsame
    rw [readDigits?_of_isDigit hsome hdigits]
    rfl

/-- Whatever is a whole number is a number: the reader of doubles accepts the
    same sign and the same digits. How the double is rounded does not matter
    here. -/
theorem IsIntegerText.exists_readFloat? (htext : IsIntegerText cs n) :
    ∃ x, readFloat? cs = some x := by
  obtain ⟨negative, digits, hsign, hsome, hdigits, -⟩ := isIntegerText_iff.1 htext
  obtain ⟨c, rest, rfl⟩ := List.exists_cons_of_ne_nil hsome
  rw [readFloat?_of_isDigit hsign ⟨c, rest, rfl, hdigits c List.mem_cons_self⟩,
    readDecimal?_digits negative hdigits hsome]
  exact ⟨_, rfl⟩

end Number

namespace ContextValue

variable {raw : String}

/-- A text becomes an integer exactly if it writes one that fits into sixty-four
    bits. All others become doubles, or stay texts. -/
theorem coerce_eq_integer_iff {n : ℤ} :
    coerce raw .number = .integer n ↔
      IsIntegerText (trim raw.toList) n ∧ minInt64 ≤ n ∧ n ≤ maxInt64 := by
  have hread : readIntBetween? minInt64 maxInt64 (trim raw.toList) = some n ↔
      IsIntegerText (trim raw.toList) n ∧ minInt64 ≤ n ∧ n ≤ maxInt64 := by
    rw [readIntBetween?, Option.filter_eq_some_iff, readInt?_eq_some_iff]
    simp
  rw [← hread, coerce]
  cases readIntBetween? minInt64 maxInt64 (trim raw.toList) with
  | some m => simp
  | none => cases readFloat? (trim raw.toList) <;> simp

/-- A text is coerced to a number exactly if a double can be read from it. The
    whole numbers, which are tried first, make no difference, as each of them is
    the text of a double too. -/
theorem coerce_isNumber_iff :
    ((∃ n, coerce raw .number = .integer n) ∨ ∃ x, coerce raw .number = .number x) ↔
      ∃ x, readFloat? (trim raw.toList) = some x := by
  rw [coerce]
  cases hint : readIntBetween? minInt64 maxInt64 (trim raw.toList) with
  | some n =>
    have hread := (Option.filter_eq_some_iff.1 hint).1
    simp [(readInt?_eq_some_iff.1 hread).exists_readFloat?]
  | none => cases readFloat? (trim raw.toList) <;> simp

/-- A text becomes a boolean exactly if it is one of the spellings of the two
    truth values. -/
theorem coerce_isBool_iff :
    (∃ b, coerce raw .boolean = .bool b) ↔ ∃ b, readBool? raw = some b := by
  rw [coerce]
  cases readBool? raw <;> simp

end ContextValue

namespace VariableDefinition

variable {definition : VariableDefinition} {value : String}

/-- For a number a value is accepted exactly if a double can be read from it. No
    other part of the definition is looked at. -/
theorem checkValue_eq_ok_iff_number (htype : definition.type = .number) :
    definition.checkValue value = .ok () ↔ ∃ x, readFloat? (trim value.toList) = some x := by
  rw [checkValue_eq_ok_iff, valueFault?, htype]
  cases readFloat? (trim value.toList) <;> simp

/-- For a boolean a value is accepted exactly if it spells a truth value, in the
    same grammar that is used when it is coerced. -/
theorem checkValue_eq_ok_iff_boolean (htype : definition.type = .boolean) :
    definition.checkValue value = .ok () ↔ ∃ b, readBool? value = some b := by
  rw [checkValue_eq_ok_iff, valueFault?, htype]
  cases readBool? value <;> simp

end VariableDefinition

/-- Of several definitions with one name, the last that has a default value
    gives it to the name, coerced by its own type. Later definitions of the name
    may exist, as they have nothing to write over the value. -/
theorem get?_defaultsLayer_of_last {definition : VariableDefinition} {value : String}
    (hvalue : definition.defaultValue = some value) (before : List VariableDefinition)
    {later : List VariableDefinition}
    (hlater : ∀ other ∈ later, other.name = definition.name → other.defaultValue = none) :
    (defaultsLayer (before ++ definition :: later)).get? definition.name =
      some (.coerce value definition.type) := by
  have hnone : lastValue? (later.filterMap fun other =>
      other.defaultValue.map fun raw => (other.name, ContextValue.coerce raw other.type))
        definition.name = none := by
    rw [lastValue?_eq_none_iff]
    intro hmem
    obtain ⟨entry, hentry, hname⟩ := List.mem_map.1 hmem
    obtain ⟨other, hother, hsome⟩ := List.mem_filterMap.1 hentry
    obtain ⟨raw, hraw, rfl⟩ := Option.map_eq_some_iff.1 hsome
    rw [hlater other hother hname] at hraw
    cases hraw
  rw [defaultsLayer, Dictionary.get?_ofList, List.filterMap_append, lastValue?_append,
    List.filterMap_cons_some (by rw [hvalue]; rfl), lastValue?_cons, hnone, Option.none_or,
    if_pos rfl, Option.some_or]

namespace ContextValue

/-- A value is accepted for a number or a boolean exactly if it is coerced to
    one. Whole numbers of sixty-four bits become integers, and nothing else
    does; the values of other types stay as they are. So the default value of an
    accepted definition has its kind in a context. -/
theorem checkValue_iff_coerce (definition : VariableDefinition) (value : String) :
    (definition.type = .number → (definition.checkValue value = .ok () ↔
      (∃ n, coerce value .number = .integer n) ∨ ∃ x, coerce value .number = .number x)) ∧
    (definition.type = .boolean → (definition.checkValue value = .ok () ↔
      ∃ b, coerce value .boolean = .bool b)) ∧
    (∀ n, coerce value .number = .integer n ↔
      IsIntegerText (trim value.toList) n ∧ minInt64 ≤ n ∧ n ≤ maxInt64) ∧
    (∀ type ∈ [VariableType.text, .textarea, .enum], coerce value type = .text value) ∧
    (definition.check = .ok () → definition.defaultValue = some value →
      ∀ before later : List VariableDefinition,
        (∀ other ∈ later, other.name = definition.name → other.defaultValue = none) →
        (defaultsLayer (before ++ definition :: later)).get? definition.name =
            some (coerce value definition.type) ∧
          (coerce value definition.type).HasKind definition) := by
  refine ⟨fun htype => ?_, fun htype => ?_, fun n => coerce_eq_integer_iff, ?_,
    fun hcheck hvalue before later hlater => ?_⟩
  · rw [VariableDefinition.checkValue_eq_ok_iff_number htype, coerce_isNumber_iff]
  · rw [VariableDefinition.checkValue_eq_ok_iff_boolean htype, coerce_isBool_iff]
  · simp [coerce]
  · exact ⟨get?_defaultsLayer_of_last hvalue before hlater,
      hasKind_coerce (VariableDefinition.valueFault?_defaultValue hcheck hvalue)⟩

/-- A number of words, given with a sign and white space. -/
def wordBudget : VariableDefinition where
  name := "wordBudget"
  displayName := "Word budget"
  type := .number
  category := .custom
  required := false
  defaultValue := some " +0250 "
  options := none
  description := none

/-- The default value of a definition for a number, with a plus sign, a leading
    zero and white space around it, is an integer in the context. -/
theorem checkValue_iff_coerce_wordBudget :
    wordBudget.check = .ok () ∧ wordBudget.checkValue " +0250 " = .ok () ∧
      coerce " +0250 " .number = .integer 250 ∧
      (defaultsLayer ([weather] ++ wordBudget :: [])).get? "wordBudget" = some (.integer 250) ∧
      (ContextValue.integer 250).HasKind wordBudget := by
  obtain ⟨hnumber, -, hinteger, -, hlayer⟩ := checkValue_iff_coerce wordBudget " +0250 "
  have hcheck : wordBudget.check = .ok () := by decide +kernel
  have htext : IsIntegerText (trim " +0250 ".toList) 250 :=
    readInt?_eq_some_iff.1 (by decide +kernel)
  have hvalue := (hinteger 250).2 ⟨htext, by decide, by decide⟩
  obtain ⟨hget, hkind⟩ := hlayer hcheck rfl [weather] [] (List.forall_mem_nil _)
  refine ⟨hcheck, (hnumber rfl).2 (.inl ⟨250, hvalue⟩), hvalue, ?_, ?_⟩
  · exact hvalue ▸ hget
  · exact hvalue ▸ hkind

end ContextValue

end PromptPacks
