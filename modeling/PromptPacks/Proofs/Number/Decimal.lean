import PromptPacks.Number.Decimal

namespace PromptPacks.Number

/-- The value of a decimal digit is its distance from zero. -/
theorem digitValue?_of_isDigit {c : Char} (hdigit : c.isDigit = true) :
    digitValue? c = some (c.toNat - '0'.toNat) := by
  rw [digitValue?, if_pos hdigit]

/-- Digits are read as the number that they write, from any value on. The value
    is kept variable for the induction on the digits. -/
theorem digitsFrom?_of_isDigit {digits : List Char} {value : Nat}
    (hdigits : ∀ c ∈ digits, c.isDigit = true) :
    digitsFrom? 10 value digits = some (Nat.ofDigitChars 10 digits value) := by
  induction digits generalizing value with
  | nil => rfl
  | cons c rest ih =>
    obtain ⟨hdigit, hrest⟩ := List.forall_mem_cons.1 hdigits
    have hbound : c.toNat - '0'.toNat < 10 := by
      have hrange := Char.isDigit_iff_toNat.1 hdigit
      have hzero : '0'.toNat = 48 := rfl
      have hnine : '9'.toNat = 57 := rfl
      omega
    rw [digitsFrom?, digitValue?_of_isDigit hdigit]
    simp only [hbound, if_true]
    rw [ih hrest, Nat.mul_comm value 10]
    rfl

/-- All characters of a number in base ten are decimal digits. -/
theorem isDigit_of_mem_toDigits {n : Nat} {c : Char} (hmem : c ∈ Nat.toDigits 10 n) :
    c.isDigit = true :=
  Nat.isDigit_of_mem_toDigits (by decide) (by decide) hmem

/-- Digits are read as the number that they write, if there is any digit at
    all. -/
theorem readDigits?_of_isDigit {digits : List Char} (hsome : digits ≠ [])
    (hdigits : ∀ c ∈ digits, c.isDigit = true) :
    readDigits? 10 digits = some (Nat.ofDigitChars 10 digits 0) := by
  rw [readDigits?, if_neg (by simpa using hsome), digitsFrom?_of_isDigit hdigits]

/-- A number is read back from its digits. -/
theorem readDigits?_toDigits (n : Nat) : readDigits? 10 (Nat.toDigits 10 n) = some n := by
  rw [readDigits?_of_isDigit Nat.toDigits_ne_nil fun c => isDigit_of_mem_toDigits,
    Nat.ofDigitChars_toDigits (by decide) (by decide)]

/-- The digits of a coefficient are decimal digits. -/
theorem isDigit_of_mem_decimalDigits {c : Nat} : ∀ d ∈ decimalDigits c, d.isDigit = true :=
  fun _ => isDigit_of_mem_toDigits

/-- Every coefficient has a digit, zero included. -/
theorem decimalDigits_ne_nil (c : Nat) : decimalDigits c ≠ [] :=
  Nat.toDigits_ne_nil

/-- The digits of a coefficient write the coefficient. -/
theorem ofDigitChars_decimalDigits (c : Nat) :
    Nat.ofDigitChars 10 (decimalDigits c) 0 = c :=
  Nat.ofDigitChars_ten_toDigits

theorem isDigit_of_mem_zeros (n : Nat) : ∀ d ∈ List.replicate n '0', d.isDigit = true := by
  rintro d hmem
  rw [List.eq_of_mem_replicate hmem]
  rfl

section

variable {whole tail : List Char}

/-- Whether a text goes on with no digit. -/
def EndsDigits (tail : List Char) : Prop :=
  ∀ c ∈ tail.head?, c.isDigit = false

/-- Digits are cut off from what follows them exactly at their end. -/
theorem takeWhile_isDigit (hwhole : ∀ c ∈ whole, c.isDigit = true) (htail : EndsDigits tail) :
    (whole ++ tail).takeWhile Char.isDigit = whole := by
  rw [List.takeWhile_append_of_pos hwhole]
  cases tail with
  | nil => simp
  | cons c rest => simp [htail c rfl]

/-- What is left behind the digits is what stood behind them. -/
theorem dropWhile_isDigit (hwhole : ∀ c ∈ whole, c.isDigit = true) (htail : EndsDigits tail) :
    (whole ++ tail).dropWhile Char.isDigit = tail := by
  rw [List.dropWhile_append_of_pos hwhole]
  cases tail with
  | nil => rfl
  | cons c rest => rw [List.dropWhile_cons_of_neg (by simp [htail c rfl])]

end

/-- The digits of a number other than zero do not begin with a zero. In a
    document a number with a leading zero would have no proper form. -/
theorem head?_toDigits_ne_zero {n : Nat} (hpos : 0 < n) :
    (Nat.toDigits 10 n).head? ≠ some '0' := by
  induction n using Nat.strongRecOn with
  | ind n ih =>
    by_cases hsmall : n < 10
    · have hdigit : ∀ m < 10, 0 < m → Nat.digitChar m ≠ '0' := by decide
      rw [Nat.toDigits_of_lt_base hsmall]
      simpa using hdigit n hsmall hpos
    · have hdiv : 0 < n / 10 := Nat.div_pos (Nat.le_of_not_lt hsmall) (by decide)
      have hrest := ih (n / 10) (Nat.div_lt_self hpos (by decide)) hdiv
      obtain ⟨c, rest, heq⟩ :=
        List.exists_cons_of_ne_nil (Nat.toDigits_ne_nil (n := n / 10) (b := 10))
      rw [heq] at hrest
      rw [Nat.toDigits_of_base_le (by decide) (Nat.le_of_not_lt hsmall), heq]
      exact hrest

/-- A digit is no minus sign, so it is not taken for one. -/
theorem ne_minus_of_isDigit {c : Char} (hdigit : c.isDigit = true) : c ≠ '-' := by
  rintro rfl
  exact absurd hdigit (by decide)

/-- A digit is no plus sign. -/
theorem ne_plus_of_isDigit {c : Char} (hdigit : c.isDigit = true) : c ≠ '+' := by
  rintro rfl
  exact absurd hdigit (by decide)

/-- A number has a first digit. -/
theorem exists_toDigits_eq_cons (n : Nat) :
    ∃ c rest, Nat.toDigits 10 n = c :: rest ∧ c.isDigit = true := by
  obtain ⟨c, rest, heq⟩ := List.exists_cons_of_ne_nil (Nat.toDigits_ne_nil (n := n) (b := 10))
  exact ⟨c, rest, heq, isDigit_of_mem_toDigits (heq ▸ List.mem_cons_self)⟩

/-- A whole number is written with its digits, behind a sign if it is negative.
    Zero has no sign. -/
theorem toList_toString (n : Int) :
    (∃ m : Nat, n = m ∧ (toString n).toList = Nat.toDigits 10 m) ∨
      ∃ m : Nat, 0 < m ∧ n = -m ∧ (toString n).toList = '-' :: Nat.toDigits 10 m := by
  cases n with
  | ofNat m => exact .inl ⟨m, rfl, Nat.toList_repr⟩
  | negSucc m =>
    refine .inr ⟨m + 1, Nat.succ_pos m, rfl, ?_⟩
    have htext : toString (Int.negSucc m) = "-" ++ (m + 1).repr := rfl
    rw [htext, String.toList_append, Nat.toList_repr]
    rfl

/-- No sign is split off from digits. -/
theorem splitSign_toDigits (n : Nat) :
    splitSign (Nat.toDigits 10 n) = (false, Nat.toDigits 10 n) := by
  obtain ⟨c, rest, heq, hdigit⟩ := exists_toDigits_eq_cons n
  rw [heq]
  have hminus := ne_minus_of_isDigit hdigit
  have hplus := ne_plus_of_isDigit hdigit
  simp [splitSign, hminus, hplus]

/-- A whole number is read back from its text, whatever its size. -/
theorem readInt?_toString (n : Int) : readInt? (toString n).toList = some n := by
  obtain ⟨m, rfl, htext⟩ | ⟨m, -, rfl, htext⟩ := toList_toString n
  · rw [htext]
    simp [readInt?, splitSign_toDigits, readDigits?_toDigits]
  · rw [htext]
    simp [readInt?, splitSign, readDigits?_toDigits]

end PromptPacks.Number
