import PromptPacks.Json.Reader
import PromptPacks.Number.FloatText
import PromptPacks.Proofs.Number.Decimal
import PromptPacks.Proofs.Number.Nearest
import PromptPacks.Proofs.Text.Word

namespace PromptPacks.Number

open PromptPacks.Text

/-- The value of a decimal without its sign. -/
def decimalValue (coefficient : ℕ) (exponent : ℤ) : ℚ :=
  coefficient * 10 ^ exponent

/-- The magnitude bits of the double nearest to a decimal. -/
def decimalBits (coefficient : ℕ) (exponent : ℤ) : ℕ :=
  nearestBits (coefficient * Nat.pow 10 exponent.toNat) (Nat.pow 10 (-exponent).toNat)

section

variable {c c' : ℕ} {e e' : ℤ}

/-- The value of a decimal as a quotient of whole numbers, which is what the
    nearest double is found from. One of the two powers is always one. -/
theorem decimalValue_eq_div (c : ℕ) (e : ℤ) :
    decimalValue c e = (c * Nat.pow 10 e.toNat : ℕ) / (Nat.pow 10 (-e).toNat : ℕ) := by
  rw [decimalValue, zpow_eq_div, Nat.pow_eq, Nat.pow_eq]
  push_cast
  rw [mul_div_assoc]

theorem pow_ten_pos (n : ℕ) : 0 < Nat.pow 10 n :=
  Nat.pow_pos (by decide)

/-- Decimals of equal value have the same nearest double, whatever their
    coefficients and exponents are. -/
theorem decimalBits_congr (heq : decimalValue c e = decimalValue c' e') :
    decimalBits c e = decimalBits c' e' := by
  rw [decimalValue_eq_div, decimalValue_eq_div] at heq
  exact nearestBits_congr (pow_ten_pos _) (pow_ten_pos _) heq

/-- The number of digits of a coefficient tells its size up to a factor of ten.
    This is enough to see that very large and very small exponents need no
    computation. -/
theorem decimalDigits_bounds (hc : c ≠ 0) :
    10 ^ ((decimalDigits c).length - 1) ≤ c ∧ c < 10 ^ (decimalDigits c).length := by
  have hlength : 0 < (decimalDigits c).length := Nat.length_toDigits_pos
  refine ⟨?_, (Nat.length_toDigits_le_iff (by decide) hlength).1 le_rfl⟩
  obtain hone | hmore := Nat.eq_or_lt_of_le (Nat.succ_le_of_lt hlength)
  · rw [← hone]
    exact Nat.one_le_iff_ne_zero.2 hc
  · by_contra hless
    have hle := (Nat.length_toDigits_le_iff (by decide) (by omega)).2 (not_le.1 hless)
    rw [decimalDigits] at hmore hle
    omega

/-- A decimal with its point far behind its digits is beyond all doubles. The
    bound is generous, since ten to the four hundred is far above the greatest
    of them. -/
theorem decimalBits_of_large (hc : c ≠ 0) (hlarge : 400 < (decimalDigits c).length + e) :
    decimalBits c e = infinityBits := by
  refine nearestBits_eq_infinity (pow_ten_pos _) ?_
  rw [← decimalValue_eq_div, decimalValue]
  have hlow : ((10 ^ ((decimalDigits c).length - 1) : ℕ) : ℚ) ≤ c := by
    exact_mod_cast (decimalDigits_bounds hc).1
  have hlength : 0 < (decimalDigits c).length := Nat.length_toDigits_pos
  calc (2 : ℚ) ^ (1024 : ℤ) ≤ 2 ^ (3 * 400 : ℤ) := zpow_le_zpow_right₀ (by norm_num) (by omega)
    _ = 8 ^ (400 : ℤ) := by rw [zpow_mul]; norm_num
    _ ≤ 10 ^ (400 : ℤ) := zpow_le_zpow_left₀ (by norm_num) (by norm_num) (by norm_num)
    _ ≤ 10 ^ (((decimalDigits c).length - 1 : ℕ) + e) :=
      zpow_le_zpow_right₀ (by norm_num) (by omega)
    _ = 10 ^ ((decimalDigits c).length - 1) * 10 ^ e := by
      rw [zpow_add₀ (by norm_num), zpow_natCast]
    _ ≤ c * 10 ^ e := by
      push_cast at hlow
      gcongr

/-- A decimal with its point far before its digits is nearest to zero. It is
    below half of the least double, which is not less than two to the minus
    1075. -/
theorem decimalBits_of_small (hc : c ≠ 0) (hsmall : (decimalDigits c).length + e < -400) :
    decimalBits c e = 0 := by
  refine nearestBits_eq_zero (pow_ten_pos _) ?_
  rw [← decimalValue_eq_div, decimalValue]
  have hhigh : (c : ℚ) < (10 ^ (decimalDigits c).length : ℕ) := by
    exact_mod_cast (decimalDigits_bounds hc).2
  push_cast at hhigh
  calc (c : ℚ) * 10 ^ e < 10 ^ (decimalDigits c).length * 10 ^ e := by gcongr
    _ = 10 ^ ((decimalDigits c).length + e) := by rw [zpow_add₀ (by norm_num), zpow_natCast]
    _ ≤ 10 ^ (-401 : ℤ) := zpow_le_zpow_right₀ (by norm_num) (by omega)
    _ ≤ 8 ^ (-401 : ℤ) := by
      rw [zpow_neg, zpow_neg]
      exact inv_anti₀ (by positivity) (pow_le_pow_left₀ (by norm_num) (by norm_num) 401)
    _ = 2 ^ (3 * -401 : ℤ) := by rw [zpow_mul]; norm_num
    _ < 2 ^ (-1075 : ℤ) := zpow_lt_zpow_right₀ (by norm_num) (by omega)

/-- A decimal stands for the double nearest to it, however large or small its
    exponent is. The two shortcuts of the definition only save the computation
    of great powers. -/
theorem Decimal.toFloat_eq (d : Decimal) :
    d.toFloat = floatOfBits d.negative (decimalBits d.coefficient d.exponent) := by
  rw [Decimal.toFloat]
  split
  · next hzero => rw [decimalBits, hzero, Nat.zero_mul, nearestBits, if_pos rfl]
  · next hc =>
    simp only
    split
    · next hlarge => rw [decimalBits_of_large hc hlarge]
    · split
      · next hsmall => rw [decimalBits_of_small hc hsmall]
      · rfl

end

section

variable {magnitude : ℕ}

/-- Leaving out zeros at the end of a coefficient and counting them in the
    exponent does not change the value. -/
theorem decimalValue_stripZeros (limit c : ℕ) (e : ℤ) :
    decimalValue (stripZeros limit c e).1 (stripZeros limit c e).2 = decimalValue c e := by
  induction limit generalizing c e with
  | zero => rfl
  | succ limit ih =>
    rw [stripZeros]
    split
    · next hzero =>
      obtain ⟨n, rfl⟩ := Nat.dvd_of_mod_eq_zero hzero
      rw [ih, Nat.mul_div_cancel_left n (by decide), decimalValue, decimalValue,
        zpow_add₀ (by norm_num)]
      push_cast
      ring
    · rfl

/-- Whether a decimal reads back as a magnitude. -/
def StandsFor (magnitude : ℕ) (decimal : ℕ × ℤ) : Prop :=
  decimalBits decimal.1 decimal.2 = magnitude

/-- A decimal that is found on a grid stands for the magnitude, since the search
    tests that. Whether it is the shortest one does not matter for reading it
    back. -/
theorem standsFor_of_decimalOnGrid? {exponent : ℤ} {found : ℕ × ℤ}
    (hfound : decimalOnGrid? magnitude exponent = some found) : StandsFor magnitude found := by
  simp only [decimalOnGrid?] at hfound
  split at hfound
  · next hbelow =>
    cases hfound
    exact beq_iff_eq.1 (Bool.and_eq_true_iff.1 hbelow).1
  · split at hfound
    · next habove =>
      cases hfound
      exact beq_iff_eq.1 habove
    · cases hfound

/-- The exact decimal of a magnitude has the value of the magnitude. -/
theorem decimalValue_exactDecimal (magnitude : ℕ) :
    decimalValue (exactDecimal magnitude).1 (exactDecimal magnitude).2 =
      exactNumerator magnitude / exactDenominator magnitude := by
  obtain ⟨k, hk, hexponent⟩ : ∃ k : ℕ, min 0 (binaryExponent magnitude) = -(k : ℤ) ∧
      (-binaryExponent magnitude).toNat = k :=
    ⟨(-binaryExponent magnitude).toNat, by omega, rfl⟩
  rw [exactDecimal, hk, exactDenominator, hexponent, decimalValue, neg_neg, Int.toNat_natCast,
    Nat.pow_eq, Nat.one_shiftLeft, zpow_neg, zpow_natCast]
  push_cast
  rw [show (10 : ℚ) = 5 * 2 by norm_num, mul_pow]
  field_simp

/-- The exact decimal stands for the magnitude, as no other double is nearer. It
    is the choice that is left if no shorter one is found. -/
theorem standsFor_exactDecimal (hpos : 0 < magnitude) (hfinite : magnitude < infinityBits) :
    StandsFor magnitude (exactDecimal magnitude) := by
  have hvalue := decimalValue_exactDecimal magnitude
  rw [decimalValue_eq_div] at hvalue
  exact (nearestBits_congr (pow_ten_pos _) (exactDenominator_pos _) hvalue).trans
    (nearestBits_exact hpos hfinite)

/-- A way to choose a decimal for each magnitude that reads back where the
    magnitude is finite. -/
def Chooses (choose : ℕ → ℕ × ℤ) : Prop :=
  ∀ magnitude, 0 < magnitude → magnitude < infinityBits → StandsFor magnitude (choose magnitude)

/-- The choice may be replaced by an equal one. It is used to open a definition
    as a function, since applied to a number it would be computed. -/
theorem Chooses.of_eq {choose other : ℕ → ℕ × ℤ} (heq : choose = other)
    (hother : Chooses other) : Chooses choose :=
  heq ▸ hother

/-- The decimal that is chosen for a magnitude always stands for it. The search
    is followed case by case, each of which ends with a decimal that has been
    tested or with the exact one. -/
theorem chooses_shortestDecimal : Chooses shortestDecimal := by
  refine .of_eq (by delta shortestDecimal; exact rfl) ?_
  intro magnitude hpos hfinite
  beta_reduce
  extract_lets point found
  have hfound : StandsFor magnitude (found.getD (exactDecimal magnitude)) := by
    generalize hgrid : found = chosen
    cases chosen with
    | some decimal =>
      obtain ⟨extra, -, hdecimal⟩ := List.exists_of_findSome?_eq_some hgrid
      exact standsFor_of_decimalOnGrid? hdecimal
    | none => exact standsFor_exactDecimal hpos hfinite
  generalize found.getD (exactDecimal magnitude) = decimal at hfound ⊢
  obtain ⟨c, e⟩ := decimal
  exact (decimalBits_congr (decimalValue_stripZeros 1100 c e)).trans hfound

end

section

variable {whole fraction tail : List Char} {power : ℤ}

/-- Digits with a point among them, and an exponent. The point may be the first
    or the last of them, as long as there is a digit. -/
theorem readDecimal?_point (negative : Bool) (hwhole : ∀ c ∈ whole, c.isDigit = true)
    (hfraction : ∀ c ∈ fraction, c.isDigit = true) (hsome : whole ++ fraction ≠ [])
    (htail : EndsDigits tail) (hpower : readExponent? tail = some power) :
    readDecimal? negative (whole ++ '.' :: (fraction ++ tail)) =
      some ⟨negative, Nat.ofDigitChars 10 (whole ++ fraction) 0, power - fraction.length⟩ := by
  have hpoint : EndsDigits ('.' :: (fraction ++ tail)) := by
    rintro c ⟨⟩
    rfl
  have hdigits : ∀ c ∈ whole ++ fraction, c.isDigit = true :=
    List.forall_mem_append.2 ⟨hwhole, hfraction⟩
  simp only [readDecimal?, takeWhile_isDigit hwhole hpoint, dropWhile_isDigit hwhole hpoint,
    takeWhile_isDigit hfraction htail, dropWhile_isDigit hfraction htail,
    readDigits?_of_isDigit hsome hdigits, hpower]

/-- Digits and nothing else are read as a decimal with the exponent zero. -/
theorem readDecimal?_digits (negative : Bool) (hwhole : ∀ c ∈ whole, c.isDigit = true)
    (hsome : whole ≠ []) :
    readDecimal? negative whole = some ⟨negative, Nat.ofDigitChars 10 whole 0, 0⟩ := by
  have htake := takeWhile_isDigit hwhole (show EndsDigits [] from nofun)
  have hdrop := dropWhile_isDigit hwhole (show EndsDigits [] from nofun)
  rw [List.append_nil] at htake hdrop
  simp only [readDecimal?, htake, hdrop, List.append_nil, readDigits?_of_isDigit hsome hwhole,
    readExponent?, List.length_nil, Nat.cast_zero, sub_zero]

/-- Digits and an exponent, without a point between them. -/
theorem readDecimal?_power (negative : Bool) (hwhole : ∀ c ∈ whole, c.isDigit = true)
    (hsome : whole ≠ []) (hpower : readExponent? ('e' :: tail) = some power) :
    readDecimal? negative (whole ++ 'e' :: tail) =
      some ⟨negative, Nat.ofDigitChars 10 whole 0, power⟩ := by
  have hletter : EndsDigits ('e' :: tail) := by
    rintro c ⟨⟩
    rfl
  simp [readDecimal?, takeWhile_isDigit hwhole hletter, dropWhile_isDigit hwhole hletter,
    readDigits?_of_isDigit hsome hwhole, hpower]

end

/-- The end of a text in powers of ten. -/
def powerText (power : ℤ) : List Char :=
  'e' :: (toString power).toList

/-- A written exponent is read back, its sign included. -/
theorem readExponent?_powerText (power : ℤ) : readExponent? (powerText power) = some power :=
  readInt?_toString power

/-- The characters of decimal texts. -/
def IsDecimalChar (c : Char) : Prop :=
  c.isDigit = true ∨ c = '.' ∨ c = 'e' ∨ c = '-'

/-- A written exponent consists of characters of decimals. -/
theorem isDecimalChar_of_mem_powerText {power : ℤ} {c : Char} (hmem : c ∈ powerText power) :
    IsDecimalChar c := by
  obtain rfl | hmem := List.mem_cons.1 hmem
  · exact .inr (.inr (.inl rfl))
  obtain ⟨m, -, htext⟩ | ⟨m, -, -, htext⟩ := toList_toString power
  · rw [htext] at hmem
    exact .inl (isDigit_of_mem_toDigits hmem)
  · rw [htext] at hmem
    obtain rfl | hmem := List.mem_cons.1 hmem
    · exact .inr (.inr (.inr rfl))
    · exact .inl (isDigit_of_mem_toDigits hmem)

/-- Digits in front of a point or a power of ten: at least one, and no zero in
    front of others. -/
def LeadsNumber (whole : List Char) : Prop :=
  whole ≠ [] ∧ (whole.length = 1 ∨ whole.head? ≠ some '0')

/-- A single digit may lead a number, also a zero. -/
theorem leadsNumber_singleton (d : Char) : LeadsNumber [d] :=
  ⟨by simp, .inl rfl⟩

/-- The digits of a number other than zero lead a number, whatever other digits
    follow them: none of them is a zero in front. Zero itself does so on its
    own. -/
theorem leadsNumber_decimalDigits {c : ℕ} {more : List Char} (hsome : c ≠ 0 ∨ more = []) :
    LeadsNumber (decimalDigits c ++ more) := by
  refine ⟨by simp [decimalDigits_ne_nil], ?_⟩
  obtain hpos | rfl := hsome
  · refine .inr ?_
    rw [List.head?_append_of_ne_nil _ (decimalDigits_ne_nil c)]
    exact head?_toDigits_ne_zero (Nat.pos_of_ne_zero hpos)
  · obtain rfl | hpos := Nat.eq_zero_or_pos c
    · exact .inl rfl
    · rw [List.append_nil]
      exact .inr (head?_toDigits_ne_zero hpos)

/-- Digits with a fraction, and with a power of ten or nothing behind it, are a
    number of a document, here with a sign in front. -/
theorem isNumeral_point {whole fraction tail : List Char} {power : ℤ} (hlead : LeadsNumber whole)
    (hwhole : ∀ c ∈ whole, c.isDigit = true) (hfraction : ∀ c ∈ fraction, c.isDigit = true)
    (hsome : fraction ≠ []) (htail : EndsDigits tail) (hpower : readExponent? tail = some power) :
    Json.isNumeral ('-' :: (whole ++ '.' :: (fraction ++ tail))) = true := by
  have hpoint : EndsDigits ('.' :: (fraction ++ tail)) := by
    rintro c ⟨⟩
    rfl
  simp only [Json.isNumeral, takeWhile_isDigit hwhole hpoint, dropWhile_isDigit hwhole hpoint,
    takeWhile_isDigit hfraction htail, dropWhile_isDigit hfraction htail, hpower]
  simpa [hlead.1, hsome] using hlead.2

/-- Digits with an exponent have the form of a number in a document, if they
    have no superfluous zero in front. -/
theorem isNumeral_power {whole : List Char} {power : ℤ} (hlead : LeadsNumber whole)
    (hwhole : ∀ c ∈ whole, c.isDigit = true) :
    Json.isNumeral ('-' :: (whole ++ powerText power)) = true := by
  have hletter : EndsDigits (powerText power) := by
    rintro c ⟨⟩
    rfl
  simp only [Json.isNumeral, takeWhile_isDigit hwhole hletter, dropWhile_isDigit hwhole hletter]
  change (_ && true && (readExponent? (powerText power)).isSome) = true
  rw [readExponent?_powerText]
  simpa [hlead.1] using hlead.2

/-- What a text of a double is to its value: it starts with a digit, shows a
    point or a power of ten, has the form of a number in documents, and is read
    as a decimal of this value. -/
structure Denotes (text : List Char) (value : ℚ) : Prop where
  starts : ∃ c rest, text = c :: rest ∧ c.isDigit = true
  chars : ∀ c ∈ text, IsDecimalChar c
  numeral : Json.isNumeral ('-' :: text) = true
  shows : ∃ c ∈ text, c = '.' ∨ c = 'e'
  read : ∀ negative, ∃ coefficient exponent,
    readDecimal? negative text = some ⟨negative, coefficient, exponent⟩ ∧
      decimalValue coefficient exponent = value

section

variable {whole fraction : List Char} {power : ℤ} {value : ℚ}

/-- Digits that are not missing begin with a digit. -/
theorem exists_cons_of_isDigit {tail : List Char} (hsome : whole ≠ [])
    (hwhole : ∀ c ∈ whole, c.isDigit = true) :
    ∃ c rest, whole ++ tail = c :: rest ∧ c.isDigit = true := by
  obtain ⟨c, rest, rfl⟩ := List.exists_cons_of_ne_nil hsome
  exact ⟨c, rest ++ tail, rfl, hwhole c List.mem_cons_self⟩

/-- Digits with a point among them denote the value of all digits, with an
    exponent for those behind the point. -/
theorem denotes_point (hlead : LeadsNumber whole) (hwhole : ∀ c ∈ whole, c.isDigit = true)
    (hsome : fraction ≠ []) (hfraction : ∀ c ∈ fraction, c.isDigit = true)
    (hvalue : decimalValue (Nat.ofDigitChars 10 (whole ++ fraction) 0) (-fraction.length) = value) :
    Denotes (whole ++ '.' :: fraction) value where
  starts := exists_cons_of_isDigit hlead.1 hwhole
  chars := by
    rw [List.forall_mem_append, List.forall_mem_cons]
    exact ⟨fun c hc => .inl (hwhole c hc), .inr (.inl rfl), fun c hc => .inl (hfraction c hc)⟩
  numeral := by
    have hform := isNumeral_point hlead hwhole hfraction hsome (show EndsDigits [] from nofun) rfl
    rwa [List.append_nil] at hform
  shows := ⟨'.', by simp, .inl rfl⟩
  read negative := by
    have hread := readDecimal?_point negative hwhole hfraction (by simp [hsome])
      (show EndsDigits [] from nofun) rfl
    rw [List.append_nil, zero_sub] at hread
    exact ⟨_, _, hread, hvalue⟩

/-- Digits with an exponent denote the value of the digits with this exponent. -/
theorem denotes_power (hlead : LeadsNumber whole) (hwhole : ∀ c ∈ whole, c.isDigit = true)
    (hvalue : decimalValue (Nat.ofDigitChars 10 whole 0) power = value) :
    Denotes (whole ++ powerText power) value where
  starts := exists_cons_of_isDigit hlead.1 hwhole
  chars := by
    rw [List.forall_mem_append]
    exact ⟨fun c hc => .inl (hwhole c hc), fun c => isDecimalChar_of_mem_powerText⟩
  numeral := isNumeral_power hlead hwhole
  shows := ⟨'e', by simp [powerText], .inr rfl⟩
  read negative :=
    ⟨_, _, readDecimal?_power negative hwhole hlead.1 (readExponent?_powerText power), hvalue⟩

/-- Digits with a point and an exponent: the digits behind the point count
    against the exponent. -/
theorem denotes_point_power (hlead : LeadsNumber whole) (hwhole : ∀ c ∈ whole, c.isDigit = true)
    (hsome : fraction ≠ []) (hfraction : ∀ c ∈ fraction, c.isDigit = true)
    (hvalue : decimalValue (Nat.ofDigitChars 10 (whole ++ fraction) 0) (power - fraction.length) =
      value) :
    Denotes (whole ++ '.' :: (fraction ++ powerText power)) value where
  starts := exists_cons_of_isDigit hlead.1 hwhole
  chars := by
    rw [List.forall_mem_append, List.forall_mem_cons, List.forall_mem_append]
    exact ⟨fun c hc => .inl (hwhole c hc), .inr (.inl rfl), fun c hc => .inl (hfraction c hc),
      fun c => isDecimalChar_of_mem_powerText⟩
  numeral := by
    have hletter : EndsDigits (powerText power) := by
      rintro c ⟨⟩
      rfl
    exact isNumeral_point hlead hwhole hfraction hsome hletter (readExponent?_powerText power)
  shows := ⟨'.', by simp, .inl rfl⟩
  read negative := by
    have hletter : EndsDigits (powerText power) := by
      rintro c ⟨⟩
      rfl
    exact ⟨_, _, readDecimal?_point negative hwhole hfraction (by simp [hsome]) hletter
      (readExponent?_powerText power), hvalue⟩

end

section

variable (c : ℕ) (e : ℤ)

/-- Digits with zeros and a point behind them. The zeros take the place of a
    positive exponent. -/
theorem denotes_whole (n : ℕ) (hlead : c ≠ 0 ∨ n = 0) :
    Denotes (decimalDigits c ++ List.replicate n '0' ++ ['.', '0']) (decimalValue c n) := by
  have hwhole : ∀ d ∈ decimalDigits c ++ List.replicate n '0', d.isDigit = true :=
    List.forall_mem_append.2 ⟨isDigit_of_mem_decimalDigits, isDigit_of_mem_zeros n⟩
  have hdigits : LeadsNumber (decimalDigits c ++ List.replicate n '0') :=
    leadsNumber_decimalDigits (hlead.imp_right fun hzero => by rw [hzero, List.replicate_zero])
  refine denotes_point hdigits hwhole (by simp) (by simp) ?_
  rw [Nat.ofDigitChars_append, Nat.ofDigitChars_append, ofDigitChars_decimalDigits,
    Nat.ofDigitChars_replicate_zero, Nat.ofDigitChars_cons, Nat.ofDigitChars_nil, decimalValue,
    decimalValue]
  simp
  field_simp

/-- Digits with a point among them, for an exponent that is smaller than the
    number of digits. -/
theorem denotes_within {places : ℕ} (hpos : 0 < places)
    (hless : places < (decimalDigits c).length) :
    Denotes ((decimalDigits c).take ((decimalDigits c).length - places) ++
      '.' :: (decimalDigits c).drop ((decimalDigits c).length - places))
      (decimalValue c (-places)) := by
  have hdigits := isDigit_of_mem_decimalDigits (c := c)
  have hlength : ((decimalDigits c).drop ((decimalDigits c).length - places)).length = places := by
    rw [List.length_drop]
    omega
  have hlead : LeadsNumber ((decimalDigits c).take ((decimalDigits c).length - places)) := by
    refine ⟨?_, .inr ?_⟩
    · rw [ne_eq, List.take_eq_nil_iff]
      exact not_or_intro (by omega) (decimalDigits_ne_nil c)
    · rw [List.head?_take, if_neg (by omega)]
      refine head?_toDigits_ne_zero (Nat.pos_of_ne_zero fun hzero => ?_)
      have hone : (decimalDigits c).length = 1 := by rw [hzero]; rfl
      omega
  refine denotes_point hlead (fun d hmem => hdigits d (List.mem_of_mem_take hmem)) ?_
    (fun d hmem => hdigits d (List.mem_of_mem_drop hmem)) ?_
  · rw [← List.length_pos_iff, hlength]
    exact hpos
  · rw [List.take_append_drop, ofDigitChars_decimalDigits, hlength]

/-- Digits with a point before them, behind a zero, for all smaller exponents.
    The zeros that fill the places add nothing to the number that the digits
    stand for. -/
theorem denotes_below {places : ℕ} (hmore : (decimalDigits c).length ≤ places) :
    Denotes ('0' :: '.' :: List.replicate (places - (decimalDigits c).length) '0' ++
      decimalDigits c) (decimalValue c (-places)) := by
  have hfraction : ∀ d ∈ List.replicate (places - (decimalDigits c).length) '0' ++
      decimalDigits c, d.isDigit = true :=
    List.forall_mem_append.2 ⟨isDigit_of_mem_zeros _, isDigit_of_mem_decimalDigits⟩
  have hlength : (List.replicate (places - (decimalDigits c).length) '0' ++
      decimalDigits c).length = places := by
    rw [List.length_append, List.length_replicate]
    omega
  change Denotes (['0'] ++ '.' :: (List.replicate _ '0' ++ decimalDigits c)) _
  refine denotes_point (leadsNumber_singleton '0') (by simp) (by simp [decimalDigits_ne_nil])
    hfraction ?_
  rw [hlength, Nat.ofDigitChars_append, Nat.ofDigitChars_append, Nat.ofDigitChars_replicate_zero,
    Nat.ofDigitChars_cons, Nat.ofDigitChars_nil]
  exact congrArg (decimalValue · _) (ofDigitChars_decimalDigits c)

/-- A positional text, with a point added where it shows none, denotes the
    decimal that it is made from. The three places of the point are told apart
    by the definition itself. -/
theorem denotes_positional (hlead : c ≠ 0 ∨ e = 0) :
    Denotes (if (positional (decimalDigits c) e).contains '.' then positional (decimalDigits c) e
      else positional (decimalDigits c) e ++ ['.', '0']) (decimalValue c e) := by
  unfold positional
  split
  · next hnonneg =>
    obtain ⟨n, rfl⟩ := Int.eq_ofNat_of_zero_le hnonneg
    have hpoint : (decimalDigits c ++ List.replicate n '0').contains '.' = false := by
      rw [List.contains_eq_mem, decide_eq_false_iff_not, List.mem_append]
      rintro (hmem | hmem)
      · exact absurd (isDigit_of_mem_decimalDigits _ hmem) (by decide)
      · exact absurd (isDigit_of_mem_zeros n _ hmem) (by decide)
    rw [Int.toNat_natCast, hpoint, if_neg (by decide)]
    exact denotes_whole c n (hlead.imp_right Int.ofNat_eq_zero.1)
  · next hneg =>
    obtain ⟨places, hplaces⟩ : ∃ places, (-e).toNat = places := ⟨_, rfl⟩
    have he : e = -(places : ℤ) := by omega
    simp only [hplaces]
    split
    · next hless =>
      rw [if_pos (by simp), he]
      exact denotes_within c (by omega) hless
    · next hmore =>
      rw [if_pos (by simp), he]
      exact denotes_below c (Nat.le_of_not_lt hmore)

/-- A text with an exponent denotes the decimal that it is made from. A single
    digit has no point. -/
theorem denotes_scientific :
    Denotes (scientific (decimalDigits c) e) (decimalValue c e) := by
  have hdigits := isDigit_of_mem_decimalDigits (c := c)
  have hvalue := ofDigitChars_decimalDigits c
  cases hform : decimalDigits c with
  | nil => exact absurd hform (decimalDigits_ne_nil c)
  | cons d rest =>
    rw [hform] at hdigits hvalue
    obtain ⟨hfirst, hrest⟩ := List.forall_mem_cons.1 hdigits
    have hsingle : ∀ x ∈ [d], x.isDigit = true := List.forall_mem_singleton.2 hfirst
    cases rest with
    | nil =>
      change Denotes ([d] ++ powerText _) _
      refine denotes_power (leadsNumber_singleton d) hsingle ?_
      rw [hvalue, List.length_singleton, Nat.cast_one, add_sub_cancel_right]
    | cons d' rest =>
      change Denotes ([d] ++ '.' :: (d' :: rest ++ powerText _)) _
      refine denotes_point_power (leadsNumber_singleton d) hsingle (by simp) hrest ?_
      have hlength : ((d :: d' :: rest).length : ℤ) = (d' :: rest).length + 1 := Nat.cast_succ _
      rw [List.singleton_append, hvalue, hlength]
      congr 1
      omega

variable {layout : FloatLayout} {magnitude : ℕ}

/-- The text of a finite magnitude denotes a value to which the magnitude is
    nearest, in either layout. Where a layout changes to exponents plays no part
    in this. -/
theorem exists_denotes_magnitudeText (layout : FloatLayout) (hfinite : magnitude < infinityBits) :
    ∃ c e, Denotes (magnitudeText layout magnitude) (decimalValue c e) ∧
      decimalBits c e = magnitude := by
  have hlayout (c : ℕ) (e : ℤ) (hlead : c ≠ 0 ∨ e = 0) : Denotes
      (let digits := decimalDigits c
      if layout.isPositional (digits.length + e) then
        let text := positional digits e
        if text.contains '.' then text else text ++ ['.', '0']
      else scientific digits e) (decimalValue c e) := by
    simp only
    split
    · exact denotes_positional c e hlead
    · exact denotes_scientific c e
  have hdecimal : StandsFor magnitude
      (if magnitude = 0 then (0, 0) else shortestDecimal magnitude) := by
    split
    · next hzero =>
      rw [hzero]
      rfl
    · next hpos => exact chooses_shortestDecimal magnitude (Nat.pos_of_ne_zero hpos) hfinite
  have hlead : (if magnitude = 0 then (0, 0) else shortestDecimal magnitude).1 ≠ 0 ∨
      (if magnitude = 0 then (0, 0) else shortestDecimal magnitude).2 = 0 := by
    by_cases hzero : magnitude = 0
    · exact .inr (by rw [if_pos hzero])
    · refine .inl fun hnothing => hzero ?_
      change decimalBits _ _ = magnitude at hdecimal
      rw [← hdecimal, decimalBits, hnothing, Nat.zero_mul, nearestBits, if_pos rfl]
  unfold magnitudeText
  generalize (if magnitude = 0 then (0, 0) else shortestDecimal magnitude) = decimal
    at hdecimal hlead ⊢
  obtain ⟨c, e⟩ := decimal
  exact ⟨c, e, hlayout c e hlead, hdecimal⟩

end

end PromptPacks.Number
