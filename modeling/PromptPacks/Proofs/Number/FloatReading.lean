import Mathlib
import PromptPacks.Proofs.Number.FloatText

namespace PromptPacks.Number

open PromptPacks.Text

/-- A double is made again from its bits. The model of doubles that this needs
    is opened here and nowhere else. -/
theorem ofBits_toBits (x : Float) : Float.ofBits x.toBits = x := by
  obtain ⟨bits, hvalid⟩ := x
  have hpack := Float.Model.UnpackedFloat.pack_unpack_of_valid hvalid
  simp only [Float.ofBits, Float.toBits, Float.Model.ofBits, Float.Model.pack, hpack]

/-- A double is known by its sign and the bits of its magnitude. -/
theorem floatOfBits_signBit (x : Float) : floatOfBits (signBit x) (magnitudeBits x) = x := by
  have hbits : (if signBit x then 1 <<< 63 else 0) + magnitudeBits x = x.toBits.toNat := by
    have hbound := x.toBits.toNat_lt
    simp only [signBit, magnitudeBits, decide_eq_true_eq, Nat.one_shiftLeft]
    split <;> omega
  rw [floatOfBits, hbits, UInt64.ofNat_toNat, ofBits_toBits]

/-- There is one undefined double, so its text determines it although many bit
    patterns would count as undefined. -/
theorem eq_of_infinityBits_lt {x : Float} (hbeyond : infinityBits < magnitudeBits x) :
    x = floatOfBits false (infinityBits + (1 <<< 51)) := by
  obtain ⟨bits, hvalid⟩ := x
  have hmagnitude : 2047 * 2 ^ 52 < bits.toBitVec.toNat % 2 ^ 63 := hbeyond
  have hexponent : @Float.Model.UnpackedFloat.unpackExponent .binary64 bits.toBitVec = -1#11 := by
    rw [Float.Model.UnpackedFloat.unpackExponent_def, ← BitVec.toNat_inj, BitVec.extractLsb'_toNat,
      Nat.shiftRight_eq_div_pow]
    change bits.toBitVec.toNat / 2 ^ 52 % 2 ^ 11 = 2047
    omega
  have hmantissa : @Float.Model.UnpackedFloat.unpackMantissa .binary64 bits.toBitVec ≠ 0#52 := by
    rw [Float.Model.UnpackedFloat.unpackMantissa_def, ne_eq, ← BitVec.toNat_inj,
      BitVec.extractLsb'_toNat, Nat.shiftRight_zero]
    change ¬bits.toBitVec.toNat % 2 ^ 52 = 0
    omega
  have hbits : bits = UInt64.ofNat (infinityBits + (1 <<< 51)) := by
    rw [← UInt64.toBitVec_inj, hvalid.eq_packedNaN hexponent hmantissa]
    decide
  rw [floatOfBits, ← ofBits_toBits ⟨⟨bits, hvalid⟩⟩]
  simp only [Float.toBits, hbits]
  rfl

/-- The three doubles that are not finite, each with its word. So a word tells
    its double. -/
theorem floatText_of_not_isFinite (layout : FloatLayout) {x : Float} (hx : isFinite x = false) :
    (x = floatOfBits false infinityBits ∧ floatText layout x = "inf".toList) ∨
      (x = floatOfBits true infinityBits ∧ floatText layout x = "-inf".toList) ∨
      (x = floatOfBits false (infinityBits + (1 <<< 51)) ∧ floatText layout x = "NaN".toList) := by
  have hle : infinityBits ≤ magnitudeBits x := by simpa [isFinite] using hx
  rw [floatText, hx, if_neg (by decide)]
  obtain hinfinite | hbeyond := hle.eq_or_lt
  · have hself := floatOfBits_signBit x
    rw [isInfinite, hinfinite, beq_self_eq_true, if_pos rfl, ← hinfinite]
    cases hsign : signBit x with
    | true => exact .inr (.inl ⟨by rw [← hself, hsign, hinfinite], rfl⟩)
    | false => exact .inl ⟨by rw [← hself, hsign, hinfinite], rfl⟩
  · have hnot : isInfinite x = false := by simpa [isInfinite] using hbeyond.ne'
    rw [hnot, if_neg (by decide)]
    exact .inr (.inr ⟨eq_of_infinityBits_lt hbeyond, rfl⟩)

/-- A digit has no case, so comparing without regard to case changes nothing
    about it. -/
theorem toLower_of_isDigit {c : Char} (hdigit : c.isDigit = true) : c.toLower = c := by
  have hrange := (Char.isDigit_iff_toNat.1 hdigit).2
  refine dif_neg fun hupper => ?_
  have hlow := UInt32.le_iff_toNat_le.1 hupper.1
  exact absurd (hlow.trans hrange) (by decide)

/-- A text that starts with a digit is none of the words for doubles. What is
    left to read is a decimal. -/
theorem readFloat?_of_isDigit {cs body : List Char} {negative : Bool}
    (hsign : splitSign cs = (negative, body))
    (hstarts : ∃ c rest, body = c :: rest ∧ c.isDigit = true) :
    readFloat? cs = (readDecimal? negative body).map Decimal.toFloat := by
  obtain ⟨c, rest, rfl, hdigit⟩ := hstarts
  have hword (d : Char) (word : List Char) (hd : d.isDigit = false) :
      (String.ofList ((c :: rest).map Char.toLower) == String.ofList (d :: word)) = false := by
    rw [beq_eq_false_iff_ne, ne_eq, String.ofList_inj, List.map_cons, toLower_of_isDigit hdigit]
    rintro heq
    rw [(List.cons.inj heq).1, hd] at hdigit
    cases hdigit
  have hinf := hword 'i' ['n', 'f'] rfl
  have hinfinity := hword 'i' ['n', 'f', 'i', 'n', 'i', 't', 'y'] rfl
  have hnan := hword 'n' ['a', 'n'] rfl
  unfold readFloat?
  rw [hsign]
  change (if (_ == String.ofList ['i', 'n', 'f'] ||
    _ == String.ofList ['i', 'n', 'f', 'i', 'n', 'i', 't', 'y']) = true then _
    else if (_ == String.ofList ['n', 'a', 'n']) = true then _ else _) = _
  rw [hinf, hinfinity, hnan, Bool.or_self, if_neg (by decide), if_neg (by decide)]

/-- A text that starts with a digit has no sign. -/
theorem splitSign_of_isDigit {cs : List Char}
    (hstarts : ∃ c rest, cs = c :: rest ∧ c.isDigit = true) : splitSign cs = (false, cs) := by
  obtain ⟨c, rest, rfl, hdigit⟩ := hstarts
  unfold splitSign
  split
  · next heq =>
    cases heq
    cases hdigit
  · next heq =>
    cases heq
    cases hdigit
  · rfl

/-- The text of a finite double: a sign where there is one, and a text of its
    magnitude, whose value has the magnitude as its nearest double. All readers
    of such texts start from here. -/
theorem exists_text_of_isFinite (layout : FloatLayout) {x : Float} (hfinite : isFinite x = true) :
    ∃ text c e, floatText layout x = (if signBit x then ['-'] else []) ++ text ∧
      splitSign (floatText layout x) = (signBit x, text) ∧
      Denotes text (decimalValue c e) ∧ decimalBits c e = magnitudeBits x := by
  have hbound : magnitudeBits x < infinityBits := by simpa [isFinite] using hfinite
  obtain ⟨c, e, hdenotes, hbits⟩ := exists_denotes_magnitudeText layout hbound
  have hform : floatText layout x =
      (if signBit x then ['-'] else []) ++ magnitudeText layout (magnitudeBits x) := by
    rw [floatText, hfinite, if_pos rfl]
  refine ⟨_, c, e, hform, ?_, hdenotes, hbits⟩
  rw [hform]
  cases signBit x with
  | true => rfl
  | false => exact splitSign_of_isDigit hdenotes.starts

/-- The text of a double is read back as the double, in each of the layouts.
    Doubles that are not finite are included. -/
theorem readFloat?_floatText (layout : FloatLayout) (x : Float) :
    readFloat? (floatText layout x) = some x := by
  cases hfinite : isFinite x with
  | false =>
    obtain ⟨hx, htext⟩ | ⟨hx, htext⟩ | ⟨hx, htext⟩ := floatText_of_not_isFinite layout hfinite
    all_goals
      rw [htext, hx]
      rfl
  | true =>
    obtain ⟨text, c, e, -, hsign, hdenotes, hbits⟩ := exists_text_of_isFinite layout hfinite
    obtain ⟨c', e', hread, hvalue⟩ := hdenotes.read (signBit x)
    rw [readFloat?_of_isDigit hsign hdenotes.starts, hread, Option.map_some, Decimal.toFloat_eq,
      decimalBits_congr hvalue, hbits, floatOfBits_signBit]

/-- A decimal without an exponent stands for the double nearest to its
    coefficient. -/
theorem decimalBits_zero (n : ℕ) : decimalBits n 0 = nearestBits n 1 := by
  simp [decimalBits]

/-- The text of a whole number is read as the double nearest to it. For large
    numbers this is not the number itself. -/
theorem readFloat?_toString (n : ℤ) : readFloat? (toString n).toList = some (floatOfInt n) := by
  have hdigits (m : ℕ) : ∀ c ∈ Nat.toDigits 10 m, c.isDigit = true :=
    fun c => isDigit_of_mem_toDigits
  have hread (negative : Bool) (m : ℕ) :
      (readDecimal? negative (Nat.toDigits 10 m)).map Decimal.toFloat =
        some (floatOfBits negative (nearestBits m 1)) := by
    rw [readDecimal?_digits negative (hdigits m) Nat.toDigits_ne_nil,
      Nat.ofDigitChars_ten_toDigits, Option.map_some, Decimal.toFloat_eq, decimalBits_zero]
  obtain ⟨m, rfl, htext⟩ | ⟨m, hpos, rfl, htext⟩ := toList_toString n
  · rw [htext, readFloat?_of_isDigit (splitSign_toDigits m) (exists_toDigits_eq_cons m), hread,
      floatOfInt, decide_eq_false (by omega)]
    rfl
  · have hsign : splitSign ('-' :: Nat.toDigits 10 m) = (true, Nat.toDigits 10 m) := rfl
    rw [htext, readFloat?_of_isDigit hsign (exists_toDigits_eq_cons m), hread, floatOfInt,
      decide_eq_true (by omega), Int.natAbs_neg]
    rfl

/-- What has a value below ten as a digit is a decimal digit. -/
theorem isDigit_of_digitValue? {c : Char} {digit : ℕ} (hdigit : digitValue? c = some digit)
    (hless : digit < 10) : c.isDigit = true := by
  unfold digitValue? at hdigit
  split at hdigit
  · assumption
  · split at hdigit
    · cases hdigit
      omega
    · split at hdigit
      · cases hdigit
        omega
      · cases hdigit

/-- Only decimal digits are read as a number to the base ten. -/
theorem isDigit_of_digitsFrom? {digits : List Char} {value n : ℕ}
    (hread : digitsFrom? 10 value digits = some n) : ∀ c ∈ digits, c.isDigit = true := by
  induction digits generalizing value with
  | nil => simp
  | cons c rest ih =>
    rw [digitsFrom?] at hread
    split at hread
    · next digit hdigit =>
      split at hread
      · next hless =>
        exact List.forall_mem_cons.2 ⟨isDigit_of_digitValue? hdigit hless, ih hread⟩
      · cases hread
    · cases hread

/-- A text with any other character in it is not read as a number. -/
theorem readDigits?_eq_none {text : List Char} {c : Char} (hmem : c ∈ text)
    (hdigit : c.isDigit = false) : readDigits? 10 text = none := by
  rw [readDigits?]
  split
  · rfl
  · rw [Option.eq_none_iff_forall_ne_some]
    intro n hread
    rw [isDigit_of_digitsFrom? hread c hmem] at hdigit
    cases hdigit

/-- The text of a double is not that of a whole number: it has a point, an
    exponent or a word in it. So values keep their kind when they are written
    and read. -/
theorem readInt?_floatText (layout : FloatLayout) (x : Float) :
    readInt? (floatText layout x) = none := by
  cases hfinite : isFinite x with
  | false =>
    obtain ⟨-, htext⟩ | ⟨-, htext⟩ | ⟨-, htext⟩ := floatText_of_not_isFinite layout hfinite
    all_goals
      rw [htext]
      rfl
  | true =>
    obtain ⟨text, c, e, -, hsign, hdenotes, -⟩ := exists_text_of_isFinite layout hfinite
    obtain ⟨d, hmem, hd⟩ := hdenotes.shows
    have hdigit : d.isDigit = false := by
      obtain rfl | rfl := hd <;> rfl
    simp only [readInt?, hsign, readDigits?_eq_none hmem hdigit]
    rfl

/-- The characters of written doubles are no white space. -/
theorem isBlank_of_isDecimalChar {c : Char} (hchar : IsDecimalChar c) : isBlank c = false := by
  obtain hdigit | rfl | rfl | rfl := hchar
  · exact isBlank_of_isDigit hdigit
  all_goals rfl

/-- The text of a double has no white space in it, so trimming does not change
    it. -/
theorem isBlank_of_mem_floatText {layout : FloatLayout} {x : Float} :
    ∀ c ∈ floatText layout x, isBlank c = false := by
  cases hfinite : isFinite x with
  | false =>
    obtain ⟨-, htext⟩ | ⟨-, htext⟩ | ⟨-, htext⟩ := floatText_of_not_isFinite layout hfinite
    all_goals
      rw [htext]
      simp [isBlank]
  | true =>
    obtain ⟨text, c, e, hform, -, hdenotes, -⟩ := exists_text_of_isFinite layout hfinite
    rw [hform, List.forall_mem_append]
    refine ⟨?_, fun c hmem => isBlank_of_isDecimalChar (hdenotes.chars c hmem)⟩
    split
    · simpa using isBlank_of_isDecimalChar (.inr (.inr (.inr rfl)))
    · simp

/-- The text of a whole number has no white space in it. -/
theorem isBlank_of_mem_toString {n : ℤ} : ∀ c ∈ (toString n).toList, isBlank c = false := by
  have hdigits (m : ℕ) : ∀ c ∈ Nat.toDigits 10 m, isBlank c = false := fun c hmem =>
    isBlank_of_isDecimalChar (.inl (isDigit_of_mem_toDigits hmem))
  obtain ⟨m, -, htext⟩ | ⟨m, -, -, htext⟩ := toList_toString n
  · rw [htext]
    exact hdigits m
  · rw [htext, List.forall_mem_cons]
    exact ⟨rfl, hdigits m⟩

end PromptPacks.Number
