import Mathlib.Tactic.SplitIfs
import PromptPacks.Json.Reader
import PromptPacks.Json.Writer

namespace PromptPacks

namespace Text

/-- A character is no half of a surrogate pair, so units that come from
    characters are never paired. -/
theorem isSurrogate_toNat (c : Char) :
    isHighSurrogate c.toNat = false ∧ isLowSurrogate c.toNat = false := by
  have hvalid : c.toNat < 0xD800 ∨ 0xDFFF < c.toNat ∧ c.toNat < 0x110000 := c.valid
  simp only [isHighSurrogate, isLowSurrogate, Bool.and_eq_false_iff, decide_eq_false_iff_not]
  omega

/-- The units of characters are joined to the same characters again. -/
theorem joinUnits_map_toNat (cs : List Char) : joinUnits (cs.map Char.toNat) = some cs := by
  induction cs with
  | nil => rfl
  | cons c rest ih =>
    obtain ⟨hhigh, hlow⟩ := isSurrogate_toNat c
    cases rest with
    | nil => simp [joinUnits, hhigh, hlow]
    | cons next rest =>
      rw [List.map_cons, List.map_cons, joinUnits]
      simp only [hhigh, hlow, Bool.false_eq_true, if_false]
      rw [List.map_cons] at ih
      rw [ih, Option.map_some, Char.ofNat_toNat]

end Text

namespace Json

open PromptPacks.Number PromptPacks.Text

/-- A control character is read back from the two last digits of its escape.
    There are few enough of them for a look at each. -/
theorem digitsFrom?_hexDigits {n : Nat} (hcontrol : n < 0x20) :
    digitsFrom? 16 0 ['0', '0', hexDigit (n / 16), hexDigit (n % 16)] = some n := by
  have hall : ∀ n < 0x20,
      digitsFrom? 16 0 ['0', '0', hexDigit (n / 16), hexDigit (n % 16)] = some n := by decide
  exact hall n hcontrol

/-- An escape of one letter is read as what the letter stands for, and reading
    goes on behind it. -/
theorem readUnits_letterEscape {letter : Char} {unit : Nat} (rest : List Char)
    (hletter : letterEscape? letter = some unit) :
    readUnits ('\\' :: letter :: rest) =
      (readUnits rest).map fun (units, tail) => (unit :: units, tail) := by
  have hnotCode : letter ≠ 'u' := by
    rintro rfl
    cases hletter
  rw [readUnits]
  · rw [hletter]
    cases readUnits rest <;> rfl
  · intro a b c d tail heq
    exact absurd heq hnotCode

/-- A character is written by a letter or by its code behind a backslash, or as
    it is. In the last case it is neither a quote nor a backslash, so it ends
    nothing and escapes nothing. -/
theorem writeChar_cases (c : Char) :
    (∃ letter, writeChar c = ['\\', letter] ∧ letterEscape? letter = some c.toNat) ∨
      (c.toNat < 0x20 ∧ writeChar c =
        ['\\', 'u', '0', '0', hexDigit (c.toNat / 16), hexDigit (c.toNat % 16)]) ∨
      (c ≠ '"' ∧ c ≠ '\\' ∧ ¬c.toNat < 0x20 ∧ writeChar c = [c]) := by
  unfold writeChar
  split_ifs with hquote hslash hback hfeed hline hreturn htab hcontrol
  · exact .inl ⟨'"', rfl, by rw [eq_of_beq hquote]; rfl⟩
  · exact .inl ⟨'\\', rfl, by rw [eq_of_beq hslash]; rfl⟩
  · exact .inl ⟨'b', rfl, by rw [eq_of_beq hback]; rfl⟩
  · exact .inl ⟨'f', rfl, by rw [eq_of_beq hfeed]; rfl⟩
  · exact .inl ⟨'n', rfl, by rw [eq_of_beq hline]; rfl⟩
  · exact .inl ⟨'r', rfl, by rw [eq_of_beq hreturn]; rfl⟩
  · exact .inl ⟨'t', rfl, by rw [eq_of_beq htab]; rfl⟩
  · exact .inr (.inl ⟨hcontrol, rfl⟩)
  · exact .inr (.inr ⟨by simpa using hquote, by simpa using hslash, hcontrol, rfl⟩)

/-- Reading takes back the writing of one character. The units behind it are
    read as if it were not there. -/
theorem readUnits_writeChar (c : Char) (rest : List Char) :
    readUnits (writeChar c ++ rest) =
      (readUnits rest).map fun (units, tail) => (c.toNat :: units, tail) := by
  obtain ⟨letter, hwrite, hletter⟩ | ⟨hcontrol, hwrite⟩ | ⟨hquote, hslash, hplain, hwrite⟩ :=
    writeChar_cases c
  · rw [hwrite]
    exact readUnits_letterEscape rest hletter
  · rw [hwrite]
    simp only [List.cons_append, List.nil_append]
    rw [readUnits, digitsFrom?_hexDigits hcontrol]
    cases readUnits rest <;> rfl
  · rw [hwrite, List.singleton_append, readUnits, if_neg hplain]
    · exact hquote
    · simp [hslash]
    · simp [hslash]

/-- Reading takes back the writing of many characters, up to the closing quote. -/
theorem readUnits_flatMap_writeChar (cs rest : List Char) :
    readUnits (cs.flatMap writeChar ++ '"' :: rest) = some (cs.map Char.toNat, rest) := by
  induction cs with
  | nil => simp [readUnits]
  | cons c cs ih =>
    rw [List.flatMap_cons, List.append_assoc, readUnits_writeChar, ih]
    rfl

/-- A string is read back behind its opening quote, whatever follows it. Strings
    contain any characters, so no condition is put on them. -/
theorem readString_flatMap_writeChar (s : String) (rest : List Char) :
    readString (s.toList.flatMap writeChar ++ '"' :: rest) = some (s, rest) := by
  simp [readString, readUnits_flatMap_writeChar, joinUnits_map_toNat]

/-- A written string in front of something else, as the reader meets it. -/
theorem writeString_append (s : String) (rest : List Char) :
    writeString s ++ rest = '"' :: (s.toList.flatMap writeChar ++ '"' :: rest) := by
  simp [writeString]

end Json

end PromptPacks
