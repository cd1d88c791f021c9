import PromptPacks.Text.Blank
import PromptPacks.Text.Search
import PromptPacks.Text.Word

namespace PromptPacks.Text

/-- A name at the start of a text begins with a letter or the underscore and
    goes on as far as it can. -/
theorem exists_of_leadingName {word cs : List Char} (hword : leadingName cs = some word) :
    ∃ c rest, cs = c :: rest ∧ isNameStart c = true ∧ word = c :: rest.takeWhile isNameChar := by
  unfold leadingName at hword
  split at hword
  · cases hword
  · next c rest =>
    split at hword
    · next hstart => exact ⟨c, rest, rfl, hstart, (Option.some.inj hword).symm⟩
    · cases hword

/-- What a name may start with, it may go on with. -/
theorem isNameChar_of_isNameStart {c : Char} (hstart : isNameStart c = true) :
    isNameChar c = true := by
  simp only [isNameStart, isNameChar, Char.isAlphanum, Bool.or_eq_true] at hstart ⊢
  exact hstart.imp_left .inl

/-- All characters of a name at the start of a text are characters of names. -/
theorem isNameChar_of_leadingName {word cs : List Char} (hword : leadingName cs = some word) :
    ∀ c ∈ word, isNameChar c = true := by
  obtain ⟨c, rest, rfl, hstart, rfl⟩ := exists_of_leadingName hword
  rw [List.forall_mem_cons]
  exact ⟨isNameChar_of_isNameStart hstart, List.all_eq_true.1 List.all_takeWhile⟩

/-- A word is the name that a text starts with exactly if it is a name by itself
    and nothing behind it continues it. -/
theorem leadingName_append {word behind : List Char} :
    leadingName (word ++ behind) = some word ↔
      leadingName word = some word ∧ behind.takeWhile isNameChar = [] := by
  cases word with
  | nil =>
    cases behind with
    | nil => simp [leadingName]
    | cons c rest => simp [leadingName]
  | cons c rest =>
    simp only [List.cons_append, leadingName, Option.ite_none_right_eq_some, Option.some.injEq,
      List.cons.injEq, true_and, List.takeWhile_append]
    split
    · next hall =>
      have hrest : rest.takeWhile isNameChar = rest :=
        (List.takeWhile_prefix _).eq_of_length hall
      simp [hrest]
    · next hall =>
      have hrest : rest.takeWhile isNameChar ≠ rest := fun heq => hall (by rw [heq])
      simp [hrest]

/-- The codes of the characters of names, in four ranges. Comparisons with other
    ranges of codes are left to arithmetic then. -/
theorem code_of_isNameChar {c : Char} (hname : isNameChar c = true) :
    (0x30 ≤ c.toNat ∧ c.toNat ≤ 0x39) ∨ (0x41 ≤ c.toNat ∧ c.toNat ≤ 0x5A) ∨
      (0x61 ≤ c.toNat ∧ c.toNat ≤ 0x7A) ∨ c.toNat = 0x5F := by
  delta isNameChar Char.isAlphanum Char.isAlpha Char.isUpper Char.isLower Char.isDigit at hname
  simp only [Bool.or_eq_true, Bool.and_eq_true, decide_eq_true_eq, beq_iff_eq, ge_iff_le,
    UInt32.le_iff_toNat_le] at hname
  obtain ((hupper | hlower) | hdigit) | rfl := hname
  · exact .inr (.inl hupper)
  · exact .inr (.inr (.inl hlower))
  · exact .inl hdigit
  · exact .inr (.inr (.inr rfl))

/-- Characters of names are no white space. -/
theorem isBlank_eq_false {c : Char} (hname : isNameChar c = true) : isBlank c = false := by
  have hcode := code_of_isNameChar hname
  simp only [isBlank, Bool.or_eq_false_iff, Bool.and_eq_false_iff, decide_eq_false_iff_not,
    beq_eq_false_iff_ne, ne_eq]
  omega

/-- White space is no part of a name. -/
theorem isNameChar_eq_false {c : Char} (hblank : isBlank c = true) : isNameChar c = false := by
  cases hname : isNameChar c with
  | false => rfl
  | true =>
    rw [isBlank_eq_false hname] at hblank
    cases hblank

/-- The ranges of white space beyond ASCII. -/
def wideBlankRanges : List (Nat × Nat) :=
  [(0x85, 0x85), (0xA0, 0xA0), (0x1680, 0x1680), (0x2000, 0x200A), (0x2028, 0x2029),
    (0x202F, 0x202F), (0x205F, 0x205F), (0x3000, 0x3000)]

/-- White space lies before or behind each of the ranges of word characters. The
    table is looked at once, here, and nowhere else in the proofs. -/
theorem wordRanges_apart : (wordRanges.toList.all fun range => wideBlankRanges.all fun blank =>
    decide (range.2 < blank.1 ∨ blank.2 < range.1)) = true := by
  decide +kernel

/-- White space is no word character of any script, so a word always ends
    there. -/
theorem isWordChar_eq_false {c : Char} (hblank : isBlank c = true) : isWordChar c = false := by
  rw [isWordChar, isNameChar_eq_false hblank, Bool.false_or, Bool.and_eq_false_iff]
  by_cases hwide : 0x7F < c.toNat
  · right
    rw [inRanges, Array.any_eq_false']
    intro range hrange hin
    have hapart := List.all_eq_true.1 wordRanges_apart range (Array.mem_toList_iff.2 hrange)
    simp only [Bool.and_eq_true, decide_eq_true_eq] at hin
    simp only [isBlank, Bool.or_eq_true, Bool.and_eq_true, decide_eq_true_eq, beq_iff_eq] at hblank
    simp only [List.all_eq_true, decide_eq_true_eq, wideBlankRanges, List.forall_mem_cons] at hapart
    omega
  · left
    simpa using hwide

/-- Digits are no white space. -/
theorem isBlank_of_isDigit {c : Char} (hdigit : c.isDigit = true) : isBlank c = false := by
  refine isBlank_eq_false ?_
  rw [isNameChar, Char.isAlphanum, hdigit, Bool.or_true, Bool.true_or]

/-- Behind a word that a text starts with stands the rest of the text. -/
theorem after?_append (word behind : List Char) : after? word (word ++ behind) = some behind := by
  induction word with
  | nil => rfl
  | cons c word ih => rw [List.cons_append, after?, if_pos rfl, ih]

/-- What is found behind a part says that the text starts with the part. -/
theorem eq_append_of_after? {part cs behind : List Char} (hafter : after? part cs = some behind) :
    cs = part ++ behind := by
  fun_induction after? part cs with
  | case1 cs => exact Option.some.inj hafter
  | case2 c part => cases hafter
  | case3 part c rest ih => rw [ih hafter, List.cons_append]
  | case4 => cases hafter

/-- A search that succeeds after some characters cuts the text where what it
    looked for begins. -/
theorem exists_of_distanceTo? {found : List Char → Bool} {cs : List Char} {n : Nat}
    (hdistance : distanceTo? found cs = some n) :
    ∃ before behind, cs = before ++ behind ∧ before.length = n ∧ found behind = true := by
  fun_induction distanceTo? found cs generalizing n with
  | case1 hfound =>
    cases hdistance
    exact ⟨[], [], rfl, rfl, hfound⟩
  | case2 => cases hdistance
  | case3 c rest hfound =>
    cases hdistance
    exact ⟨[], c :: rest, rfl, rfl, hfound⟩
  | case4 c rest _ ih =>
    obtain ⟨m, hm, rfl⟩ := Option.map_eq_some_iff.1 hdistance
    obtain ⟨before, behind, rfl, rfl, hfound⟩ := ih hm
    exact ⟨c :: before, behind, rfl, rfl, hfound⟩

/-- White space of ASCII can be dropped first, since it is white space in any
    case. -/
theorem dropWhile_isBlank_drop (cs : List Char) :
    cs.dropWhile isBlank = (cs.drop (cs.takeWhile isAsciiBlank).length).dropWhile isBlank := by
  induction cs with
  | nil => rfl
  | cons c rest ih =>
    rw [List.takeWhile_cons]
    split
    · next hblank =>
      rw [List.dropWhile_cons_of_pos (isBlank_of_isAsciiBlank hblank), ih]
      rfl
    · rfl

end PromptPacks.Text
