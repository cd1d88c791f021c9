import PromptPacks.Proofs.Text.Trimming
import PromptPacks.Template.Check

namespace PromptPacks.Template

open PromptPacks.Number PromptPacks.Text

/-- The arguments of a filter that takes a length, where one is given. -/
def lengthGiven (length : Option Nat) : Arguments :=
  ⟨(length.map fun n => .integer n).toList, none⟩

/-- One text is what is left of another one that is cut to a length. A text that
    is short enough is kept. Of a longer one the start is kept that leaves room
    for three points, without the white space at its end, and three points show
    the cut. -/
structure IsCut (length : Nat) (text result : List Char) : Prop where
  kept : text.length ≤ length → result = text
  cut : length < text.length → ∃ start blanks, text.take (length - 3) = start ++ blanks ∧
    (∀ c ∈ blanks, isBlank c = true) ∧ (∀ c ∈ start.getLast?, isBlank c = false) ∧
    start <+: text ∧ result = start ++ ['.', '.', '.']

/-- A text that is too long is cut as it should be, at any length. Lengths below
    three leave nothing but the points. -/
theorem isCut_truncated (length : Nat) (text : List Char) :
    IsCut length text (Filter.truncated length text) where
  kept hshort := by rw [Filter.truncated, if_pos hshort]
  cut hlong := by
    obtain ⟨blanks, happend, hblanks, hlast⟩ := exists_eq_trimEnd_append (text.take (length - 3))
    have hstart : trimEnd (text.take (length - 3)) <+: text :=
      (List.prefix_append _ blanks).trans (happend ▸ List.take_prefix _ text)
    refine ⟨_, blanks, happend, hblanks, hlast, hstart, ?_⟩
    rw [Filter.truncated, if_neg (Nat.not_le.2 hlong)]

/-- The three points alone are more than a length below three allows. From there
    on a cut text fits, as room for them has been left. -/
theorem IsCut.length_le_iff {length : Nat} {text result : List Char}
    (hcut : IsCut length text result) :
    result.length ≤ length ↔ 3 ≤ length ∨ text.length ≤ length := by
  obtain hlong | hshort := Nat.lt_or_ge length text.length
  · obtain ⟨start, blanks, happend, -, -, -, rfl⟩ := hcut.cut hlong
    have hsizes := congrArg List.length happend
    rw [List.length_take, List.length_append] at hsizes
    rw [List.length_append, List.length_cons, List.length_cons, List.length_singleton]
    omega
  · rw [hcut.kept hshort]
    exact iff_of_true hshort (.inr hshort)

/-- A length that fits into 64 bits is understood as it is given, and so is its
    absence. -/
theorem optional?_asCount? {length : Option Nat}
    (hlength : ∀ n ∈ length, (n : Int) ≤ maxUnsigned64) :
    Arguments.optional? Value.asCount? (lengthGiven length).values = some length := by
  cases length with
  | none => rfl
  | some n =>
    have hcount : (Value.integer n).asCount? = some n := by
      simp [Value.asCount?, Value.asWholeBetween?, Value.asWhole?, Value.asInt?, hlength n rfl]
    have hread : Arguments.optional? Value.asCount? [.integer n] =
        (Value.integer n).asCount?.map some := rfl
    simp only [lengthGiven, Arguments.values, Option.map_some, Option.toList_some, Option.map_none,
      Option.toList_none, List.append_nil, hread, hcount]

/-- The filter gives every text cut to the length. The result has at most as
    many characters as the length says exactly if the text has, or if there is
    room for the three points. -/
theorem truncate_cuts_text (s : String) {length : Option Nat}
    (hlength : ∀ n ∈ length, (n : Int) ≤ maxUnsigned64) :
    ∃ result, Filter.result? "truncate" (lengthGiven length) (.text s) = some (.ofChars result) ∧
      IsCut (length.getD 255) s.toList result ∧
      (result.length ≤ length.getD 255 ↔
        3 ≤ length.getD 255 ∨ s.toList.length ≤ length.getD 255) := by
  have hcut := isCut_truncated (length.getD 255) s.toList
  refine ⟨_, ?_, hcut, hcut.length_le_iff⟩
  have hvalues : (lengthGiven length).values.length ≤ 1 := by
    cases length <;> simp [lengthGiven, Arguments.values]
  simp only [Filter.result?, hvalues, if_true, optional?_asCount? hlength]
  rfl

/-- A cut within white space. -/
theorem truncate_cuts_text_sample :
    (∀ n ∈ some (8 : Nat), (n : Int) ≤ maxUnsigned64) ∧
      ∃ result, Filter.result? "truncate" (lengthGiven (some 8)) (.text "Élan vital") =
          some (.ofChars result) ∧
        IsCut 8 "Élan vital".toList result ∧ result.length ≤ 8 := by
  have hlength : ∀ n ∈ some (8 : Nat), (n : Int) ≤ maxUnsigned64 := by
    rintro n ⟨⟩
    decide
  obtain ⟨result, hresult, hcut, hbound⟩ := truncate_cuts_text "Élan vital" hlength
  exact ⟨hlength, result, hresult, hcut, hbound.2 (.inl (by decide))⟩

/-- The three points stand though no characters are allowed. -/
theorem render_truncate_zero :
    render "\x7b\x7b x | truncate(0) \x7d\x7d" (.ofList [("x", .text "a")]) = "..." ∧
      Filter.result? "truncate" (lengthGiven (some 0)) (.text "a") = some (.text "...") ∧
      0 < "...".toList.length := by
  exact ⟨by decide +kernel, by rfl, by decide⟩

end PromptPacks.Template
