import Mathlib.Data.List.DropRight
import PromptPacks.Text.Blank

namespace PromptPacks.Text

variable {α : Type} {p : α → Bool}

/-- What is dropped altogether at the end of a list does not stop what stands
    before it from being dropped, too. -/
theorem rdropWhile_append_of_pos (xs : List α) {ys : List α} (hall : ∀ y ∈ ys, p y = true) :
    (xs ++ ys).rdropWhile p = xs.rdropWhile p := by
  rw [List.rdropWhile, List.reverse_append,
    List.dropWhile_append_of_pos fun y hy => hall y (List.mem_reverse.1 hy), List.rdropWhile]

/-- If something of the second list is left, the first one is not reached. -/
theorem rdropWhile_append_of_ne_nil (xs : List α) {ys : List α} (hsome : ys.rdropWhile p ≠ []) :
    (xs ++ ys).rdropWhile p = xs ++ ys.rdropWhile p := by
  rw [List.rdropWhile] at hsome
  rw [List.rdropWhile, List.reverse_append, List.dropWhile_append,
    if_neg (by simpa using hsome), List.reverse_append, List.reverse_reverse, List.rdropWhile]

/-- Where nothing is dropped from a list, nothing is dropped from it in front of
    another one. Its last element stops the dropping. -/
theorem rdropWhile_append_of_self {xs : List α} (hself : xs.rdropWhile p = xs) (ys : List α) :
    (xs ++ ys).rdropWhile p = xs ++ ys.rdropWhile p := by
  obtain hnone | hsome := eq_or_ne (ys.rdropWhile p) []
  · rw [rdropWhile_append_of_pos xs (List.rdropWhile_eq_nil_iff.1 hnone), hself, hnone,
      List.append_nil]
  · exact rdropWhile_append_of_ne_nil xs hsome

/-- An element that is not dropped in front stays there whatever is dropped
    behind it. -/
theorem rdropWhile_cons_of_neg {x : α} (hx : p x = false) (xs : List α) :
    (x :: xs).rdropWhile p = x :: xs.rdropWhile p := by
  have hself : [x].rdropWhile p = [x] := by
    rw [List.rdropWhile_singleton, if_neg (by simp [hx])]
  exact rdropWhile_append_of_self hself xs

/-- What is dropped at one end does not depend on what is dropped at the other.
    So the order of the two trimmings does not matter. -/
theorem dropWhile_rdropWhile (xs : List α) :
    (xs.rdropWhile p).dropWhile p = (xs.dropWhile p).rdropWhile p := by
  induction xs with
  | nil => rfl
  | cons x xs ih =>
    cases hx : p x with
    | false =>
      have hkeeps (ys : List α) : (x :: ys).dropWhile p = x :: ys :=
        List.dropWhile_cons_of_neg (by simp [hx])
      rw [rdropWhile_cons_of_neg hx, hkeeps, hkeeps, rdropWhile_cons_of_neg hx]
    | true =>
      rw [List.dropWhile_cons_of_pos hx, ← ih]
      obtain hnone | hsome := eq_or_ne (xs.rdropWhile p) []
      · have hall : ∀ y ∈ x :: xs, p y = true :=
          List.forall_mem_cons.2 ⟨hx, List.rdropWhile_eq_nil_iff.1 hnone⟩
        rw [List.rdropWhile_eq_nil_iff.2 hall, hnone]
      · rw [← List.singleton_append, rdropWhile_append_of_ne_nil [x] hsome,
          List.singleton_append, List.dropWhile_cons_of_pos hx]

/-- Trimming at the end is the library's dropping from the right, whose lemmas
    can be used then. -/
theorem trimEnd_eq_rdropWhile (cs : List Char) : trimEnd cs = cs.rdropWhile isBlank :=
  rfl

/-- What is dropped at the end of a text is white space, and none is left there.
    The two together determine the trimmed text. -/
theorem exists_eq_trimEnd_append (cs : List Char) :
    ∃ blanks, cs = trimEnd cs ++ blanks ∧ (∀ c ∈ blanks, isBlank c = true) ∧
      ∀ c ∈ (trimEnd cs).getLast?, isBlank c = false := by
  refine ⟨cs.rtakeWhile isBlank, (List.rdropWhile_append_rtakeWhile).symm, ?_, ?_⟩
  · intro c hc
    exact List.mem_rtakeWhile_imp hc
  · intro c hc
    rw [trimEnd_eq_rdropWhile] at hc
    obtain ⟨hsome, rfl⟩ := List.mem_getLast?_eq_getLast hc
    simpa using List.rdropWhile_last_not isBlank cs hsome

end PromptPacks.Text
