import PromptPacks.Proofs.Text.Edits
import PromptPacks.Text.Distance

namespace PromptPacks.Text

/-- The distances from a text to ever longer starts of another one, the rest of
    which is given; `start` is the start that comes before them. -/
def distancesBehind (a start : List Char) : List Char → List Nat
  | [] => []
  | b :: bs => editDistance a (start ++ [b]) :: distancesBehind a (start ++ [b]) bs

/-- The row of distances from a text to all starts of another one. -/
def distancesTo (a b : List Char) : List Nat :=
  editDistance a [] :: distancesBehind a [] b

/-- Each distance of a row comes from the three beside it. The row is taken from
    any place on, so that the induction can pass from one place to the next. -/
theorem nextDistances_eq (c : Char) (a start bs : List Char) :
    nextDistances c bs (editDistance a start) (editDistance (a ++ [c]) start)
        (distancesBehind a start bs) =
      distancesBehind (a ++ [c]) start bs := by
  induction bs generalizing start with
  | nil =>
    rw [nextDistances, distancesBehind]
    rintro _ _ _ _ ⟨⟩
  | cons b bs ih =>
    rw [distancesBehind, distancesBehind, nextDistances, ← editDistance_concat, ih]

/-- From the distances of one text to all starts of the other the next row gives
    those of the text with one more character. -/
theorem nextRow_distancesTo (a b : List Char) (c : Char) :
    nextRow b (distancesTo a b) c = distancesTo (a ++ [c]) b := by
  have hfirst : editDistance (a ++ [c]) [] = editDistance a [] + 1 := by
    rw [editDistance_nil_right, editDistance_nil_right, List.length_append, List.length_singleton]
  rw [distancesTo, nextRow, ← hfirst, nextDistances_eq, distancesTo]

/-- Row by row the distances of all starts of a text are found, from any row
    on. -/
theorem foldl_nextRow (a b cs : List Char) :
    cs.foldl (nextRow b) (distancesTo a b) = distancesTo (a ++ cs) b := by
  induction cs generalizing a with
  | nil => rw [List.foldl_nil, List.append_nil]
  | cons c cs ih => rw [List.foldl_cons, nextRow_distancesTo, ih, ← List.append_cons]

/-- The empty text takes one insertion for each character, so the first row
    counts from none on. -/
theorem distancesTo_nil (b : List Char) : distancesTo [] b = List.range (b.length + 1) := by
  have hbehind (start bs : List Char) :
      distancesBehind [] start bs = List.range' (start.length + 1) bs.length := by
    induction bs generalizing start with
    | nil => rfl
    | cons b bs ih =>
      rw [distancesBehind, ih, editDistance_nil_left, List.length_append, List.length_singleton,
        List.length_cons, List.range'_succ]
  rw [distancesTo, hbehind, editDistance_nil_left, List.range_eq_range', List.range'_succ]
  rfl

/-- The last distance of a row is that to the whole text. -/
theorem getLastD_distancesBehind (a start bs : List Char) :
    (distancesBehind a start bs).getLastD (editDistance a start) =
      editDistance a (start ++ bs) := by
  induction bs generalizing start with
  | nil => rw [List.append_nil]; rfl
  | cons b bs ih => rw [distancesBehind, List.getLastD_cons, ih, ← List.append_cons]

/-- The distance that is found row by row is the least number of edits. All
    properties of the distance are proved of this number, which is defined by
    recursion on both texts. -/
theorem distance_eq_editDistance (a b : List Char) : distance a b = editDistance a b := by
  rw [distance, ← distancesTo_nil, foldl_nextRow, distancesTo, List.getLastD_cons,
    getLastD_distancesBehind]
  rfl

/-- One text becomes the other by as many edits as their distance says, so that
    the distance is attained. -/
theorem edits_distance (a b : List Char) : Edits (distance a b) a b :=
  distance_eq_editDistance a b ▸ edits_editDistance a b

/-- What a search ends with is what it started with or one of the candidates.
    Started with nothing, it can only end with a candidate. -/
theorem preferred_foldl_cases {name : String} {candidates : List String} {best : Option String}
    {found : String} (hfound : candidates.foldl (preferred name) best = some found) :
    best = some found ∨ found ∈ candidates := by
  induction candidates generalizing best with
  | nil => exact .inl hfound
  | cons candidate rest ih =>
    obtain hbest | hmem := ih hfound
    · unfold preferred at hbest
      split at hbest
      · split at hbest
        · exact .inr (Option.some.inj hbest ▸ List.mem_cons_self)
        · exact .inl hbest
      · exact .inr (Option.some.inj hbest ▸ List.mem_cons_self)
    · exact .inr (List.mem_cons_of_mem _ hmem)

/-- The name that is offered for another one is a plausible candidate, never a
    name that was not given. -/
theorem closest?_eq_some {name found : String} {candidates : List String}
    (hfound : closest? name candidates = some found) :
    found ∈ candidates ∧ isPlausible name found = true := by
  obtain hnone | hmem := preferred_foldl_cases hfound
  · cases hnone
  · exact List.mem_filter.1 hmem

/-- A plausible name is another one and few edits away. The number of edits is
    bounded for all names alike. -/
theorem edits_of_isPlausible {name candidate : String}
    (hnear : isPlausible name candidate = true) :
    candidate ≠ name ∧ ∃ n ≤ maxSuggestionDistance, Edits n name.toList candidate.toList := by
  simp only [isPlausible, Bool.and_eq_true, bne_iff_ne, decide_eq_true_eq] at hnear
  exact ⟨hnear.1.1, _, hnear.1.2, edits_distance _ _⟩

end PromptPacks.Text
