import Mathlib.Data.Prod.Lex
import Mathlib.Data.String.Basic
import PromptPacks.Proofs.Text.ByteOrder
import PromptPacks.Proofs.Text.Distance

namespace PromptPacks.Text

variable {name found other : String} {candidates others : List String} {best : Option String}

/-- Where a candidate stands among all others: nearer ones first, and equally
    near ones in order. -/
def rank (name candidate : String) : Nat ×ₗ String :=
  toLex (distance name.toList candidate.toList, candidate)

/-- Names of the same rank are the same, as the rank holds the name itself. So
    there are no ties. -/
theorem rank_injective (name : String) : Function.Injective (rank name) :=
  fun _ _ heq => congrArg (fun place => (ofLex place).2) heq

/-- A candidate is preferred exactly if it comes before in rank, by distance
    first and by bytes then. -/
theorem isPreferred_iff :
    isPreferred name found other = true ↔ rank name found < rank name other := by
  simp [isPreferred, rank, Prod.Lex.toLex_lt_toLex]

/-- A search ends with nothing only if it had nothing to look at. -/
theorem eq_none_of_foldl_preferred (hnone : candidates.foldl (preferred name) best = none) :
    best = none ∧ candidates = [] := by
  induction candidates generalizing best with
  | nil => exact ⟨hnone, rfl⟩
  | cons candidate rest ih =>
    obtain ⟨hbest, -⟩ := ih hnone
    unfold preferred at hbest
    split at hbest
    · split at hbest <;> cases hbest
    · cases hbest

/-- The search ends with the first in rank of all that it came across. In each
    step the better one of two is kept, which is not behind either of them. -/
theorem rank_le_of_foldl_preferred
    (hfound : candidates.foldl (preferred name) best = some found) :
    (∀ other ∈ best, rank name found ≤ rank name other) ∧
      ∀ other ∈ candidates, rank name found ≤ rank name other := by
  induction candidates generalizing best with
  | nil =>
    obtain rfl : best = some found := hfound
    exact ⟨by simp, by simp⟩
  | cons candidate rest ih =>
    obtain ⟨hbest, hrest⟩ := ih hfound
    suffices hboth : (∀ other ∈ best, rank name found ≤ rank name other) ∧
        rank name found ≤ rank name candidate from
      ⟨hboth.1, List.forall_mem_cons.2 ⟨hboth.2, hrest⟩⟩
    cases best with
    | none => exact ⟨by simp, hbest candidate rfl⟩
    | some other =>
      rw [preferred] at hbest
      split at hbest
      · have hle := hbest candidate rfl
        have hlt : rank name candidate < rank name other := isPreferred_iff.1 ‹_›
        exact ⟨by simpa using hle.trans hlt.le, hle⟩
      · have hle := hbest other rfl
        have hnot : ¬rank name candidate < rank name other := mt isPreferred_iff.2 ‹_›
        exact ⟨by simpa using hle, hle.trans (not_lt.1 hnot)⟩

/-- If any candidate is plausible, some name is offered. -/
theorem exists_closest? (hfound : found ∈ candidates) (hnear : isPlausible name found = true) :
    ∃ other, closest? name candidates = some other := by
  refine Option.ne_none_iff_exists'.1 fun hnone => ?_
  have hempty := (eq_none_of_foldl_preferred hnone).2
  exact List.ne_nil_of_mem (List.mem_filter.2 ⟨hfound, hnear⟩) hempty

/-- The offered name is the first in rank of the plausible candidates. As no two
    names have the same rank, this determines it. -/
theorem closest?_eq_some_iff :
    closest? name candidates = some found ↔
      (found ∈ candidates ∧ isPlausible name found = true) ∧
        ∀ other ∈ candidates, isPlausible name other = true →
          rank name found ≤ rank name other := by
  have hfirst : ∀ {first}, closest? name candidates = some first → ∀ other ∈ candidates,
      isPlausible name other = true → rank name first ≤ rank name other :=
    fun heq other hother hnear =>
      (rank_le_of_foldl_preferred heq).2 other (List.mem_filter.2 ⟨hother, hnear⟩)
  refine ⟨fun heq => ⟨closest?_eq_some heq, hfirst heq⟩, ?_⟩
  rintro ⟨⟨hmem, hnear⟩, hle⟩
  obtain ⟨other, heq⟩ := exists_closest? hmem hnear
  obtain ⟨hother, hclose⟩ := closest?_eq_some heq
  rw [heq, rank_injective name ((hfirst heq found hmem hnear).antisymm (hle other hother hclose))]

/-- Neither the order of the candidates nor their repetition matters, since only
    the set of candidates enters the description of the offered name. -/
theorem closest?_congr (hsame : ∀ other, other ∈ candidates ↔ other ∈ others) :
    closest? name candidates = closest? name others := by
  refine Option.ext fun found => ?_
  simp only [closest?_eq_some_iff, hsame]

/-- Whether a candidate may be what a name should have been: it is another name,
    at a distance that is small and below the number of characters of the name. -/
structure IsNear (name candidate : String) : Prop where
  ne_name : candidate ≠ name
  le_max : editDistance name.toList candidate.toList ≤ maxSuggestionDistance
  lt_length : editDistance name.toList candidate.toList < name.length

/-- The test that is run and the description of what is near agree. -/
theorem isPlausible_iff_isNear {candidate : String} :
    isPlausible name candidate = true ↔ IsNear name candidate := by
  simp only [isPlausible, Bool.and_eq_true, bne_iff_ne, decide_eq_true_eq,
    distance_eq_editDistance]
  constructor
  · rintro ⟨⟨hne, hmax⟩, hlength⟩
    exact ⟨hne, hmax, hlength⟩
  · rintro ⟨hne, hmax, hlength⟩
    exact ⟨⟨hne, hmax⟩, hlength⟩

/-- Nearer names stand before others, and equally near ones in the order of
    their bytes. The rank itself is not needed any more where this is used. -/
theorem rank_le_iff :
    rank name found ≤ rank name other ↔
      editDistance name.toList found.toList < editDistance name.toList other.toList ∨
        editDistance name.toList found.toList = editDistance name.toList other.toList ∧
          bytes found ≤ bytes other := by
  rw [rank, rank, Prod.Lex.toLex_le_toLex]
  simp only [distance_eq_editDistance, le_iff_bytes_le]

/-- The near candidate with the least distance, and with the least bytes among
    those that are equally near. -/
structure IsFirstChoice (name : String) (candidates : List String) (found : String) : Prop where
  mem : found ∈ candidates
  isNear : IsNear name found
  first : ∀ other ∈ candidates, IsNear name other →
    editDistance name.toList found.toList < editDistance name.toList other.toList ∨
      editDistance name.toList found.toList = editDistance name.toList other.toList ∧
        bytes found ≤ bytes other

/-- What is offered, said without the search. -/
theorem closest?_eq_some_iff_isFirstChoice :
    closest? name candidates = some found ↔ IsFirstChoice name candidates found := by
  simp only [closest?_eq_some_iff, isPlausible_iff_isNear, rank_le_iff]
  constructor
  · rintro ⟨⟨hmem, hnear⟩, hfirst⟩
    exact ⟨hmem, hnear, hfirst⟩
  · rintro ⟨hmem, hnear, hfirst⟩
    exact ⟨⟨hmem, hnear⟩, hfirst⟩

/-- Whether a name is offered depends on nothing but the existence of a near
    candidate. -/
theorem isSome_closest?_iff :
    (closest? name candidates).isSome = true ↔ ∃ found ∈ candidates, IsNear name found := by
  rw [Option.isSome_iff_exists]
  constructor
  · rintro ⟨found, hfound⟩
    have hchoice := closest?_eq_some_iff_isFirstChoice.1 hfound
    exact ⟨found, hchoice.mem, hchoice.isNear⟩
  · rintro ⟨found, hmem, hnear⟩
    exact exists_closest? hmem (isPlausible_iff_isNear.2 hnear)

/-- A name is offered exactly if some candidate is near, and then it is the
    first choice among them. So neither the order nor the repetition of
    candidates matters, and no name is offered for itself. -/
theorem closest?_isFirstChoice (name : String) (candidates : List String) :
    ((closest? name candidates).isSome = true ↔ ∃ found ∈ candidates, IsNear name found) ∧
      (∀ found, closest? name candidates = some found ↔ IsFirstChoice name candidates found) ∧
      (∀ others, (∀ other, other ∈ candidates ↔ other ∈ others) →
        closest? name candidates = closest? name others) ∧
      closest? name candidates ≠ some name := by
  refine ⟨isSome_closest?_iff, fun found => closest?_eq_some_iff_isFirstChoice,
    fun others hsame => closest?_congr hsame, fun hself => ?_⟩
  exact (closest?_eq_some_iff_isFirstChoice.1 hself).isNear.ne_name rfl

end PromptPacks.Text
