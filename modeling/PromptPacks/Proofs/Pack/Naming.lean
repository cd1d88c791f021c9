import Mathlib.Data.List.Nodup
import PromptPacks.Pack.Rules

namespace PromptPacks

variable {base : String} {existing : List String}

/-- Different numbers give different names, as a number is read back from its
    digits. This is what the counting of names in use rests on. -/
theorem numberedName_injective (base : String) : Function.Injective (numberedName base) := by
  intro a b heq
  have hlists := congrArg String.toList heq
  simp only [numberedName, String.toList_append, List.append_cancel_left_eq, List.append_assoc,
    List.append_cancel_right_eq, Nat.toString_eq_repr, Nat.toList_repr] at hlists
  have hread := congrArg (fun digits => Nat.ofDigitChars 10 digits 0) hlists
  simpa using hread

/-- The search goes past names that are in use, and it stops early only at a
    free one. If it stops at its last number, nothing is known of it yet. -/
theorem freeNumbered_spec (base : String) (existing : List String) (n more : Nat) :
    ∃ m, n ≤ m ∧ m ≤ n + more ∧ freeNumbered base existing n more = numberedName base m ∧
      (∀ k, n ≤ k → k < m → numberedName base k ∈ existing) ∧
      (m < n + more → numberedName base m ∉ existing) := by
  induction more generalizing n with
  | zero => exact ⟨n, by omega, by omega, rfl, by omega, by omega⟩
  | succ more ih =>
    rw [freeNumbered]
    by_cases hused : numberedName base n ∈ existing
    · rw [if_pos (by simpa using hused)]
      obtain ⟨m, hnm, hmore, heq, hbefore, hfree⟩ := ih (n + 1)
      refine ⟨m, by omega, by omega, heq, fun k hk hkm => ?_, fun hm => hfree (by omega)⟩
      obtain rfl | hk := Nat.eq_or_lt_of_le hk
      · exact hused
      · exact hbefore k hk hkm
    · rw [if_neg (by simpa using hused)]
      exact ⟨n, by omega, by omega, rfl, by omega, fun _ => hused⟩

/-- One more numbered name than there are names in use cannot all be in use.
    Repeated names in the list only help. -/
theorem exists_numberedName_not_mem (base : String) (existing : List String) (n : Nat) :
    ∃ k, n ≤ k ∧ k ≤ n + existing.length ∧ numberedName base k ∉ existing := by
  by_contra hall
  push Not at hall
  have hnodup : ((List.range' n (existing.length + 1)).map (numberedName base)).Nodup :=
    (List.nodup_range').map (numberedName_injective base)
  have hsubset : (List.range' n (existing.length + 1)).map (numberedName base) ⊆ existing := by
    intro name hname
    obtain ⟨k, hk, rfl⟩ := List.mem_map.1 hname
    obtain ⟨hle, hlt⟩ := List.mem_range'_1.1 hk
    exact hall k hle (by omega)
  have hlength := hnodup.length_le_of_subset hsubset
  rw [List.length_map, List.length_range'] at hlength
  omega

/-- With as many tries as there are names the search ends at a free one. -/
theorem freeNumbered_not_mem : freeNumbered base existing 2 existing.length ∉ existing := by
  obtain ⟨m, hnm, hmore, heq, hbefore, hfree⟩ :=
    freeNumbered_spec base existing 2 existing.length
  obtain ⟨k, hk, hlast, hunused⟩ := exists_numberedName_not_mem base existing 2
  rw [heq]
  by_cases hkm : k < m
  · exact absurd (hbefore k hk hkm) hunused
  · by_cases hm : m < 2 + existing.length
    · exact hfree hm
    · obtain rfl : k = m := by omega
      exact hunused

/-- The name that is chosen is free, whatever names are in use. -/
theorem uniqueName_not_mem : uniqueName base existing ∉ existing := by
  unfold uniqueName
  by_cases hused : base ∈ existing
  · rw [if_pos (by simpa using hused)]
    exact freeNumbered_not_mem
  · rw [if_neg (by simpa using hused)]
    exact hused

/-- The first one of a name and its numbered forms, from two on, that is not in
    use. -/
def IsFirstFree (base : String) (used : List String) (name : String) : Prop :=
  name ∉ used ∧ (name = base ∨ base ∈ used ∧ ∃ n, 2 ≤ n ∧ name = numberedName base n ∧
    ∀ k, 2 ≤ k → k < n → numberedName base k ∈ used)

/-- No two names are the first free one, as the numbers below that of either are
    in use. So the choice is determined by its description. -/
theorem IsFirstFree.unique {a b : String} (ha : IsFirstFree base existing a)
    (hb : IsFirstFree base existing b) : a = b := by
  obtain ⟨hafree, rfl | ⟨hused, m, hm, rfl, hbelow⟩⟩ := ha
  · exact (hb.2.resolve_right fun hused => hafree hused.1).symm
  · obtain ⟨hbfree, rfl | ⟨-, n, hn, rfl, hbelow'⟩⟩ := hb
    · exact absurd hused hbfree
    · have hmn : ¬m < n := fun hlt => hafree (hbelow' m hm hlt)
      have hnm : ¬n < m := fun hlt => hbfree (hbelow n hn hlt)
      rw [show m = n by omega]

/-- The chosen name is the first free one: the name itself, or it with the least
    free number from two on. -/
theorem isFirstFree_uniqueName : IsFirstFree base existing (uniqueName base existing) := by
  refine ⟨uniqueName_not_mem, ?_⟩
  unfold uniqueName
  by_cases hused : base ∈ existing
  · obtain ⟨n, hn, -, heq, hbefore, -⟩ := freeNumbered_spec base existing 2 existing.length
    rw [if_pos (by simpa using hused), heq]
    exact .inr ⟨hused, n, hn, rfl, hbefore⟩
  · rw [if_neg (by simpa using hused)]
    exact .inl rfl

/-- A numbered name is longer than the name itself, so the name itself is not
    among them. -/
theorem numberedName_ne_base (base : String) (n : Nat) : numberedName base n ≠ base := by
  intro heq
  have hlength : (base ++ " (" ++ toString n ++ ")").length = base.length :=
    congrArg String.length heq
  have hmark : " (".length = 2 := rfl
  simp only [String.length_append, hmark] at hlength
  omega

/-- As the name itself takes one of the names in use, two and the numbers that
    follow it need not be tried beyond the number of these by more than one. -/
theorem exists_numberedName_not_mem_of_mem (hused : base ∈ existing) :
    ∃ k, 2 ≤ k ∧ k ≤ existing.length + 1 ∧ numberedName base k ∉ existing := by
  obtain ⟨k, hk, hlast, hfree⟩ := exists_numberedName_not_mem base (existing.erase base) 2
  rw [List.length_erase_of_mem hused] at hlast
  have hpos := List.length_pos_of_mem hused
  refine ⟨k, hk, by omega, fun hmem => hfree ?_⟩
  exact (List.mem_erase_of_ne (numberedName_ne_base base k)).2 hmem

/-- The number that a name in use gets, and why: all smaller ones from two on
    are in use. The bound counts the names in use, so it holds for long lists
    too. -/
theorem exists_uniqueName_eq_numberedName (hused : base ∈ existing) :
    ∃ n, 2 ≤ n ∧ n ≤ existing.length + 1 ∧ uniqueName base existing = numberedName base n ∧
      ∀ k, 2 ≤ k → k < n → numberedName base k ∈ existing := by
  have hfirst : IsFirstFree base existing (uniqueName base existing) := isFirstFree_uniqueName
  obtain ⟨-, heq | ⟨-, n, hn, heq, hbelow⟩⟩ := hfirst
  · exact absurd (heq ▸ hused) uniqueName_not_mem
  · obtain ⟨k, hk, hlast, hfree⟩ := exists_numberedName_not_mem_of_mem hused
    have hnk : n ≤ k := Nat.not_lt.1 fun hlt => hfree (hbelow k hk hlt)
    exact ⟨n, hn, Nat.le_trans hnk hlast, heq, hbelow⟩

/-- The greatest number of thirty-two bits with a sign. -/
def maxInt32 : Nat := 2147483647

/-- A search through the numbered names from a number on comes to its end with a
    name. It goes past names in use, and it counts in thirty-two bits, which
    have to hold the number behind each that it tries. -/
inductive SearchEnds (base : String) (used : List String) : Nat → String → Prop where
  | free {n : Nat} (hcounts : n < maxInt32) (hfree : numberedName base n ∉ used) :
    SearchEnds base used n (numberedName base n)
  | next {n : Nat} {name : String} (hcounts : n < maxInt32) (hused : numberedName base n ∈ used)
    (hrest : SearchEnds base used (n + 1) name) : SearchEnds base used n name

/-- A search comes to the first free number, if its counter does. Its steps are
    the numbers below, each of which is in use. -/
theorem SearchEnds.of_least {n m : Nat} (hnm : n ≤ m) (hcounts : m < maxInt32)
    (hfree : numberedName base m ∉ existing)
    (hbelow : ∀ k, n ≤ k → k < m → numberedName base k ∈ existing) :
    SearchEnds base existing n (numberedName base m) := by
  induction hdistance : m - n generalizing n with
  | zero =>
    obtain rfl : n = m := by omega
    exact .free hcounts hfree
  | succ distance ih =>
    have hrest : SearchEnds base existing (n + 1) (numberedName base m) :=
      ih (by omega) (fun k hk hkm => hbelow k (by omega) hkm) (by omega)
    exact .next (by omega) (hbelow n (Nat.le_refl n) (by omega)) hrest

/-- A search without a bound ends at one name at most, since each of its steps
    is determined. -/
theorem SearchEnds.unique {n : Nat} {a b : String} (ha : SearchEnds base existing n a)
    (hb : SearchEnds base existing n b) : a = b := by
  induction ha with
  | free _ hfree =>
    cases hb with
    | free => rfl
    | next _ hused _ => exact absurd hused hfree
  | next _ hused _ ih =>
    cases hb with
    | free _ hfree => exact absurd hused hfree
    | next _ _ hrest => exact ih hrest

/-- What comes of asking for a free name again and again, where each answer is
    in use from then on. -/
def freshNames (base : String) : Nat → List String → List String
  | 0, _ => []
  | count + 1, existing =>
    let name := uniqueName base existing
    name :: freshNames base count (existing ++ [name])

/-- Several names that are chosen one after the other are distinct and free, as
    each of them counts as used for the next. -/
theorem freshNames_spec (base : String) (count : Nat) (existing : List String) :
    (freshNames base count existing).Nodup ∧
      ∀ name ∈ freshNames base count existing, name ∉ existing := by
  induction count generalizing existing with
  | zero => exact ⟨List.nodup_nil, nofun⟩
  | succ count ih =>
    obtain ⟨hnodup, hfresh⟩ := ih (existing ++ [uniqueName base existing])
    rw [freshNames, List.nodup_cons, List.forall_mem_cons]
    refine ⟨⟨fun hmem => ?_, hnodup⟩, uniqueName_not_mem, fun name hmem hold => ?_⟩
    · exact hfresh _ hmem (List.mem_append_right _ List.mem_cons_self)
    · exact hfresh name hmem (List.mem_append_left _ hold)

/-- A name that is free is kept. Any other gets the least number from two on
    that makes it free, which is at most one more than there are names in use: a
    search without any other bound than its counter comes to an end with it. So
    no name is ever given twice. -/
theorem uniqueName_isLeastFree (base : String) {existing : List String}
    (hlength : existing.length < maxInt32 - 1) :
    uniqueName base existing ∉ existing ∧
      (base ∉ existing → uniqueName base existing = base) ∧
      (base ∈ existing →
        (∀ name, SearchEnds base existing 2 name ↔ name = uniqueName base existing) ∧
        ∃ n, 2 ≤ n ∧ n ≤ existing.length + 1 ∧ uniqueName base existing = numberedName base n ∧
          ∀ k, 2 ≤ k → k < n → numberedName base k ∈ existing) ∧
      ∀ count, (freshNames base count existing).Nodup ∧
        ∀ name ∈ freshNames base count existing, name ∉ existing := by
  refine ⟨uniqueName_not_mem, fun hfree => ?_, fun hused => ?_,
    fun count => freshNames_spec base count existing⟩
  · exact if_neg (by simpa using hfree)
  · obtain ⟨n, hn, hlast, heq, hbelow⟩ := exists_uniqueName_eq_numberedName hused
    have hends : SearchEnds base existing 2 (uniqueName base existing) := by
      have hfree : uniqueName base existing ∉ existing := uniqueName_not_mem
      rw [heq] at hfree ⊢
      exact .of_least hn (by omega) hfree hbelow
    refine ⟨fun name => ⟨fun hname => hname.unique hends, ?_⟩, n, hn, hlast, heq, hbelow⟩
    rintro rfl
    exact hends

/-- A name in use beside the numbers two and three gets the number four,
    although there are fewer different names in use. -/
theorem uniqueName_isLeastFree_noir :
    ["Noir", "Noir (3)", "Noir (2)", "Noir (2)"].length < maxInt32 - 1 ∧
      SearchEnds "Noir" ["Noir", "Noir (3)", "Noir (2)", "Noir (2)"] 2 "Noir (4)" := by
  have hlength : ["Noir", "Noir (3)", "Noir (2)", "Noir (2)"].length < maxInt32 - 1 := by decide
  obtain ⟨-, -, hused, -⟩ := uniqueName_isLeastFree "Noir" hlength
  exact ⟨hlength, ((hused (by decide)).1 "Noir (4)").2 (by decide +kernel)⟩

end PromptPacks
