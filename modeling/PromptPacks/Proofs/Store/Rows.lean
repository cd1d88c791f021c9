import Mathlib.Data.List.Nodup

namespace PromptPacks.Rows

section

variable {α β κ : Type}

/-- A replaced row stands in the place of the row with the same key. If there is
    no such row, nothing is replaced. -/
theorem mem_replace_iff [DecidableEq κ] {key : α → κ} {row other : α} {rows : List α} :
    other ∈ (rows.map fun x => if key x = key row then row else x) ↔
      (other = row ∧ ∃ old ∈ rows, key old = key row) ∨ (other ∈ rows ∧ key other ≠ key row) := by
  rw [List.mem_map]
  constructor
  · rintro ⟨old, hold, rfl⟩
    by_cases hkey : key old = key row
    · exact .inl ⟨if_pos hkey, old, hold, hkey⟩
    · rw [if_neg hkey]
      exact .inr ⟨hold, hkey⟩
  · rintro (⟨rfl, old, hold, hkey⟩ | ⟨hother, hkey⟩)
    · exact ⟨old, hold, if_pos hkey⟩
    · exact ⟨other, hother, if_neg hkey⟩

/-- Replacing a row by one with the same key keeps the keys of all rows, and
    their order. -/
theorem map_key_replace [DecidableEq κ] (key : α → κ) (row : α) (rows : List α) :
    (rows.map fun x => if key x = key row then row else x).map key = rows.map key := by
  rw [List.map_map]
  refine List.map_congr_left fun x _ => ?_
  by_cases hkey : key x = key row <;> simp [hkey]

/-- Replacing a row keeps another column free of repetition if no other row has
    the new value there. -/
theorem nodup_map_replace [DecidableEq κ] {key : α → κ} {column : α → β} {row : α} {rows : List α}
    (hkeys : (rows.map key).Nodup) (hcolumn : (rows.map column).Nodup)
    (hfree : ∀ other ∈ rows, column other = column row → key other = key row) :
    ((rows.map fun x => if key x = key row then row else x).map column).Nodup := by
  rw [List.map_map]
  refine List.Nodup.map_on (fun x hx y hy heq => ?_) (List.Nodup.of_map key hkeys)
  have hinj := List.inj_on_of_nodup_map hkeys
  simp only [Function.comp_apply] at heq
  by_cases hxrow : key x = key row <;> by_cases hyrow : key y = key row
  · exact hinj hx hy (hxrow.trans hyrow.symm)
  · rw [if_pos hxrow, if_neg hyrow] at heq
    exact absurd (hfree y hy heq.symm) hyrow
  · rw [if_neg hxrow, if_pos hyrow] at heq
    exact absurd (hfree x hx heq) hxrow
  · rw [if_neg hxrow, if_neg hyrow] at heq
    exact List.inj_on_of_nodup_map hcolumn hx hy heq

/-- A replaced row is not seen where neither the old row nor the new one is
    looked at. This is the frame of every update of a row. -/
theorem filter_replace [DecidableEq κ] {key : α → κ} {row : α} {rows : List α} {looks : α → Bool}
    (hold : ∀ old ∈ rows, key old = key row → looks old = false) (hrow : looks row = false) :
    (rows.map fun x => if key x = key row then row else x).filter looks = rows.filter looks := by
  induction rows with
  | nil => rfl
  | cons old rows ih =>
    obtain ⟨hhead, htail⟩ := List.forall_mem_cons.1 hold
    rw [List.map_cons, List.filter_cons, List.filter_cons, ih htail]
    by_cases hkey : key old = key row
    · simp only [if_pos hkey, hhead hkey, hrow, Bool.false_eq_true, if_false]
    · rw [if_neg hkey]

/-- Further rows keep a column free of repetition if their values are new and
    distinct. -/
theorem nodup_map_append {column : α → β} {rows more : List α} (hrows : (rows.map column).Nodup)
    (hmore : (more.map column).Nodup)
    (hfresh : ∀ old ∈ rows, ∀ new ∈ more, column old ≠ column new) :
    ((rows ++ more).map column).Nodup := by
  rw [List.map_append, List.nodup_append]
  refine ⟨hrows, hmore, ?_⟩
  intro a ha b hb
  obtain ⟨old, hold, rfl⟩ := List.mem_map.1 ha
  obtain ⟨new, hnew, rfl⟩ := List.mem_map.1 hb
  exact hfresh old hold new hnew

/-- The same for a single further row. -/
theorem nodup_map_concat {column : α → β} {rows : List α} {row : α}
    (hrows : (rows.map column).Nodup) (hfresh : ∀ old ∈ rows, column old ≠ column row) :
    ((rows ++ [row]).map column).Nodup :=
  nodup_map_append hrows (by simp) (by simpa using hfresh)

/-- Taking rows away brings no repetition about. -/
theorem nodup_map_filter {column : α → β} {rows : List α} (hrows : (rows.map column).Nodup)
    (keeps : α → Bool) : ((rows.filter keeps).map column).Nodup :=
  hrows.sublist (List.filter_sublist.map column)

/-- Where only the rows that are added are looked at, these are all that is
    seen. -/
theorem filter_append_eq_right {rows more : List α} {looks : α → Bool}
    (hold : ∀ old ∈ rows, looks old = false) (hnew : ∀ new ∈ more, looks new = true) :
    (rows ++ more).filter looks = more := by
  rw [List.filter_append, List.filter_eq_nil_iff.2 fun old hmem => by simp [hold old hmem],
    List.nil_append, List.filter_eq_self.2 hnew]

/-- A row is all that there is under its key. -/
theorem filter_key_eq_singleton [DecidableEq κ] {key : α → κ} {rows : List α} {row : α}
    (hkeys : (rows.map key).Nodup) (hrow : row ∈ rows) :
    rows.filter (key · = key row) = [row] := by
  have hnodup := (List.Nodup.of_map key hkeys).filter fun other => decide (key other = key row)
  refine List.Perm.eq_singleton ((List.perm_ext_iff_of_nodup hnodup (by simp)).2 fun other => ?_)
  rw [List.mem_filter, decide_eq_true_eq, List.mem_singleton]
  constructor
  · rintro ⟨hother, hkey⟩
    exact List.inj_on_of_nodup_map hkeys hother hrow hkey
  · rintro rfl
    exact ⟨hrow, rfl⟩

/-- The only row with a key is the one that a search for the key finds. The test
    need be known on the rows only. -/
theorem find?_eq_some_of_nodup {key : α → κ} {rows : List α} (hkeys : (rows.map key).Nodup)
    {test : α → Bool} {row : α} (hrow : row ∈ rows)
    (htest : ∀ other ∈ rows, test other = true ↔ key other = key row) :
    rows.find? test = some row := by
  obtain ⟨found, hfound⟩ : ∃ found, rows.find? test = some found := by
    rw [← Option.isSome_iff_exists, List.find?_isSome]
    exact ⟨row, hrow, (htest row hrow).2 rfl⟩
  have hmem := List.mem_of_find?_eq_some hfound
  have hkey := (htest found hmem).1 (List.find?_some hfound)
  rw [hfound, List.inj_on_of_nodup_map hkeys hmem hrow hkey]

/-- What is new beside a key and the keys before it. -/
theorem forall_notMem_cons {key : α → κ} {first : κ} {seen : List κ} {rows : List α} :
    (∀ row ∈ rows, key row ∉ first :: seen) ↔
      first ∉ rows.map key ∧ ∀ row ∈ rows, key row ∉ seen := by
  simp only [List.mem_cons, not_or, List.mem_map, not_exists, not_and]
  constructor
  · intro hfresh
    exact ⟨fun row hrow => (hfresh row hrow).1, fun row hrow => (hfresh row hrow).2⟩
  · rintro ⟨hfirst, hseen⟩ row hrow
    exact ⟨hfirst row hrow, hseen row hrow⟩

end

end PromptPacks.Rows
