import PromptPacks.Proofs.Text.Distance

namespace PromptPacks.Text

/-- Puts one distance of a row where an older one stands: that for the start of
    the second text which ends with the given character, behind the given number
    of others. -/
def writeDistance (c : Char) (above row : Array Nat) (place : Char × Nat) : Array Nat :=
  row.set! (place.2 + 1) (min (min (above[place.2 + 1]! + 1) (row[place.2]! + 1))
    (above[place.2]! + if c = place.1 then 0 else 1))

/-- Writes the row for one more character of the first text, which stands behind
    `count` others, over an older row. -/
def overwriteRow (b : List Char) (c : Char) (count : Nat) (above older : Array Nat) : Array Nat :=
  b.zipIdx.foldl (writeDistance c above) (older.set! 0 (count + 1))

/-- Two rows in buffers of their own: the last one, and an older one that is not
    needed any more. -/
structure RowBuffers where
  latest : Array Nat
  older : Array Nat

/-- The next row takes the place of the older one, and the two buffers are
    swapped. -/
def RowBuffers.next (b : List Char) (rows : RowBuffers) (place : Char × Nat) : RowBuffers :=
  ⟨overwriteRow b place.1 place.2 rows.latest rows.older, rows.latest⟩

/-- The distance of two texts where all rows share two buffers. -/
def distanceInBuffers (a b : List Char) : Nat :=
  if a.isEmpty then b.length
  else if b.isEmpty then a.length
  else
    let start := ⟨Array.range (b.length + 1), Array.replicate (b.length + 1) 0⟩
    (a.zipIdx.foldl (RowBuffers.next b) start).latest[b.length]!

/-- A buffer holds the distances from a text to the starts of another one that
    have at most `upTo` characters. What stands behind these is not known. -/
structure HoldsRow (a b : List Char) (upTo : Nat) (row : Array Nat) : Prop where
  size_eq : row.size = b.length + 1
  getElem!_eq : ∀ count ≤ upTo, row[count]! = editDistance a (b.take count)

section Writing

variable {a b start rest : List Char} {c d : Char} {above row older : Array Nat}

/-- The first place of a row is written before the loop. It is the number of
    characters read so far, and the other places still belong to an older row. -/
theorem holdsRow_first (a : List Char) (c : Char) (hsize : older.size = b.length + 1) :
    HoldsRow (a ++ [c]) b 0 (older.set! 0 (a.length + 1)) := by
  refine ⟨by simpa using hsize, fun count hcount => ?_⟩
  obtain rfl := Nat.le_zero.1 hcount
  rw [Array.getElem!_set!_self _ _ _ (by omega), List.take_zero, editDistance_nil_right,
    List.length_append, List.length_singleton]

/-- One step of the inner loop: the place behind those that are written is
    written next. It is read from the row above and from the place to its left,
    never from a stale one. -/
theorem HoldsRow.write (hrow : HoldsRow (a ++ [c]) b start.length row)
    (habove : HoldsRow a b b.length above) (htext : start ++ d :: rest = b) :
    HoldsRow (a ++ [c]) b (start.length + 1) (writeDistance c above row (d, start.length)) := by
  have hlength : start.length < b.length := by simp [← htext]
  have hstart : b.take start.length = start := by simp [← htext]
  have hlonger : b.take (start.length + 1) = start ++ [d] := by
    rw [← htext, List.take_length_add_append, List.take_succ_cons, List.take_zero]
  refine ⟨by simpa [writeDistance] using hrow.size_eq, fun count hcount => ?_⟩
  obtain hlt | rfl := Nat.lt_or_eq_of_le hcount
  · rw [writeDistance, Array.getElem!_set!_ne _ _ _ _ (by omega)]
    exact hrow.getElem!_eq count (by omega)
  · have hsize := hrow.size_eq
    rw [writeDistance, Array.getElem!_set!_self _ _ _ (by omega),
      habove.getElem!_eq _ (by omega), habove.getElem!_eq _ (by omega), hrow.getElem!_eq _ le_rfl,
      hstart, hlonger, editDistance_concat]

/-- From left to right each place is written before the next one reads it. So it
    does not matter what an older row has left in the buffer. -/
theorem HoldsRow.foldl_write (hrow : HoldsRow (a ++ [c]) b start.length row)
    (habove : HoldsRow a b b.length above) (htext : start ++ rest = b) :
    HoldsRow (a ++ [c]) b b.length
      ((rest.zipIdx start.length).foldl (writeDistance c above) row) := by
  induction rest generalizing start row with
  | nil =>
    rw [List.append_nil] at htext
    exact htext ▸ hrow
  | cons d rest ih =>
    rw [List.zipIdx_cons, List.foldl_cons]
    have hlength : (start ++ [d]).length = start.length + 1 := by simp
    rw [← hlength]
    refine ih ?_ (by simpa using htext)
    rw [hlength]
    exact hrow.write habove htext

/-- One turn of the outer loop writes the next row over an older one. Of the
    older row only its size is needed. -/
theorem HoldsRow.overwriteRow (habove : HoldsRow a b b.length above)
    (hsize : older.size = b.length + 1) (c : Char) :
    HoldsRow (a ++ [c]) b b.length (overwriteRow b c a.length above older) := by
  have hfirst : HoldsRow (a ++ [c]) b ([] : List Char).length (older.set! 0 (a.length + 1)) :=
    holdsRow_first a c hsize
  exact hfirst.foldl_write habove rfl

end Writing

/-- The buffers after all characters of a text: whatever the older row was, it
    does not count. -/
structure RowBuffers.Hold (a b : List Char) (rows : RowBuffers) : Prop where
  latest : HoldsRow a b b.length rows.latest
  size_older : rows.older.size = b.length + 1

/-- Exchanging the two buffers after each row keeps the row above where the next
    turn looks for it. -/
theorem RowBuffers.Hold.next {a b : List Char} {rows : RowBuffers} (hrows : rows.Hold a b)
    (c : Char) : (rows.next b (c, a.length)).Hold (a ++ [c]) b :=
  ⟨hrows.latest.overwriteRow hrows.size_older c, hrows.latest.size_eq⟩

/-- The invariant of the outer loop over any number of characters, by induction
    on them. -/
theorem RowBuffers.Hold.foldl_next {a b : List Char} {rows : RowBuffers} (hrows : rows.Hold a b)
    (cs : List Char) : ((cs.zipIdx a.length).foldl (RowBuffers.next b) rows).Hold (a ++ cs) b := by
  induction cs generalizing a rows with
  | nil => simpa using hrows
  | cons c cs ih =>
    rw [List.zipIdx_cons, List.foldl_cons]
    have hmore := ih (hrows.next c)
    rwa [List.length_append, List.length_singleton, ← List.append_cons] at hmore

/-- The row for the empty text counts the insertions, from none on. -/
theorem holdsRow_range (b : List Char) :
    HoldsRow [] b b.length (Array.range (b.length + 1)) := by
  refine ⟨by simp, fun count hcount => ?_⟩
  rw [editDistance_nil_left, List.length_take, Nat.min_eq_left hcount]
  simp [Nat.lt_succ_of_le hcount]

/-- Rows that share two buffers lead to the same distance. Nothing is assumed of
    the texts, the empty one included. -/
theorem distanceInBuffers_eq (a b : List Char) : distanceInBuffers a b = editDistance a b := by
  unfold distanceInBuffers
  split_ifs with ha hb
  · rw [List.isEmpty_iff.1 ha, editDistance_nil_left]
  · rw [List.isEmpty_iff.1 hb, editDistance_nil_right]
  · have hstart : RowBuffers.Hold [] b
        ⟨Array.range (b.length + 1), Array.replicate (b.length + 1) 0⟩ :=
      ⟨holdsRow_range b, by simp⟩
    have hlast := (hstart.foldl_next a).latest.getElem!_eq b.length le_rfl
    rwa [List.take_length] at hlast

/-- The distance of two texts is the least number of characters to insert,
    delete or replace, one after the other, to make one out of the other,
    whether each row is a new one or all share two buffers. So it is a metric,
    and it lies between the difference of the lengths and the greater one of
    them. -/
theorem distance_isMetric (a b : String) :
    distance a.toList b.toList = editDistance a.toList b.toList ∧
      distanceInBuffers a.toList b.toList = editDistance a.toList b.toList ∧
      IsLeast {n | EditScript n a.toList b.toList} (distance a.toList b.toList) ∧
      (distance a.toList b.toList = 0 ↔ a = b) ∧
      distance a.toList b.toList = distance b.toList a.toList ∧
      (∀ c : String, distance a.toList c.toList ≤
        distance a.toList b.toList + distance b.toList c.toList) ∧
      max a.length b.length - min a.length b.length ≤ distance a.toList b.toList ∧
      distance a.toList b.toList ≤ max a.length b.length := by
  have hlower : max a.length b.length - min a.length b.length ≤
      editDistance a.toList b.toList := by
    have hab := length_le_editDistance a.toList b.toList
    have hba := length_le_editDistance b.toList a.toList
    rw [editDistance_comm b.toList] at hba
    rw [String.length_toList, String.length_toList] at hab hba
    omega
  have hupper : editDistance a.toList b.toList ≤ max a.length b.length := by
    rw [← String.length_toList, ← String.length_toList]
    exact editDistance_le_max_length a.toList b.toList
  simp only [distance_eq_editDistance]
  refine ⟨trivial, distanceInBuffers_eq _ _, isLeast_editDistance _ _, ?_, editDistance_comm _ _,
    fun c => editDistance_triangle _ _ _, hlower, hupper⟩
  rw [editDistance_eq_zero, String.toList_inj]

end PromptPacks.Text
