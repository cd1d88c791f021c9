import PromptPacks.Text.Position

namespace PromptPacks.Text

@[simp] theorem byteSize_nil : byteSize [] = 0 := rfl

@[simp] theorem byteSize_cons (c : Char) (cs : List Char) :
    byteSize (c :: cs) = c.utf8Size + byteSize cs := rfl

@[simp] theorem byteSize_append (cs ds : List Char) :
    byteSize (cs ++ ds) = byteSize cs + byteSize ds := by
  induction cs with
  | nil => simp
  | cons c cs ih => simp [ih, Nat.add_assoc]

/-- Of two ways to cut a text in two, those with as many bytes in front are the
    same. Every character has a byte at least, so the cut cannot move. -/
theorem append_inj_of_byteSize {a b c d : List Char} (happend : a ++ b = c ++ d)
    (hsize : byteSize a = byteSize c) : a = c ∧ b = d := by
  have hnil (part : List Char) (hpart : byteSize part = 0) : part = [] := by
    cases part with
    | nil => rfl
    | cons e part =>
      rw [byteSize_cons] at hpart
      have hpos := e.utf8Size_pos
      omega
  obtain ⟨part, rfl, rfl⟩ | ⟨part, rfl, rfl⟩ := List.append_eq_append_iff.1 happend
  · rw [byteSize_append] at hsize
    obtain rfl := hnil part (by omega)
    simp
  · rw [byteSize_append] at hsize
    obtain rfl := hnil part (by omega)
    simp

/-- What stands before an offset is found if the offset is the size of it. -/
theorem before?_append (before behind : List Char) :
    before? (before ++ behind) (byteSize before) = some before := by
  induction before with
  | nil => cases behind <;> rfl
  | cons c before ih =>
    obtain ⟨n, hsize⟩ : ∃ n, byteSize (c :: before) = n + 1 :=
      Nat.exists_eq_add_one.2 (Nat.add_pos_left c.utf8Size_pos _)
    have hstep : before? (c :: (before ++ behind)) (n + 1) =
        if c.utf8Size ≤ n + 1 then
          (before? (before ++ behind) (n + 1 - c.utf8Size)).map (c :: ·) else none := rfl
    rw [List.cons_append, hsize, hstep, ← hsize, byteSize_cons, if_pos (Nat.le_add_right _ _),
      Nat.add_sub_cancel_left, ih]
    rfl

/-- The place of an offset is where reading what stands before it leads to. -/
theorem placeAt_append (before behind : List Char) :
    placeAt (before ++ behind) (byteSize before) = Place.after ⟨1, 1⟩ before := by
  rw [placeAt, before?_append, Option.getD_some]

/-- Whether a text spells a word at a place: the word stands at the column of the
    line, where lines are what line feeds separate, and both count from one. -/
def SpellsAt (source word : List Char) (place : Place) : Prop :=
  1 ≤ place.line ∧ 1 ≤ place.column ∧ ∃ line,
    (source.splitOn '\n')[place.line - 1]? = some line ∧ word <+: line.drop (place.column - 1)

/-- A split at line feeds gives the part before the first one, and then the
    lines of the rest. -/
theorem splitOn_newline_cons {before : List Char} (hfeeds : '\n' ∉ before) (behind : List Char) :
    (before ++ '\n' :: behind).splitOn '\n' = before :: behind.splitOn '\n' :=
  List.splitOnP_append_cons_of_forall_mem
    (fun _ hc => beq_eq_false_iff_ne.2 (ne_of_mem_of_not_mem hc hfeeds)) '\n' rfl behind

/-- The first line goes as far as the first line feed. A text without one is a
    line as a whole. -/
theorem head?_splitOn_newline (cs : List Char) :
    (cs.splitOn '\n')[0]? = some (cs.takeWhile (· != '\n')) := by
  induction cs with
  | nil => rfl
  | cons c cs ih =>
    by_cases hfeed : c = '\n'
    · subst hfeed
      exact congrArg (·[0]?) (splitOn_newline_cons (show '\n' ∉ [] from List.not_mem_nil) cs)
    · obtain ⟨line, lines, hlines⟩ := List.exists_cons_of_ne_nil
        (List.splitOnP_ne_nil (· == '\n') cs)
      have hsplit : (c :: cs).splitOn '\n' = (c :: line) :: lines := by
        rw [List.splitOn, List.splitOnP_cons_eq_if_modifyHead, hlines]
        simp [hfeed]
      rw [List.splitOn, hlines] at ih
      rw [hsplit]
      simpa [hfeed] using ih

theorem Place.after_newline (n column : Nat) (cs : List Char) :
    Place.after ⟨n, column⟩ ('\n' :: cs) = Place.after ⟨n + 1, 1⟩ cs := rfl

/-- A character that is no line feed leads to the next column. -/
theorem Place.after_other {c : Char} (hfeed : c ≠ '\n') (n column : Nat) (cs : List Char) :
    Place.after ⟨n, column⟩ (c :: cs) = Place.after ⟨n, column + 1⟩ cs := by
  rw [Place.after, if_neg (by simpa using hfeed)]

/-- After a part of line `n` and some more text have been read, the place that
    is reached is in the whole text, and what is left of its line stands there.
    The part that has been read is carried along, so the induction is on the
    text before the place. -/
theorem Place.after_spec {line before : List Char} (hline : '\n' ∉ line) {n : Nat} {place : Place}
    (hplace : Place.after ⟨n, line.length + 1⟩ before = place) (behind : List Char) :
    n ≤ place.line ∧ 1 ≤ place.column ∧ ∃ whole,
      ((line ++ (before ++ behind)).splitOn '\n')[place.line - n]? = some whole ∧
        whole.drop (place.column - 1) = behind.takeWhile (· != '\n') := by
  induction before generalizing line n with
  | nil =>
    subst hplace
    have hwhole : (line ++ behind).takeWhile (· != '\n') = line ++ behind.takeWhile (· != '\n') :=
      List.takeWhile_append_of_pos fun _ hc => bne_iff_ne.2 (ne_of_mem_of_not_mem hc hline)
    refine ⟨Nat.le_refl n, Nat.le_add_left _ _, line ++ behind.takeWhile (· != '\n'), ?_, ?_⟩
    · rw [Place.after, Nat.sub_self, ← hwhole]
      exact head?_splitOn_newline _
    · exact List.drop_left
  | cons c before ih =>
    by_cases hfeed : c = '\n'
    · subst hfeed
      rw [Place.after_newline] at hplace
      obtain ⟨hlines, hcolumn, whole, hwhole, hrest⟩ := 
        ih (show '\n' ∉ [] from List.not_mem_nil) hplace
      refine ⟨Nat.le_of_succ_le hlines, hcolumn, whole, ?_, hrest⟩
      obtain ⟨k, hk⟩ := Nat.exists_eq_add_of_le hlines
      have hindex : place.line - n = k + 1 := by omega
      have hshifted : place.line - (n + 1) = k := by omega
      rw [hshifted] at hwhole
      rw [hindex, List.cons_append, splitOn_newline_cons hline, List.getElem?_cons_succ]
      exact hwhole
    · rw [Place.after_other hfeed] at hplace
      have hmore : '\n' ∉ line ++ [c] := by simp [hline, Ne.symm hfeed]
      have hread := ih hmore (by rwa [List.length_append])
      rwa [List.append_assoc] at hread

/-- A word without line feeds is spelled at the place that is reached when the
    text before it has been read. What stands behind the word does not matter. -/
theorem spellsAt_placeAt {word : List Char} (hword : '\n' ∉ word) (before behind : List Char) :
    SpellsAt (before ++ (word ++ behind)) word
      (placeAt (before ++ (word ++ behind)) (byteSize before)) := by
  obtain ⟨hline, hcolumn, whole, hwhole, hrest⟩ :=
    Place.after_spec (n := 1) (show '\n' ∉ [] from List.not_mem_nil) rfl (word ++ behind)
  rw [placeAt_append]
  refine ⟨hline, hcolumn, whole, hwhole, ?_⟩
  have htake : (word ++ behind).takeWhile (· != '\n') =
      word ++ behind.takeWhile (· != '\n') :=
    List.takeWhile_append_of_pos fun _ hc => bne_iff_ne.2 (ne_of_mem_of_not_mem hc hword)
  exact ⟨_, (hrest.trans htake).symm⟩

end PromptPacks.Text
