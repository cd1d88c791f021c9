import Mathlib.Data.List.Forall2
import Mathlib.Data.Prod.Lex
import Mathlib.Order.Monotone.Basic
import PromptPacks.Proofs.Text.Position

namespace PromptPacks.Text

/-- A byte offset between two characters of a text, or at one of its two ends. -/
def IsBoundary (source : List Char) (offset : Nat) : Prop :=
  ∃ before behind, source = before ++ behind ∧ offset = byteSize before

/-- What is left of a text after a number of its line feeds. -/
def skipFeeds? : Nat → List Char → Option (List Char)
  | 0, cs => some cs
  | _ + 1, [] => none
  | n + 1, c :: rest => if c = '\n' then skipFeeds? n rest else skipFeeds? (n + 1) rest

/-- What is left of a text after a number of characters, none of which is a line
    feed. -/
def skipChars? : Nat → List Char → Option (List Char)
  | 0, cs => some cs
  | _ + 1, [] => none
  | n + 1, c :: rest => if c = '\n' then none else skipChars? n rest

/-- What is left of a text from a place on: it is found by skipping line feeds
    up to the line, and then characters of that line up to the column. -/
def fromPlace? (source : List Char) (place : Place) : Option (List Char) :=
  (skipFeeds? (place.line - 1) source).bind (skipChars? (place.column - 1))

/-- The line and the column of a place, in this order. -/
def Place.key (place : Place) : Nat ×ₗ Nat :=
  toLex (place.line, place.column)

/-- A line and its line feed are passed by counting one line less. -/
theorem skipFeeds?_line {line : List Char} (hline : '\n' ∉ line) (n : Nat) (rest : List Char) :
    skipFeeds? (n + 1) (line ++ '\n' :: rest) = skipFeeds? n rest := by
  induction line with
  | nil => rfl
  | cons c line ih =>
    obtain ⟨hc, hmore⟩ := not_or.1 (mt List.mem_cons.2 hline)
    rw [List.cons_append, skipFeeds?, if_neg (Ne.symm hc), ih hmore]

/-- The characters of a line are passed by counting them. -/
theorem skipChars?_line {line : List Char} (hline : '\n' ∉ line) (behind : List Char) :
    skipChars? line.length (line ++ behind) = some behind := by
  induction line with
  | nil => rfl
  | cons c line ih =>
    obtain ⟨hc, hmore⟩ := not_or.1 (mt List.mem_cons.2 hline)
    rw [List.cons_append, List.length_cons, skipChars?, if_neg (Ne.symm hc), ih hmore]

/-- After a part of line `n` and some more text have been read, what is left is
    found again from the place that is reached, with the line feeds counted from
    line `n` on. The induction is on what has been read, for all lines and
    starts at once. -/
theorem skip_of_after {line before : List Char} (hline : '\n' ∉ line) {n : Nat} {place : Place}
    (hplace : Place.after ⟨n, line.length + 1⟩ before = place) (behind : List Char) :
    n ≤ place.line ∧ 1 ≤ place.column ∧
      (skipFeeds? (place.line - n) (line ++ (before ++ behind))).bind
        (skipChars? (place.column - 1)) = some behind := by
  induction before generalizing line n with
  | nil =>
    subst hplace
    refine ⟨Nat.le_refl n, Nat.le_add_left _ _, ?_⟩
    rw [Place.after, Nat.sub_self, skipFeeds?, Option.bind_some]
    exact skipChars?_line hline behind
  | cons c before ih =>
    by_cases hfeed : c = '\n'
    · subst hfeed
      rw [Place.after_newline] at hplace
      obtain ⟨hlines, hcolumn, hleft⟩ := ih (show '\n' ∉ [] from List.not_mem_nil) hplace
      have hcount : place.line - n = place.line - (n + 1) + 1 := by omega
      refine ⟨Nat.le_of_succ_le hlines, hcolumn, ?_⟩
      rw [hcount, List.cons_append, skipFeeds?_line hline]
      exact hleft
    · rw [Place.after_other hfeed] at hplace
      have hmore : '\n' ∉ line ++ [c] := by simp [hline, Ne.symm hfeed]
      have hread := ih hmore (by rwa [List.length_append])
      rwa [List.append_assoc] at hread

/-- A place leads back to what stands there: its line and column count from one,
    and the text from it on is the text behind the offset. So no two offsets
    share a place. -/
theorem fromPlace?_placeAt (before behind : List Char) :
    1 ≤ (placeAt (before ++ behind) (byteSize before)).line ∧
      1 ≤ (placeAt (before ++ behind) (byteSize before)).column ∧
      fromPlace? (before ++ behind) (placeAt (before ++ behind) (byteSize before)) =
        some behind := by
  rw [placeAt_append]
  exact skip_of_after (n := 1) (show '\n' ∉ [] from List.not_mem_nil) rfl behind

/-- Reading one part after the other leads to the same place as reading both at
    once. -/
theorem Place.after_append (place : Place) (before behind : List Char) :
    place.after (before ++ behind) = (place.after before).after behind := by
  induction before generalizing place with
  | nil => rfl
  | cons c before ih =>
    rw [List.cons_append, Place.after, Place.after]
    split <;> exact ih _

/-- Each character leads to a later place, a line feed to a later line and all
    others to a later column. -/
theorem Place.key_lt_after_singleton (place : Place) (c : Char) :
    place.key < (place.after [c]).key := by
  rw [Place.key, Place.key, Prod.Lex.toLex_lt_toLex]
  by_cases hfeed : c = '\n'
  · subst hfeed
    exact .inl (Nat.lt_succ_self _)
  · rw [Place.after_other hfeed]
    exact .inr ⟨rfl, Nat.lt_succ_self _⟩

/-- Reading goes on to a later place, as long as anything is read. -/
theorem Place.key_lt_after (place : Place) {part : List Char} (hpart : part ≠ []) :
    place.key < (place.after part).key := by
  induction part generalizing place with
  | nil => exact absurd rfl hpart
  | cons c rest ih =>
    have hfirst := place.key_lt_after_singleton c
    rw [← List.singleton_append, Place.after_append]
    obtain rfl | hrest := eq_or_ne rest []
    · exact hfirst
    · exact hfirst.trans (ih _ hrest)

/-- Of two parts that a text starts with, the one with fewer bytes is the start
    of the other. So the order of offsets is the order of what has been read. -/
theorem exists_append_of_byteSize_lt {a b : List Char} {source : List Char} (ha : a <+: source)
    (hb : b <+: source) (hlt : byteSize a < byteSize b) : ∃ part, part ≠ [] ∧ b = a ++ part := by
  obtain ⟨part, rfl⟩ | ⟨part, rfl⟩ := List.prefix_or_prefix_of_prefix ha hb
  · refine ⟨part, ?_, rfl⟩
    rintro rfl
    simp at hlt
  · rw [byteSize_append] at hlt
    omega

/-- Between characters a later offset has a later place. Offsets inside a
    character are left out here: they count as the end of the text. -/
theorem strictMonoOn_placeAt (source : List Char) :
    StrictMonoOn (fun offset => (placeAt source offset).key)
      {offset | IsBoundary source offset} := by
  rintro _ ⟨a, behindA, rfl, rfl⟩ _ ⟨b, behindB, hsource, rfl⟩ hlt
  obtain ⟨part, hpart, rfl⟩ :=
    exists_append_of_byteSize_lt (List.prefix_append a behindA)
      (hsource ▸ List.prefix_append b _) hlt
  simp only [placeAt_append]
  rw [hsource, placeAt_append, Place.after_append]
  exact Place.key_lt_after _ hpart

/-- An offset that lies between characters cuts the text in two, and it is the
    size of the first part. -/
theorem exists_of_before? {cs before : List Char} {offset : Nat}
    (hbefore : before? cs offset = some before) :
    ∃ behind, cs = before ++ behind ∧ offset = byteSize before := by
  fun_induction before? cs offset generalizing before with
  | case1 cs =>
    obtain rfl := Option.some.inj hbefore
    exact ⟨cs, rfl, rfl⟩
  | case2 => cases hbefore
  | case3 c rest offset _ hfits ih =>
    obtain ⟨start, hstart, rfl⟩ := Option.map_eq_some_iff.1 hbefore
    obtain ⟨behind, hrest, hsize⟩ := ih hstart
    refine ⟨behind, by rw [hrest, List.cons_append], ?_⟩
    rw [byteSize_cons]
    omega
  | case4 => cases hbefore

/-- The place of the end of a text is where reading all of it leads to. -/
theorem placeAt_byteSize (source : List Char) :
    placeAt source (byteSize source) = Place.after ⟨1, 1⟩ source := by
  have hend := placeAt_append source []
  rwa [List.append_nil] at hend

/-- An offset inside a character has the place of the end of the text. -/
theorem placeAt_of_not_isBoundary {source : List Char} {offset : Nat}
    (hinside : ¬IsBoundary source offset) :
    placeAt source offset = placeAt source (byteSize source) := by
  have hnone : before? source offset = none := by
    rw [Option.eq_none_iff_forall_ne_some]
    intro before hbefore
    obtain ⟨behind, happend, hsize⟩ := exists_of_before? hbefore
    exact hinside ⟨before, behind, happend, hsize⟩
  rw [placeAt_byteSize, placeAt, hnone, Option.getD_none]

/-- An offset at or behind the end of a text has the place of the end. -/
theorem placeAt_of_byteSize_le {source : List Char} {offset : Nat}
    (hpast : byteSize source ≤ offset) :
    placeAt source offset = placeAt source (byteSize source) := by
  obtain rfl | hlt := hpast.eq_or_lt
  · rfl
  · refine placeAt_of_not_isBoundary ?_
    rintro ⟨before, behind, rfl, rfl⟩
    rw [byteSize_append] at hlt
    omega

/-- Places tell the boundaries of a text apart and keep their order, and each of
    them leads back to the text behind it. All other offsets stand for the end
    of the text. -/
structure IsCoordinateSystem (source : List Char) (placeOf : Nat → Place) : Prop where
  line_pos : ∀ offset, IsBoundary source offset → 1 ≤ (placeOf offset).line
  column_pos : ∀ offset, IsBoundary source offset → 1 ≤ (placeOf offset).column
  exact : ∀ before behind, source = before ++ behind →
    fromPlace? source (placeOf (byteSize before)) = some behind
  injective : Set.InjOn placeOf {offset | IsBoundary source offset}
  increasing : StrictMonoOn (fun offset => (placeOf offset).key)
    {offset | IsBoundary source offset}
  atEnd : ∀ offset, byteSize source ≤ offset ∨ ¬IsBoundary source offset →
    placeOf offset = placeOf (byteSize source)

/-- Places are coordinates of a text: exact, strictly increasing, and defined
    for every offset. No condition is put on the text or on its line ends. -/
theorem placeAt_isCoordinateSystem (source : List Char) :
    IsCoordinateSystem source (placeAt source) where
  line_pos := by
    rintro _ ⟨before, behind, rfl, rfl⟩
    exact (fromPlace?_placeAt before behind).1
  column_pos := by
    rintro _ ⟨before, behind, rfl, rfl⟩
    exact (fromPlace?_placeAt before behind).2.1
  exact := by
    rintro before behind rfl
    exact (fromPlace?_placeAt before behind).2.2
  injective := fun _ ha _ hb hsame =>
    (strictMonoOn_placeAt source).injOn ha hb (congrArg Place.key hsame)
  increasing := strictMonoOn_placeAt source
  atEnd := fun _ hoffset => hoffset.elim placeAt_of_byteSize_le placeAt_of_not_isBoundary

/-- Two characters take as many bytes, and both of them or none is a line feed. -/
def SameRoom (c d : Char) : Prop :=
  c.utf8Size = d.utf8Size ∧ (c = '\n' ↔ d = '\n')

theorem SameRoom.refl (c : Char) : SameRoom c c :=
  ⟨rfl, Iff.rfl⟩

/-- Texts whose characters take the same room one by one have as many bytes. -/
theorem byteSize_eq_of_sameRoom {cs ds : List Char} (hroom : List.Forall₂ SameRoom cs ds) :
    byteSize cs = byteSize ds := by
  induction hroom with
  | nil => rfl
  | cons hfirst _ ih => rw [byteSize_cons, byteSize_cons, hfirst.1, ih]

/-- Reading such texts leads to the same place, as line feeds stand at the same
    places in both. -/
theorem Place.after_eq_of_sameRoom {cs ds : List Char} (hroom : List.Forall₂ SameRoom cs ds)
    (place : Place) : place.after cs = place.after ds := by
  induction hroom generalizing place with
  | nil => rfl
  | @cons c d cs ds hfirst _ ih =>
    have hfeed : (c == '\n') = (d == '\n') := by
      rw [Bool.eq_iff_iff, beq_iff_eq, beq_iff_eq]
      exact hfirst.2
    rw [Place.after, Place.after, hfeed]
    split <;> exact ih _

/-- An offset cuts both texts at the same character, or lies inside a character
    of both. -/
theorem before?_of_sameRoom {cs ds : List Char} (hroom : List.Forall₂ SameRoom cs ds)
    (offset : Nat) :
    Option.Rel (List.Forall₂ SameRoom) (before? cs offset) (before? ds offset) := by
  induction hroom generalizing offset with
  | nil =>
    cases offset with
    | zero => exact .some .nil
    | succ n => exact .none
  | @cons c d cs ds hfirst _ ih =>
    cases offset with
    | zero => exact .some .nil
    | succ n =>
      have hsize := hfirst.1
      simp only [before?, hsize]
      split
      · have hrest := ih (n + 1 - d.utf8Size)
        generalize before? cs (n + 1 - d.utf8Size) = start at hrest ⊢
        generalize before? ds (n + 1 - d.utf8Size) = other at hrest ⊢
        cases hrest with
        | none => exact .none
        | some hstart => exact .some (.cons hfirst hstart)
      · exact .none

/-- An offset has the same place in both texts. This is how places of a
    rewritten text are places of the original one. -/
theorem placeAt_eq_of_sameRoom {cs ds : List Char} (hroom : List.Forall₂ SameRoom cs ds)
    (offset : Nat) : placeAt cs offset = placeAt ds offset := by
  have hbefore := before?_of_sameRoom hroom offset
  rw [placeAt, placeAt]
  generalize before? cs offset = start at hbefore ⊢
  generalize before? ds offset = other at hbefore ⊢
  cases hbefore with
  | none => exact Place.after_eq_of_sameRoom hroom _
  | some hstart => exact Place.after_eq_of_sameRoom hstart _

end PromptPacks.Text
