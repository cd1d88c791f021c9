import PromptPacks.Proofs.Text.Position
import PromptPacks.Template.TagScan

namespace PromptPacks.Template

open PromptPacks.Text

/-- A text of which some characters are replaced, each by as many spaces as it
    has bytes. -/
inductive Blanked : List Char → List Char → Prop
  | nil : Blanked [] []
  | keep {cs ds} (c : Char) : Blanked cs ds → Blanked (c :: cs) (c :: ds)
  | blank {cs ds} (c : Char) : Blanked cs ds → Blanked (c :: cs) (spaces c ++ ds)

/-- A sign is dropped from the start, so the rest is the end of the text. -/
theorem dropSign_suffix (cs : List Char) : dropSign cs <:+ cs := by
  cases cs with
  | nil => exact List.suffix_refl _
  | cons c rest =>
    rw [dropSign]
    split
    · exact List.suffix_cons c rest
    · exact List.suffix_refl _

/-- A space is a single byte. -/
theorem byteSize_replicate_space (n : Nat) : byteSize (List.replicate n ' ') = n := by
  induction n with
  | zero => rfl
  | succ n ih =>
    rw [List.replicate_succ, byteSize_cons, ih, Nat.add_comm]
    rfl

/-- Every character leaves one space at least when it is blanked. -/
theorem exists_spaces_eq_cons (c : Char) : ∃ n, spaces c = ' ' :: List.replicate n ' ' := by
  obtain ⟨n, hsize⟩ := Nat.exists_eq_add_one.2 c.utf8Size_pos
  exact ⟨n, by rw [spaces, hsize, List.replicate_succ]⟩

namespace Blanked

variable {cs ds es : List Char}

/-- Parts are blanked one by one. -/
theorem append (hblanked : Blanked cs ds) {cs' ds' : List Char} (hmore : Blanked cs' ds') :
    Blanked (cs ++ cs') (ds ++ ds') := by
  induction hblanked with
  | nil => exact hmore
  | keep c _ ih => exact ih.keep c
  | blank c _ ih => simpa using ih.blank c

/-- Spaces stay spaces when they are blanked, so nothing comes back. -/
theorem exists_of_spaces {n : Nat} (hblanked : Blanked (List.replicate n ' ' ++ ds) es) :
    ∃ rest, es = List.replicate n ' ' ++ rest ∧ Blanked ds rest := by
  induction n generalizing es with
  | zero => exact ⟨es, rfl, hblanked⟩
  | succ n ih =>
    rw [List.replicate_succ, List.cons_append] at hblanked
    cases hblanked with
    | keep _ hrest =>
      obtain ⟨rest, rfl, hds⟩ := ih hrest
      exact ⟨rest, rfl, hds⟩
    | blank _ hrest =>
      obtain ⟨rest, rfl, hds⟩ := ih hrest
      exact ⟨rest, rfl, hds⟩

/-- Blanking a blanked text is blanking the text. -/
theorem trans (hfirst : Blanked cs ds) (hsecond : Blanked ds es) : Blanked cs es := by
  induction hfirst generalizing es with
  | nil => exact hsecond
  | keep c _ ih =>
    cases hsecond with
    | keep _ hrest => exact (ih hrest).keep c
    | blank _ hrest => exact (ih hrest).blank c
  | blank c _ ih =>
    obtain ⟨rest, rfl, hrest⟩ := exists_of_spaces hsecond
    exact (ih hrest).blank c

/-- A character other than a space has not been blanked, and it stands behind as
    many bytes. If the character in question has been blanked, it is none of its
    spaces, so they all stand before it. -/
theorem exists_of_cons {before behind : List Char} {c : Char} (hspace : c ≠ ' ')
    (hblanked : Blanked cs (before ++ c :: behind)) :
    ∃ start rest, cs = start ++ c :: rest ∧ byteSize start = byteSize before ∧
      Blanked rest behind := by
  obtain ⟨text, htext⟩ : ∃ text, text = before ++ c :: behind := ⟨_, rfl⟩
  rw [← htext] at hblanked
  induction hblanked generalizing before with
  | nil => simp at htext
  | keep d hrest ih =>
    cases before with
    | nil =>
      obtain ⟨rfl, rfl⟩ := List.cons.inj htext
      exact ⟨[], _, rfl, rfl, hrest⟩
    | cons e before =>
      obtain ⟨rfl, hbefore⟩ := List.cons.inj htext
      obtain ⟨start, rest, rfl, hsize, hbehind⟩ := ih hbefore
      exact ⟨d :: start, rest, rfl, by rw [byteSize_cons, byteSize_cons, hsize], hbehind⟩
  | blank d hrest ih =>
    obtain ⟨more, hsplit, hrest⟩ | ⟨more, hsplit, hrest⟩ := List.append_eq_append_iff.1 htext
    · obtain ⟨start, rest, rfl, hsize, hbehind⟩ := ih hrest
      refine ⟨d :: start, rest, rfl, ?_, hbehind⟩
      rw [hsplit, byteSize_append, spaces, byteSize_replicate_space, byteSize_cons, hsize]
    · cases more with
      | nil =>
        obtain ⟨start, rest, rfl, hsize, hbehind⟩ := ih (show _ = [] ++ c :: behind from hrest.symm)
        refine ⟨d :: start, rest, rfl, ?_, hbehind⟩
        rw [List.append_nil] at hsplit
        rw [← hsplit, spaces, byteSize_replicate_space, byteSize_cons, hsize]
        rfl
      | cons e more =>
        obtain ⟨rfl, -⟩ := List.cons.inj hrest
        have hmem : c ∈ spaces d := by rw [hsplit]; simp
        exact absurd (List.eq_of_mem_replicate hmem) hspace

/-- A word without spaces at the start of a blanked text stands at the start of
    the text. -/
theorem exists_of_word {word behind : List Char} (hword : ' ' ∉ word)
    (hblanked : Blanked cs (word ++ behind)) : ∃ rest, cs = word ++ rest := by
  induction word generalizing cs with
  | nil => exact ⟨cs, rfl⟩
  | cons c word ih =>
    obtain ⟨hspace, hword⟩ := List.ne_and_not_mem_of_not_mem_cons hword
    obtain ⟨start, rest, rfl, hsize, hrest⟩ :=
      exists_of_cons (Ne.symm hspace) (show Blanked cs ([] ++ c :: (word ++ behind)) from hblanked)
    obtain ⟨more, rfl⟩ := ih hword hrest
    cases start with
    | nil => exact ⟨more, rfl⟩
    | cons d start =>
      rw [byteSize_cons, byteSize_nil] at hsize
      exact absurd hsize (Nat.ne_of_gt (Nat.add_pos_left d.utf8Size_pos _))

/-- A word without spaces that is left after characters have been blanked stands
    in the text itself, behind as many bytes. -/
theorem exists_spelled {before word behind : List Char} (hsome : word ≠ []) (hword : ' ' ∉ word)
    (hblanked : Blanked cs (before ++ (word ++ behind))) :
    ∃ start rest, cs = start ++ (word ++ rest) ∧ byteSize start = byteSize before := by
  cases word with
  | nil => exact absurd rfl hsome
  | cons c word =>
    obtain ⟨hspace, hword⟩ := List.ne_and_not_mem_of_not_mem_cons hword
    obtain ⟨start, rest, rfl, hsize, hrest⟩ := exists_of_cons (Ne.symm hspace) hblanked
    obtain ⟨more, rfl⟩ := exists_of_word hword hrest
    exact ⟨start, more, rfl, hsize⟩

end Blanked

/-- A character that may be blanked or not. -/
theorem blanked_ite (isBlanked : Bool) {c : Char} {cs ds : List Char} (hrest : Blanked cs ds) :
    Blanked (c :: cs) ((if isBlanked then spaces c else [c]) ++ ds) := by
  cases isBlanked with
  | true => exact hrest.blank c
  | false => exact hrest.keep c

/-- Blanking what a rule says leads to a blanked text, whatever the rule is. So
    all passes of the scanner are of this kind. -/
theorem blanked_blankParts (parts? : List Char → Option (List Bool)) (pending : List Bool)
    (cs : List Char) : Blanked cs (blankParts parts? pending cs) := by
  induction cs generalizing pending with
  | nil => rw [blankParts]; exact .nil
  | cons c cs ih =>
    cases pending with
    | cons isBlanked pending =>
      rw [blankParts]
      exact blanked_ite isBlanked (ih pending)
    | nil =>
      rw [blankParts]
      split
      · exact blanked_ite _ (ih _)
      · exact (ih []).keep c

/-- The text that the scanner reads is the source with some characters blanked. -/
theorem blanked_masked (source : List Char) : Blanked source (masked source) :=
  (blanked_blankParts rawPart? [] source).trans (blanked_blankParts commentPart? [] _)

/-- A quoted text goes up to its closing quote. What is escaped is passed in
    pairs, so that an escaped quote does not end it. -/
theorem exists_of_quotedLength? {escapesLineFeed : Bool} {quote : Char} {cs : List Char} {n : Nat}
    (hlength : quotedLength? escapesLineFeed quote cs = some n) :
    ∃ inner behind, cs = inner ++ quote :: behind ∧ n = inner.length + 1 := by
  fun_induction quotedLength? escapesLineFeed quote cs generalizing n with
  | case1 => cases hlength
  | case2 c hc =>
    cases hlength
    exact ⟨[], [], by rw [eq_of_beq hc]; rfl, rfl⟩
  | case3 c hc => cases hlength
  | case4 c d rest hc =>
    cases hlength
    exact ⟨[], d :: rest, by rw [eq_of_beq hc]; rfl, rfl⟩
  | case5 c d rest hc hslash hfeed => cases hlength
  | case6 c d rest hc hslash hfeed ih =>
    obtain ⟨m, hm, rfl⟩ := Option.map_eq_some_iff.1 hlength
    obtain ⟨inner, behind, rfl, rfl⟩ := ih hm
    exact ⟨c :: d :: inner, behind, rfl, rfl⟩
  | case7 c d rest hc hslash ih =>
    obtain ⟨m, hm, rfl⟩ := Option.map_eq_some_iff.1 hlength
    obtain ⟨inner, behind, hrest, rfl⟩ := ih hm
    exact ⟨c :: inner, behind, by rw [hrest, List.cons_append], rfl⟩

/-- The body of a tag goes up to its closing mark. The induction follows the
    search, which has a case of its own for characters within a string. -/
theorem exists_of_bodyLength? {closing cs : List Char} {quoted n : Nat}
    (hlength : bodyLength? closing quoted cs = some n) :
    ∃ body behind, cs = body ++ (closing ++ behind) ∧ body.length = n := by
  fun_induction bodyLength? closing quoted cs generalizing n with
  | case1 => cases hlength
  | case2 quoted c rest ih =>
    obtain ⟨m, hm, rfl⟩ := Option.map_eq_some_iff.1 hlength
    obtain ⟨body, behind, rfl, rfl⟩ := ih hm
    exact ⟨c :: body, behind, rfl, rfl⟩
  | case3 c rest hclosing =>
    cases hlength
    obtain ⟨behind, hbehind⟩ := List.isPrefixOf_iff_prefix.1 hclosing
    exact ⟨[], behind, hbehind.symm, rfl⟩
  | case4 c rest _ _ length _ ih =>
    obtain ⟨m, hm, rfl⟩ := Option.map_eq_some_iff.1 hlength
    obtain ⟨body, behind, rfl, rfl⟩ := ih hm
    exact ⟨c :: body, behind, rfl, rfl⟩
  | case5 => cases hlength
  | case6 c rest _ _ ih =>
    obtain ⟨m, hm, rfl⟩ := Option.map_eq_some_iff.1 hlength
    obtain ⟨body, behind, rfl, rfl⟩ := ih hm
    exact ⟨c :: body, behind, rfl, rfl⟩

/-- The characters beside the braces at the two ends of a tag. -/
def AreMarks (first last : Char) : Prop :=
  (first = '\x7b' ∧ last = '\x7d') ∨ (first = '%' ∧ last = '%')

/-- The marks around a tag are single bytes. -/
theorem AreMarks.utf8Size_eq {first last : Char} (hmarks : AreMarks first last) :
    first.utf8Size = 1 ∧ last.utf8Size = 1 := by
  obtain ⟨rfl, rfl⟩ | ⟨rfl, rfl⟩ := hmarks <;> exact ⟨rfl, rfl⟩

/-- The marks around a tag are no word characters, so words in a tag end at
    them. -/
theorem AreMarks.not_word {first last : Char} (hmarks : AreMarks first last) :
    isWordChar first = false ∧ isWordChar last = false := by
  obtain ⟨rfl, rfl⟩ | ⟨rfl, rfl⟩ := hmarks <;> decide

/-- A tag at the start of a text: its body stands between two characters at each
    end. -/
theorem exists_of_opening? {cs : List Char} {isStatement : Bool} {length : Nat}
    (hopening : opening? cs = some (isStatement, length)) :
    ∃ first body last behind, cs = '\x7b' :: first :: (body ++ last :: '\x7d' :: behind) ∧
      AreMarks first last ∧ body.length = length := by
  unfold opening? at hopening
  split at hopening
  next rest =>
    obtain ⟨_, hlength, ⟨⟩⟩ := Option.map_eq_some_iff.1 hopening
    obtain ⟨body, behind, rfl, hbody⟩ := exists_of_bodyLength? hlength
    exact ⟨_, body, _, behind, rfl, .inl ⟨rfl, rfl⟩, hbody⟩
  next rest =>
    obtain ⟨_, hlength, ⟨⟩⟩ := Option.map_eq_some_iff.1 hopening
    obtain ⟨body, behind, rfl, hbody⟩ := exists_of_bodyLength? hlength
    exact ⟨_, body, _, behind, rfl, .inr ⟨rfl, rfl⟩, hbody⟩
  next => cases hopening

/-- The body of a tag stands in the text, its quoted texts apart, between two
    characters that belong to no word, and its offset counts the bytes before
    it. -/
theorem exists_of_mem_tagsFrom {passed offset : Nat} {cs : List Char} {tag : Tag}
    (hmem : tag ∈ tagsFrom passed offset cs) :
    ∃ before first body last behind, cs = before ++ [first] ++ (body ++ last :: behind) ∧
      tag.body = withoutStrings body ∧ tag.offset = offset + byteSize (before ++ [first]) ∧
        isWordChar first = false ∧ isWordChar last = false := by
  induction cs generalizing passed offset with
  | nil => cases passed <;> simp [tagsFrom] at hmem
  | cons c rest ih =>
    have hlater {passed : Nat} (hmem : tag ∈ tagsFrom passed (offset + c.utf8Size) rest) :
        ∃ before first body last behind, c :: rest = before ++ [first] ++ (body ++ last :: behind) ∧
          tag.body = withoutStrings body ∧ tag.offset = offset + byteSize (before ++ [first]) ∧
            isWordChar first = false ∧ isWordChar last = false := by
      obtain ⟨before, first, body, last, behind, rfl, hbody, hoffset, hwords⟩ := ih hmem
      refine ⟨c :: before, first, body, last, behind, rfl, hbody, ?_, hwords⟩
      rw [hoffset, List.cons_append, byteSize_cons, Nat.add_assoc]
    cases passed with
    | succ passed => exact hlater hmem
    | zero =>
      rw [tagsFrom] at hmem
      split at hmem
      next isStatement length hopening =>
        obtain rfl | hmem := List.mem_cons.1 hmem
        · obtain ⟨first, body, last, behind, hcs, hmarks, rfl⟩ := exists_of_opening? hopening
          obtain ⟨rfl, rfl⟩ := List.cons.inj hcs
          refine ⟨['\x7b'], first, body, last, '\x7d' :: behind, rfl, ?_, ?_, hmarks.not_word⟩
          · rw [List.drop_one, List.tail_cons, List.take_left]
          · rw [byteSize_append, byteSize_cons, byteSize_cons, hmarks.utf8Size_eq.1]
            rfl
        · exact hlater hmem
      next => exact hlater hmem

end PromptPacks.Template
