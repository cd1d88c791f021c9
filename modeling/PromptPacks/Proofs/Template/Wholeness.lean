import PromptPacks.Proofs.Template.Blanking
import PromptPacks.Proofs.Text.Word

namespace PromptPacks.Template

open PromptPacks.Text

/-- Whether the last character of a text and the first one of the text behind it
    belong to one word, where words consist of the characters that satisfy a
    condition. -/
def Joins (isPart : Char → Bool) (before behind : List Char) : Prop :=
  ∃ c ∈ before.getLast?, ∃ d ∈ behind.head?, isPart c = true ∧ isPart d = true

/-- Whether a word stands in a text behind a number of bytes and is no part of a
    longer word there. -/
def StandsWhole (isPart : Char → Bool) (cs word : List Char) (n : Nat) : Prop :=
  ∃ before behind, cs = before ++ (word ++ behind) ∧ byteSize before = n ∧
    ¬Joins isPart before word ∧ ¬Joins isPart word behind

/-- What a blanked text shows of a character. -/
def shown (isBlanked : Bool) (c : Char) : List Char :=
  if isBlanked then spaces c else [c]

/-- Whether a character is blanked, if it is a word character. -/
def fate (isBlanked : Bool) (c : Char) : Option Bool :=
  if isWordChar c then some isBlanked else none

/-- A text of which some characters are blanked, but no word in part: of two
    word characters side by side, both are blanked or none is. `last` is the
    fate of the character before. -/
inductive KeepsWords : Option Bool → List Char → List Char → Prop
  | nil {last} : KeepsWords last [] []
  | cons {last cs ds} (isBlanked : Bool) (c : Char)
      (hlast : isWordChar c = true → last ≠ some !isBlanked)
      (hrest : KeepsWords (fate isBlanked c) cs ds) :
      KeepsWords last (c :: cs) (shown isBlanked c ++ ds)

/-- A character takes as many bytes when it is blanked. -/
theorem byteSize_shown (isBlanked : Bool) (c : Char) :
    byteSize (shown isBlanked c) = c.utf8Size := by
  cases isBlanked with
  | true => exact byteSize_replicate_space c.utf8Size
  | false => rfl

/-- A space looks the same, blanked or not. -/
theorem shown_space (isBlanked : Bool) : shown isBlanked ' ' = [' '] := by
  cases isBlanked <;> rfl

/-- A character that is blanked is not kept. -/
theorem fate_ne (isBlanked : Bool) (c : Char) : fate isBlanked c ≠ some !isBlanked := by
  unfold fate
  split <;> simp

/-- A word character is blanked or kept with its word. -/
theorem fate_of_word (isBlanked : Bool) {c : Char} (hc : isWordChar c = true) :
    fate isBlanked c = some isBlanked :=
  if_pos hc

/-- The fate of a character outside of words does not matter for the next one. -/
theorem fate_of_not_word (isBlanked : Bool) {c : Char} (hc : isWordChar c = false) :
    fate isBlanked c = none :=
  if_neg (by simp [hc])

namespace KeepsWords

variable {last : Option Bool} {cs ds es : List Char}

/-- A text of which no word is blanked in part is a blanked text. -/
theorem blanked (hkeeps : KeepsWords last cs ds) : Blanked cs ds := by
  induction hkeeps with
  | nil => exact .nil
  | cons isBlanked c _ _ ih => exact blanked_ite isBlanked ih

/-- Text stays as it is where no word before it has been blanked. -/
theorem refl (hlast : last ≠ some true) (cs : List Char) : KeepsWords last cs cs := by
  induction cs generalizing last with
  | nil => exact .nil
  | cons c cs ih => exact .cons false c (fun _ => hlast) (ih (fate_ne false c))

/-- Text that does not go on with a word stays as it is, whatever stands before
    it. -/
theorem refl_of_head (hhead : ∀ c ∈ cs.head?, isWordChar c = false) : KeepsWords last cs cs := by
  cases cs with
  | nil => exact .nil
  | cons c cs =>
    refine .cons false c (fun hc => ?_) (refl (fate_ne false c) cs)
    rw [hhead c rfl] at hc
    cases hc

/-- A blanked text may be followed by another one that keeps its words after any
    character. -/
theorem append {cs' ds' : List Char} (hkeeps : KeepsWords last cs ds)
    (hmore : ∀ last, KeepsWords last cs' ds') : KeepsWords last (cs ++ cs') (ds ++ ds') := by
  induction hkeeps with
  | nil => exact hmore _
  | cons isBlanked c hlast _ ih =>
    rw [List.append_assoc]
    exact .cons isBlanked c hlast ih

/-- Behind text that stays as it is, no word is begun that has been blanked. -/
theorem append_refl (hlast : last ≠ some true)
    (hkeeps : ∀ last, last ≠ some true → KeepsWords last cs ds) (before : List Char) :
    KeepsWords last (before ++ cs) (before ++ ds) := by
  induction before generalizing last with
  | nil => exact hkeeps last hlast
  | cons c before ih => exact .cons false c (fun _ => hlast) (ih (fate_ne false c))

/-- Spaces stay spaces, whatever becomes of the text behind them. -/
theorem exists_of_replicate {n : Nat} (hkeeps : KeepsWords none (List.replicate n ' ' ++ ds) es) :
    ∃ rest, es = List.replicate n ' ' ++ rest ∧ KeepsWords none ds rest := by
  induction n generalizing es with
  | zero => exact ⟨es, rfl, hkeeps⟩
  | succ n ih =>
    rw [List.replicate_succ, List.cons_append] at hkeeps
    cases hkeeps with
    | cons isBlanked _ _ hrest =>
      rw [fate_of_not_word isBlanked (by decide)] at hrest
      obtain ⟨rest, rfl, hds⟩ := ih hrest
      exact ⟨rest, by rw [shown_space, List.replicate_succ]; rfl, hds⟩

/-- The spaces that a character has been blanked with stay spaces. -/
theorem exists_of_spaces {c : Char} (hkeeps : KeepsWords last (spaces c ++ ds) es) :
    ∃ rest, es = spaces c ++ rest ∧ KeepsWords none ds rest := by
  obtain ⟨n, hspaces⟩ := exists_spaces_eq_cons c
  rw [hspaces] at hkeeps ⊢
  cases hkeeps with
  | cons isBlanked _ _ hrest =>
    rw [fate_of_not_word isBlanked (by decide)] at hrest
    obtain ⟨rest, rfl, hds⟩ := exists_of_replicate hrest
    exact ⟨rest, by rw [shown_space]; rfl, hds⟩

/-- Blanking a text a second time still keeps its words, since blanking only
    makes spaces and whatever becomes of the spaces the second time, they stay
    spaces. -/
theorem trans {first second : Option Bool} (hfirst : KeepsWords first cs ds)
    (hsecond : KeepsWords second ds es)
    (hkept : last = some false → first = some false ∧ second = some false)
    (hblanked : last = some true → first = some true ∨ second = some true) :
    KeepsWords last cs es := by
  induction hfirst generalizing last second es with
  | nil =>
    cases hsecond
    exact .nil
  | @cons first cs ds isBlanked c hlast _ ih =>
    cases isBlanked with
    | true =>
      obtain ⟨rest, rfl, hrest⟩ := exists_of_spaces hsecond
      refine .cons true c (fun hc hlasts => hlast hc (hkept hlasts).1) (ih hrest ?_ .inl)
      exact fun hfate => absurd hfate (fate_ne true c)
    | false =>
      cases hsecond with
      | cons isBlanked _ hagain hrest =>
        cases isBlanked with
        | true =>
          refine .cons true c (fun hc hlasts => hagain hc (hkept hlasts).2) (ih hrest ?_ .inr)
          exact fun hfate => absurd hfate (fate_ne true c)
        | false =>
          refine .cons false c (fun hc hlasts => ?_) (ih hrest (fun hfate => ⟨hfate, hfate⟩) .inl)
          exact (hblanked hlasts).elim (hlast hc) (hagain hc)

/-- A blanked text can be cut where the text is cut. -/
theorem exists_of_append {cs' : List Char} (hkeeps : KeepsWords last (cs ++ cs') es) :
    ∃ next ds ds', es = ds ++ ds' ∧ byteSize ds = byteSize cs ∧ KeepsWords next cs' ds' := by
  induction cs generalizing last es with
  | nil => exact ⟨last, [], es, rfl, rfl, hkeeps⟩
  | cons c cs ih =>
    cases hkeeps with
    | cons isBlanked _ _ hrest =>
      obtain ⟨next, ds, ds', rfl, hsize, hmore⟩ := ih hrest
      refine ⟨next, shown isBlanked c ++ ds, ds', (List.append_assoc _ _ _).symm, ?_, hmore⟩
      rw [byteSize_append, byteSize_shown, hsize, byteSize_cons]

/-- Two word characters side by side are both shown or both blanked. -/
theorem exists_shown {c d : Char} (hkeeps : KeepsWords last (c :: d :: cs) es)
    (hc : isWordChar c = true) (hd : isWordChar d = true) :
    ∃ isBlanked ds, es = shown isBlanked c ++ (shown isBlanked d ++ ds) := by
  cases hkeeps with
  | cons isBlanked _ _ hrest =>
    cases hrest with
    | @cons _ _ ds isNextBlanked _ hlast _ =>
      have hsame : isBlanked = isNextBlanked := by
        have hne := hlast hd
        rw [fate_of_word isBlanked hc] at hne
        simpa using hne
      exact ⟨isBlanked, ds, by rw [hsame]⟩

/-- Where a word goes on in a text, it does so in the blanked text, or there are
    spaces on both sides. -/
theorem joins_or_spaces {start rest before behind : List Char}
    (hkeeps : KeepsWords last (start ++ rest) (before ++ behind))
    (hsize : byteSize start = byteSize before) {c d : Char} (hlast : start.getLast? = some c)
    (hhead : rest.head? = some d) (hc : isWordChar c = true) (hd : isWordChar d = true) :
    (before.getLast? = some c ∧ behind.head? = some d) ∨
      (before.getLast? = some ' ' ∧ behind.head? = some ' ') := by
  obtain ⟨start, rfl⟩ := List.getLast?_eq_some_iff.1 hlast
  obtain ⟨rest, rfl⟩ := List.head?_eq_some_iff.1 hhead
  rw [List.append_assoc] at hkeeps
  obtain ⟨next, ds, ds', happend, hds, hmore⟩ := hkeeps.exists_of_append
  obtain ⟨isBlanked, more, rfl⟩ := hmore.exists_shown hc hd
  rw [← List.append_assoc] at happend
  have hsame : byteSize before = byteSize (ds ++ shown isBlanked c) := by
    rw [← hsize, byteSize_append, byteSize_append, byteSize_shown, hds, byteSize_cons,
      byteSize_nil, Nat.add_zero]
  obtain ⟨rfl, rfl⟩ := append_inj_of_byteSize happend hsame
  cases isBlanked with
  | false => exact .inl ⟨by simp [shown], rfl⟩
  | true =>
    obtain ⟨n, hspaces⟩ := exists_spaces_eq_cons d
    refine .inr ⟨?_, by simp [shown, hspaces]⟩
    have hnonempty : c.utf8Size ≠ 0 := Nat.ne_of_gt c.utf8Size_pos
    simp [shown, spaces, List.getLast?_append, List.getLast?_replicate, hnonempty]

/-- A word without spaces that stands whole in a blanked text stands whole in
    the text itself, behind as many bytes. -/
theorem standsWhole {before word behind : List Char} {isPart : Char → Bool}
    (hkeeps : KeepsWords last cs (before ++ (word ++ behind))) (hsome : word ≠ [])
    (hword : ' ' ∉ word) (hpart : ∀ c, isPart c = true → isWordChar c = true)
    (hbefore : ¬Joins isPart before word) (hbehind : ¬Joins isPart word behind) :
    StandsWhole isPart cs word (byteSize before) := by
  obtain ⟨start, rest, rfl, hsize⟩ := hkeeps.blanked.exists_spelled hsome hword
  refine ⟨start, rest, rfl, hsize, ?_, ?_⟩
  · rintro ⟨c, hc, d, hd, hcpart, hdpart⟩
    have hhead (more : List Char) : (word ++ more).head? = some d := by
      rw [List.head?_append, Option.mem_def.1 hd, Option.some_or]
    obtain ⟨hlast, -⟩ | ⟨-, hspace⟩ := hkeeps.joins_or_spaces hsize hc (hhead rest)
      (hpart c hcpart) (hpart d hdpart)
    · exact hbefore ⟨c, hlast, d, hd, hcpart, hdpart⟩
    · rw [hhead behind] at hspace
      cases hspace
      exact hword (List.mem_of_mem_head? hd)
  · rintro ⟨c, hc, d, hd, hcpart, hdpart⟩
    have hlast (more : List Char) : (more ++ word).getLast? = some c := by
      rw [List.getLast?_append, Option.mem_def.1 hc, Option.some_or]
    rw [← List.append_assoc, ← List.append_assoc] at hkeeps
    obtain ⟨-, hhead⟩ | ⟨hspace, -⟩ := hkeeps.joins_or_spaces
      (by rw [byteSize_append, byteSize_append, hsize]) (hlast start) hd
      (hpart c hcpart) (hpart d hdpart)
    · exact hbehind ⟨c, hc, d, hhead, hcpart, hdpart⟩
    · rw [hlast before] at hspace
      cases hspace
      exact hword (List.mem_of_mem_getLast? hc)

end KeepsWords

/-- Whether marks for the first characters of a text blank no word in part, as
    far as the characters behind them are not blanked. `last` is the fate of the
    character before the text. -/
def Fits : Option Bool → List Bool → List Char → Prop
  | last, [], _ => last ≠ some true
  | _, _ :: _, [] => True
  | last, isBlanked :: marks, c :: cs =>
    (isWordChar c = true → last ≠ some !isBlanked) ∧ Fits (fate isBlanked c) marks cs

section Fits

variable {last : Option Bool} {marks : List Bool} {rest : List Char}

/-- Without marks nothing is blanked, which fits after anything that is not
    blanked. -/
theorem fits_nil (rest : List Char) : Fits none [] rest :=
  (Option.some_ne_none true).symm

/-- A run of equal marks fits if the character before it does not have the other
    fate. -/
theorem fits_run {isBlanked : Bool} (hlast : last ≠ some !isBlanked) (part : List Char)
    (hrest : ∀ next, next ≠ some !isBlanked → Fits next marks rest) :
    Fits last (List.replicate part.length isBlanked ++ marks) (part ++ rest) := by
  induction part generalizing last with
  | nil => exact hrest last hlast
  | cons c part ih => exact ⟨fun _ => hlast, ih (fate_ne isBlanked c)⟩

/-- A character that belongs to no word parts what stands before it from what
    stands behind it. -/
theorem fits_cons {c : Char} (hc : isWordChar c = false) {isBlanked : Bool}
    (hrest : Fits none marks rest) : Fits last (isBlanked :: marks) (c :: rest) := by
  refine ⟨fun hword => ?_, ?_⟩
  · rw [hc] at hword
    cases hword
  · rw [fate_of_not_word isBlanked hc]
    exact hrest

/-- A stretch between two characters that belong to no word may be blanked
    whatever surrounds it. -/
theorem fits_stretch {c d : Char} (hc : isWordChar c = false) (hd : isWordChar d = false)
    (isBlanked : Bool) (inner : List Char) (hrest : Fits none marks rest) :
    Fits last (List.replicate (inner.length + 2) isBlanked ++ marks)
      (c :: (inner ++ d :: rest)) := by
  have hmarks : List.replicate (inner.length + 2) isBlanked ++ marks =
      isBlanked :: (List.replicate inner.length isBlanked ++ isBlanked :: marks) := by
    rw [List.replicate_succ, List.replicate_succ', List.cons_append, List.append_assoc,
      List.singleton_append]
  have hinner : Fits none (List.replicate inner.length isBlanked ++ isBlanked :: marks)
      (inner ++ d :: rest) :=
    fits_run (Option.some_ne_none _).symm inner fun _ _ => fits_cons hd hrest
  rw [hmarks]
  exact fits_cons hc hinner

end Fits

/-- Blanking parts of a text keeps its words where each of the parts does. The
    marks that are pending at a place have to fit the text there, which is the
    invariant. -/
theorem keepsWords_blankParts {parts? : List Char → Option (List Bool)}
    (hparts : ∀ cs marks, parts? cs = some marks → ∀ last, Fits last marks cs)
    {last : Option Bool} {marks : List Bool} {cs : List Char} (hfits : Fits last marks cs) :
    KeepsWords last cs (blankParts parts? marks cs) := by
  induction cs generalizing last marks with
  | nil => rw [blankParts]; exact .nil
  | cons c cs ih =>
    cases marks with
    | cons isBlanked marks =>
      rw [blankParts]
      exact .cons isBlanked c hfits.1 (ih hfits.2)
    | nil =>
      rw [blankParts]
      split
      next isBlanked marks hpart =>
        have hstart := hparts _ _ hpart last
        exact .cons isBlanked c hstart.1 (ih hstart.2)
      next => exact .cons false c (fun _ => hfits) (ih (fate_ne false c))

/-- A string starts and ends with a quote, so blanking it cuts no word. Neither
    of the quotes is a word character. -/
theorem fits_stringPart? {cs : List Char} {marks : List Bool} (hpart : stringPart? cs = some marks)
    (last : Option Bool) : Fits last marks cs := by
  unfold stringPart? at hpart
  split at hpart
  · cases hpart
  next quote rest =>
    split at hpart
    next hquote =>
      obtain ⟨n, hlength, rfl⟩ := Option.map_eq_some_iff.1 hpart
      obtain ⟨inner, behind, rfl, rfl⟩ := exists_of_quotedLength? hlength
      have hword : isWordChar quote = false := by
        simp only [isQuote, Bool.or_eq_true, beq_iff_eq] at hquote
        obtain rfl | rfl := hquote <;> decide
      have hfits : Fits last (List.replicate (inner.length + 2) true ++ [])
          (quote :: (inner ++ quote :: behind)) :=
        fits_stretch hword hword true inner (fits_nil behind)
      rwa [List.append_nil] at hfits
    next => cases hpart

/-- A comment starts and ends with a brace, so blanking it cuts no word. -/
theorem fits_commentPart? {cs : List Char} {marks : List Bool}
    (hpart : commentPart? cs = some marks) (last : Option Bool) : Fits last marks cs := by
  simp only [commentPart?, Option.bind_eq_bind, Option.bind_eq_some_iff, Option.some.injEq] at hpart
  obtain ⟨body, hbody, n, hlength, rfl⟩ := hpart
  obtain ⟨inner, behind, rfl, rfl, hclosing⟩ := exists_of_distanceTo? hlength
  obtain ⟨behind, rfl⟩ := List.isPrefixOf_iff_prefix.1 hclosing
  rw [eq_append_of_after? hbody]
  have hfits : Fits last (List.replicate (('#' :: (inner ++ ['#'])).length + 2) true ++ [])
      ('\x7b' :: ('#' :: (inner ++ ['#']) ++ '\x7d' :: behind)) :=
    fits_stretch (by decide) (by decide) true _ (fits_nil behind)
  simpa using hfits

/-- A tag of one word starts and ends with a brace. Nothing else about it
    matters for the words around it. -/
theorem exists_of_afterTag?_eq_some {word cs rest : List Char}
    (hafter : afterTag? word cs = some rest) :
    ∃ inner, cs = '\x7b' :: (inner ++ '\x7d' :: rest) := by
  simp only [afterTag?, Option.bind_eq_bind, Option.bind_eq_some_iff] at hafter
  obtain ⟨inside, hinside, behind, hbehind, hclosing⟩ := hafter
  have hclosed : '\x7d' :: rest <:+ behind := by
    have hdrop := dropSign_suffix (behind.dropWhile isBlank)
    rw [eq_append_of_after? hclosing] at hdrop
    exact (List.suffix_cons '%' _).trans (hdrop.trans (List.dropWhile_suffix _))
  have hword : behind <:+ inside := by
    have hdrop := (List.dropWhile_suffix isBlank).trans (dropSign_suffix inside)
    rw [eq_append_of_after? hbehind] at hdrop
    exact (List.suffix_append word behind).trans hdrop
  obtain ⟨inner, rfl⟩ := hclosed.trans hword
  exact ⟨'%' :: inner, eq_append_of_after? hinside⟩

/-- The body of a raw block stands between two tags, so blanking it cuts no
    word. -/
theorem fits_rawPart? {cs : List Char} {marks : List Bool} (hpart : rawPart? cs = some marks)
    (last : Option Bool) : Fits last marks cs := by
  simp only [rawPart?, Option.bind_eq_bind, Option.bind_eq_some_iff, Option.some.injEq] at hpart
  obtain ⟨body, hbody, n, hlength, behind, hbehind, rfl⟩ := hpart
  obtain ⟨inner, closing, rfl, rfl, -⟩ := exists_of_distanceTo? hlength
  rw [List.drop_left] at hbehind
  obtain ⟨opening, hopening⟩ := exists_of_afterTag?_eq_some hbody
  obtain ⟨ending, hending⟩ := exists_of_afterTag?_eq_some hbehind
  have hlead : cs.length - (inner ++ closing).length = opening.length + 2 := by
    rw [hopening]
    simp only [List.length_cons, List.length_append]
    omega
  have htail : (inner ++ closing).length - inner.length - behind.length = ending.length + 2 := by
    rw [hending]
    simp only [List.length_cons, List.length_append]
    omega
  have hclosing (next : Option Bool) :
      Fits next (List.replicate (ending.length + 2) false ++ []) closing := by
    rw [hending]
    exact fits_stretch (by decide) (by decide) false ending (fits_nil behind)
  have hinner : Fits none
      (List.replicate inner.length true ++ (List.replicate (ending.length + 2) false ++ []))
      (inner ++ closing) :=
    fits_run (Option.some_ne_none _).symm inner fun next _ => hclosing next
  rw [List.append_nil] at hinner
  rw [hlead, htail, List.append_assoc, hopening]
  exact fits_stretch (by decide) (by decide) false opening hinner

/-- A masked template is blanked in two passes, neither of which cuts a word. -/
theorem keepsWords_masked (source : List Char) : KeepsWords none source (masked source) := by
  have hraw : KeepsWords none source (blankParts rawPart? [] source) :=
    keepsWords_blankParts (fun _ _ => fits_rawPart?) (fits_nil _)
  have hcomments : KeepsWords none (blankParts rawPart? [] source) (masked source) :=
    keepsWords_blankParts (fun _ _ => fits_commentPart?) (fits_nil _)
  exact hraw.trans hcomments nofun nofun

/-- What stands before a character that is no part of words does not matter for
    a word behind it. -/
theorem not_joins_append_left {isPart : Char → Bool} {first : Char} (hfirst : isPart first = false)
    {before word : List Char} (hjoins : ¬Joins isPart before word) (outside : List Char) :
    ¬Joins isPart (outside ++ [first] ++ before) word := by
  rintro ⟨c, hc, d, hd, hcpart, hdpart⟩
  rw [Option.mem_def, List.getLast?_append, Option.or_eq_some_iff] at hc
  obtain hc | ⟨-, hc⟩ := hc
  · exact hjoins ⟨c, hc, d, hd, hcpart, hdpart⟩
  · rw [List.getLast?_concat] at hc
    cases hc
    rw [hfirst] at hcpart
    cases hcpart

/-- What stands behind a character that is no part of words does not matter for
    a word before it. -/
theorem not_joins_append_right {isPart : Char → Bool} {last : Char} (hlast : isPart last = false)
    {word behind : List Char} (hjoins : ¬Joins isPart word behind) (outside : List Char) :
    ¬Joins isPart word (behind ++ last :: outside) := by
  rintro ⟨c, hc, d, hd, hcpart, hdpart⟩
  rw [Option.mem_def, List.head?_append, Option.or_eq_some_iff] at hd
  obtain hd | ⟨-, hd⟩ := hd
  · exact hjoins ⟨c, hc, d, hd, hcpart, hdpart⟩
  · cases hd
    rw [hlast] at hdpart
    cases hdpart

/-- A word that stands whole in the body of a tag stands whole in the template,
    where the offset of the tag and the bytes before the word say. -/
theorem StandsWhole.of_tag {source word : List Char} {tag : Tag} (hmem : tag ∈ tagsOf source)
    {isPart : Char → Bool} {n : Nat} (hwhole : StandsWhole isPart tag.body word n)
    (hsome : word ≠ []) (hword : ' ' ∉ word)
    (hpart : ∀ c, isPart c = true → isWordChar c = true) :
    StandsWhole isPart source word (tag.offset + n) := by
  obtain ⟨before, behind, hbody, rfl, hbefore, hbehind⟩ := hwhole
  obtain ⟨outside, first, body, last, after, hmasked, hstrings, hoffset, hfirst, hlast⟩ :=
    exists_of_mem_tagsFrom hmem
  have hinner (next : Option Bool) (hnext : next ≠ some true) :
      KeepsWords next (body ++ last :: after) (tag.body ++ last :: after) := by
    have hfits : Fits next [] body := hnext
    rw [hstrings]
    refine (keepsWords_blankParts (fun _ _ => fits_stringPart?) hfits).append fun _ => ?_
    exact .refl_of_head fun c hc => by cases hc; exact hlast
  have htags : KeepsWords none (masked source)
      (outside ++ [first] ++ (tag.body ++ last :: after)) := by
    rw [hmasked]
    exact .append_refl (Option.some_ne_none true).symm hinner (outside ++ [first])
  have hkeeps : KeepsWords none source (outside ++ [first] ++ (tag.body ++ last :: after)) :=
    (keepsWords_masked source).trans htags nofun nofun
  have hsplit : outside ++ [first] ++ (tag.body ++ last :: after) =
      (outside ++ [first] ++ before) ++ (word ++ (behind ++ last :: after)) := by
    rw [hbody]
    simp only [List.append_assoc]
  rw [hsplit] at hkeeps
  have hother {c : Char} (hc : isWordChar c = false) : isPart c = false := by
    rw [Bool.eq_false_iff] at hc ⊢
    exact mt (hpart c) hc
  rw [hoffset, Nat.zero_add, ← byteSize_append]
  exact hkeeps.standsWhole hsome hword hpart
    (not_joins_append_left (hother hfirst) hbefore outside)
    (not_joins_append_right (hother hlast) hbehind after)

end PromptPacks.Template
