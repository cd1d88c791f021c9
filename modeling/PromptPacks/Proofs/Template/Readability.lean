import PromptPacks.Proofs.Template.Legibility
import PromptPacks.Proofs.Template.Oversight

namespace PromptPacks.Template

open PromptPacks.Text

/-- A text without the sign at its end, where there is one. -/
def dropLastSign (cs : List Char) : List Char :=
  (dropSign cs.reverse).reverse

namespace Tag

/-- The text of a tag without the signs for white space. -/
def text (tag : Tag) : List Char :=
  dropLastSign (dropSign tag.body)

/-- The tokens between the delimiters of a tag, read by itself. -/
def inner (tag : Tag) : List Token :=
  wordsFrom (.inside tag.kind 0) tag.text

/-- Whether a tag, read by itself, starts or ends a raw block. -/
def isRaw (tag : Tag) : Bool :=
  tag.isStatement && (tag.inner == [.name "raw"] || tag.inner == [.name "endraw"])

/-- The tokens of a tag, read by itself. Those of raw blocks have none. -/
def words (tag : Tag) : List Token :=
  if tag.isRaw then [] else tag.kind.startToken :: (tag.inner ++ [tag.kind.endToken])

end Tag

/-- A template of which each tag can be read by itself, and all of them together
    give the tokens of the template. -/
structure ReadsByTags (source : List Char) : Prop where
  fault : ∀ tag ∈ tagsOf source, (tokensFrom (.inside tag.kind 0) 0 tag.text).fault = none
  seen : ∀ tag ∈ tagsOf source, ∀ token ∈ tag.inner, token.closes = false ∧ token.isSeen = true
  words_eq : ((tagsOf source).flatMap Tag.words).map Token.usual = seenWords source

instance : DecidablePred ReadsByTags := fun source =>
  decidable_of_iff
    ((∀ tag ∈ tagsOf source, (tokensFrom (.inside tag.kind 0) 0 tag.text).fault = none) ∧
      (∀ tag ∈ tagsOf source, ∀ token ∈ tag.inner, token.closes = false ∧ token.isSeen = true) ∧
        ((tagsOf source).flatMap Tag.words).map Token.usual = seenWords source)
    ⟨fun ⟨hfault, hseen, hwords⟩ => ⟨hfault, hseen, hwords⟩,
      fun ⟨hfault, hseen, hwords⟩ => ⟨hfault, hseen, hwords⟩⟩

/-- A sign at the start of a text is all that is taken off there. -/
theorem exists_of_dropSign (cs : List Char) :
    ∃ signs, cs = signs ++ dropSign cs ∧ AreSigns signs :=
  ⟨_, by rw [← drop_signLength, List.take_append_drop], areSigns_take cs⟩

/-- A sign at the end of a text is all that is taken off there. -/
theorem exists_of_dropLastSign (cs : List Char) :
    ∃ signs, cs = dropLastSign cs ++ signs ∧ AreSigns signs := by
  obtain ⟨signs, happend, hsigns⟩ := exists_of_dropSign cs.reverse
  refine ⟨signs.reverse, ?_, ?_⟩
  · have hreverse := congrArg List.reverse happend
    rwa [List.reverse_append, List.reverse_reverse] at hreverse
  · obtain rfl | ⟨sign, hsign, rfl⟩ := hsigns
    · exact .inl rfl
    · exact .inr ⟨sign, hsign, rfl⟩

/-- A tag shows its tokens if its text without the signs is written in them. -/
theorem Tag.shows_inner {tag : Tag} (hwritten : Written tag.inner tag.text) :
    tag.Shows tag.inner := by
  obtain ⟨lead, hlead, hleadSigns⟩ := exists_of_dropSign tag.body
  obtain ⟨trail, htrail, htrailSigns⟩ := exists_of_dropLastSign (dropSign tag.body)
  exact ⟨lead, tag.text, trail, by rw [Tag.text, ← htrail, ← hlead], hleadSigns, htrailSigns,
    hwritten⟩

/-- Tags that are each written in their tokens are together shown as all of
    these tokens, raw blocks excepted, which show nothing. -/
theorem shown_flatMap {tags : List Tag} (hwritten : ∀ tag ∈ tags, Written tag.inner tag.text) :
    Shown tags (tags.flatMap Tag.words) := by
  induction tags with
  | nil => exact .done
  | cons tag tags ih =>
    obtain ⟨htag, htags⟩ := List.forall_mem_cons.1 hwritten
    have hshows := tag.shows_inner htag
    rw [List.flatMap_cons, Tag.words]
    split
    · next hraw =>
      obtain hinner | hinner : tag.inner = [.name "raw"] ∨ tag.inner = [.name "endraw"] := by
        simpa using (Bool.and_eq_true_iff.1 hraw).2
      · exact .raw (hinner ▸ hshows) (ih htags)
      · exact .raw (hinner ▸ hshows) (ih htags)
    · rw [List.cons_append, List.append_assoc]
      exact .tag hshows (ih htags)

/-- A template that can be read tag by tag is legible. The premise can be
    computed for a template, other than the conclusion, which asks for some
    tokens. -/
theorem ReadsByTags.isLegible {source : List Char} (hreads : ReadsByTags source) :
    IsLegible source :=
  ⟨_, shown_flatMap fun tag hmem => written_of_lexesTo
    (lexesTo_iff.2 ⟨rfl, hreads.fault tag hmem⟩) (hreads.seen tag hmem), hreads.words_eq⟩

namespace TokenText

variable {behind chunk : List Char} {token : Token}

/-- There are no quotes in the text of a token that is no string. So blanking
    the strings of a tag leaves such a text as it is. -/
theorem isQuote_eq_false (htext : TokenText behind token chunk) :
    ∀ c ∈ chunk, isQuote c = false := by
  have hne {c : Char} (hdouble : c ≠ '"') (hsingle : c ≠ '\'') : isQuote c = false := by
    rw [isQuote, Bool.or_eq_false_iff, beq_eq_false_iff_ne, beq_eq_false_iff_ne]
    exact ⟨hsingle, hdouble⟩
  cases htext with
  | single hsign =>
    refine List.forall_mem_singleton.2 (hne ?_ ?_) <;> rintro rfl <;> cases hsign
  | double hsign => exact fun c hc => ((isNeutral_of_doubleSymbol? hsign).2 c hc).1
  | name hword =>
    intro c hc
    have hchar := isNameChar_of_leadingName hword c hc
    refine hne ?_ ?_ <;> rintro rfl <;> cases hchar
  | numeral hnumber htext =>
    intro c hc
    obtain ⟨before, after, hsplit⟩ := List.append_of_mem hc
    obtain (hword | rfl) | ⟨rfl | rfl, -⟩ := htext.chars before c after hsplit
    · refine hne ?_ ?_ <;> rintro rfl <;> cases hword
    · rfl
    · rfl
    · rfl

/-- A token is written alike before any text that does not go on with a name.
    Names are the only tokens whose end depends on what comes next. -/
theorem before {other : List Char} (htext : TokenText behind token chunk)
    (hother : behind.takeWhile isNameChar = [] → other.takeWhile isNameChar = []) :
    TokenText other token chunk := by
  cases htext with
  | single hsign => exact .single hsign
  | double hsign => exact .double hsign
  | numeral hnumber htext => exact .numeral hnumber htext
  | name hword =>
    obtain ⟨hself, hends⟩ := leadingName_append.1 hword
    exact .name (leadingName_append.2 ⟨hself, hother hends⟩)

end TokenText

/-- Whether the text of a tag consists of some tokens, once its strings are
    blanked. -/
def WrittenUnquoted (inner : List Token) (body : List Char) : Prop :=
  ∃ core signs, withoutStrings body = core ++ signs ∧ AreSigns signs ∧
    Written (inner.filter Token.isSeen) core

/-- If nothing is taken from a text, nothing is taken from a first part of it. -/
theorem takeWhile_eq_nil {p : Char → Bool} {cs more : List Char} (hstarts : cs <+: more)
    (hnone : more.takeWhile p = []) : cs.takeWhile p = [] := by
  obtain ⟨behind, rfl⟩ := hstarts
  cases cs with
  | nil => rfl
  | cons c rest => simpa [List.takeWhile_cons] using hnone

/-- White space before a text adds no token to it. -/
theorem WrittenUnquoted.blanks {inner : List Token} {blanks body : List Char}
    (hblanks : ∀ c ∈ blanks, isAsciiBlank c = true) (hwritten : WrittenUnquoted inner body) :
    WrittenUnquoted inner (blanks ++ body) := by
  obtain ⟨core, signs, hbody, hsigns, hcore⟩ := hwritten
  have hquote : ∀ c ∈ blanks, isQuote c = false := fun c hc =>
    (IsNeutral.of_test isAsciiBlank (by decide) (hblanks c hc)).1
  refine ⟨blanks ++ core, signs, ?_, hsigns, hcore.blanks hblanks⟩
  rw [withoutStrings_append hquote, hbody, List.append_assoc]

/-- A token before a text adds itself if it is no string. A string only leaves
    the spaces that it is blanked with. -/
theorem WrittenUnquoted.piece {inner : List Token} {c : Char} {rest body : List Char}
    {token : Token} {extra : Nat} (hfeeds : ¬['\\', '\n'] <:+: rest)
    (hpiece : WordPiece c rest token extra) (hbody : body <+: rest.drop extra)
    (hwritten : WrittenUnquoted inner body) :
    WrittenUnquoted (token :: inner) (c :: rest.take extra ++ body) := by
  obtain ⟨core, signs, hcore, hsigns, hwords⟩ := hwritten
  by_cases hseen : token.isSeen = true
  · have htext := hpiece.tokenText hseen
    have hends : (rest.drop extra).takeWhile isNameChar = [] → core.takeWhile isNameChar = [] := by
      intro hnone
      have hrest := takeWhile_withoutStrings (takeWhile_eq_nil hbody hnone)
      exact takeWhile_eq_nil ⟨signs, hcore.symm⟩ hrest
    refine ⟨c :: rest.take extra ++ core, signs, ?_, hsigns, ?_⟩
    · rw [withoutStrings_append htext.isQuote_eq_false, hcore, List.append_assoc]
    · rw [List.filter_cons_of_pos hseen]
      exact .token (htext.before hends) hwords
  · cases hpiece with
    | string hquote hlength =>
      have hfull : (rest.take extra).length = extra :=
        List.length_take_of_le (quotedLength?_bounds hlength).2
      rw [← quotedLength?_false hfeeds] at hlength
      have hcontent := (quotedLength?_take hlength body).trans (congrArg some hfull.symm)
      have hspaces : ∀ d ∈ (c :: rest.take extra).flatMap spaces, isAsciiBlank d = true := by
        intro d hmem
        obtain ⟨e, -, hd⟩ := List.mem_flatMap.1 hmem
        rw [List.eq_of_mem_replicate hd]
        rfl
      refine ⟨(c :: rest.take extra).flatMap spaces ++ core, signs, ?_, hsigns, ?_⟩
      · rw [withoutStrings_quoted hquote hcontent, hcore, List.append_assoc]
      · rw [List.filter_cons_of_neg hseen]
        exact hwords.blanks hspaces
    | numeral hdigit hscan =>
      have hnumber := isNumber_of_scanNumeral hscan
      cases token <;> first | exact absurd rfl hseen | cases hnumber
    | _ => exact absurd rfl hseen

/-- Every step of the scanner towards the start of a tag keeps that the text is
    written in the tokens. -/
theorem keptBySteps_writtenUnquoted (kind : Delimiter) : KeptBySteps kind WrittenUnquoted where
  signs {signs} hsigns := by
    refine ⟨[], signs, ?_, hsigns, .done⟩
    obtain rfl | ⟨sign, hsign, rfl⟩ := hsigns
    · rfl
    · have hquote : isQuote sign = false := by
        obtain rfl | rfl : sign = '+' ∨ sign = '-' := by simpa using hsign
        all_goals rfl
      exact withoutStrings_append (List.forall_mem_singleton.2 hquote) []
  step hstep hcloses hfeeds hbody hwritten := by
    obtain ⟨hblank, rfl, rfl, -⟩ | rfl | ⟨-, found, deeper, rfl, -, hpiece⟩ :=
      insideStep_eq_pass hstep
    · refine hwritten.blanks (List.forall_mem_cons.2 ⟨hblank, ?_⟩)
      rw [← List.prefix_iff_eq_take.1 (List.takeWhile_prefix _)]
      exact List.all_eq_true.1 List.all_takeWhile
    · have hfalse := hcloses kind.endToken (List.mem_singleton_self _)
      cases kind <;> cases hfalse
    · exact hwritten.piece hfeeds hpiece hbody

/-- A bare template whose tags are all closed shows its tokens, one tag after
    the other. The offset only goes into the places of the tags. -/
theorem shown_tagsFrom {cs : List Char} (hbare : IsBare cs)
    (hclosed : AreWellClosed (wordsFrom .text cs)) (offset : Nat) :
    Shown (tagsFrom 0 offset cs) ((wordsFrom .text cs).filter Token.isSeen) := by
  refine bare_induction
    (motive := fun cs => ∀ offset,
      Shown (tagsFrom 0 offset cs) ((wordsFrom .text cs).filter Token.isSeen))
    keptBySteps_writtenUnquoted (fun offset => ?_) (fun cs lead hwords ih offset => ?_)
    (fun kind inner words tokens body behind blanks hwords hbody hwritten ih offset => ?_)
    hbare hclosed offset
  · rw [wordsFrom_nil]
    exact .done
  · have hseen : (wordsFrom .text cs).filter Token.isSeen =
        (wordsFrom .text (cs.drop (leadLength cs))).filter Token.isSeen := by
      rw [hwords]
      cases lead <;> rfl
    obtain ⟨later, htags⟩ := tagsFrom_leadLength offset cs
    rw [htags, hseen]
    exact ih later
  · obtain ⟨tag, later, htags, hstatement, htag⟩ := hbody.exists_tagsFrom offset
    have hkind : tag.kind = kind := by
      rw [Tag.kind, hstatement]
      cases kind <;> rfl
    have hseen : (wordsFrom .text ('\x7b' :: kind.mark :: inner)).filter Token.isSeen =
        tag.kind.startToken :: (tokens.filter Token.isSeen ++ tag.kind.endToken ::
          (wordsFrom .text (behind.drop blanks)).filter Token.isSeen) := by
      rw [hwords, hbody.words_eq, hkind, List.filter_cons_of_pos, List.filter_append,
        List.filter_cons_of_pos] <;> cases kind <;> rfl
    obtain ⟨core, signs, hcore, hsigns, hwords⟩ := hwritten
    have hshows : tag.Shows (tokens.filter Token.isSeen) :=
      ⟨_, core, signs, by rw [htag, hcore], areSigns_take inner, hsigns, hwords⟩
    rw [htags, hseen]
    exact .tag hshows (ih later)

/-- In a well tagged template the scanner finds the tags that the reader finds.
    How its filters are named does not matter here, as calls are looked for
    between names and parentheses only. -/
theorem IsWellTagged.isLegible {source : List Char} (htagged : IsWellTagged source) :
    IsLegible source := by
  refine ⟨(wordsFrom .text source).filter Token.isSeen, ?_, by rw [seenWords, htagged.respell_eq]⟩
  rw [tagsOf, htagged.masked_eq_self]
  exact shown_tagsFrom htagged.toIsBare htagged.closed 0

end PromptPacks.Template
