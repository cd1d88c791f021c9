import Mathlib.Data.List.Infix
import PromptPacks.Proofs.Template.Lexing

namespace PromptPacks.Template

open PromptPacks.Text

/-- A sign for white space is dropped together with its length. -/
theorem drop_signLength (cs : List Char) : cs.drop (signLength cs) = dropSign cs := by
  cases cs with
  | nil => rfl
  | cons c rest =>
    rw [signLength, dropSign]
    split <;> rfl

/-- A word with white space around it: what comes before and behind the white
    space. -/
theorem exists_of_spacedWord? {word cs : List Char} {length : Nat}
    (hword : (word.head?.map isBlank).getD true = false)
    (hspaced : spacedWord? word cs = some length) :
    ∃ tail, cs.dropWhile isBlank = word ++ tail ∧
      cs.drop length = tail.drop (tail.takeWhile isAsciiBlank).length := by
  simp only [spacedWord?, Option.ite_none_right_eq_some, Option.some.injEq] at hspaced
  obtain ⟨hstarts, rfl⟩ := hspaced
  obtain ⟨tail, htail⟩ := List.isPrefixOf_iff_prefix.1 hstarts
  refine ⟨tail, ?_, ?_⟩
  · rw [dropWhile_isBlank_drop, ← htail]
    cases word with
    | nil => cases hword
    | cons c word => exact List.dropWhile_cons_of_neg (by simpa using hword)
  · rw [← List.drop_drop, ← List.drop_drop, ← htail, List.drop_left]

/-- Where an end of a tag follows, perhaps after a sign, no white space comes
    first. -/
theorem dropWhile_isBlank_eq_self {cs behind : List Char}
    (hclosing : dropSign cs = tagClosing ++ behind) : cs.dropWhile isBlank = cs := by
  cases cs with
  | nil => rfl
  | cons c rest =>
    refine List.dropWhile_cons_of_neg ?_
    rw [dropSign] at hclosing
    split at hclosing
    · next hsign =>
      simp only [Bool.or_eq_true, beq_iff_eq] at hsign
      obtain rfl | rfl := hsign <;> decide
    · cases hclosing
      decide

/-- What starts a raw block for the reader of the template also does so for the
    scanner. So a text without such tags has none for the reader either. -/
theorem isSome_afterTag? {word inner : List Char} {found : Nat × Option Char}
    (hword : (word.head?.map isBlank).getD true = false)
    (htag : plainTag? word inner = some found) :
    (afterTag? word ('\x7b' :: '%' :: inner)).isSome = true := by
  unfold plainTag? at htag
  split at htag
  · cases htag
  · next length hspaced =>
    simp only [Option.ite_none_right_eq_some] at htag
    obtain ⟨hstarts, -⟩ := htag
    rw [drop_signLength] at hspaced
    rw [drop_signLength, ← List.drop_drop, drop_signLength] at hstarts
    obtain ⟨tail, hdrop, htail⟩ := exists_of_spacedWord? hword hspaced
    obtain ⟨behind, hbehind⟩ := List.isPrefixOf_iff_prefix.1 hstarts
    have hself := dropWhile_isBlank_eq_self hbehind.symm
    rw [htail, ← dropWhile_isBlank_drop] at hself
    have hinside : after? tagOpening ('\x7b' :: '%' :: inner) = some inner :=
      after?_append tagOpening inner
    rw [afterTag?, hinside]
    simp only [Option.bind_eq_bind, Option.bind_some, hdrop, after?_append]
    rw [hself, ← htail, ← hbehind]
    exact congrArg Option.isSome (after?_append tagClosing behind)

/-- A text without comments, raw blocks and escaped line ends. -/
structure IsBare (cs : List Char) : Prop where
  comment : ¬['\x7b', '#'] <:+: cs
  raw : ∀ rest, rest <:+ cs → afterTag? "raw".toList rest = none
  feed : ¬['\\', '\n'] <:+: cs

instance : DecidablePred IsBare := fun cs =>
  decidable_of_iff (¬['\x7b', '#'] <:+: cs ∧
      (∀ rest ∈ cs.tails, afterTag? "raw".toList rest = none) ∧ ¬['\\', '\n'] <:+: cs)
    ⟨fun ⟨hcomment, hraw, hfeed⟩ =>
      ⟨hcomment, fun rest hsuffix => hraw rest ((List.mem_tails rest cs).2 hsuffix), hfeed⟩,
      fun ⟨hcomment, hraw, hfeed⟩ =>
        ⟨hcomment, fun rest hmem => hraw rest ((List.mem_tails rest cs).1 hmem), hfeed⟩⟩

/-- What is left of a bare text is bare, so it can be read tag by tag. -/
theorem IsBare.suffix {cs rest : List Char} (hbare : IsBare cs) (hsuffix : rest <:+ cs) :
    IsBare rest where
  comment hcomment := hbare.comment (hcomment.trans hsuffix.isInfix)
  raw other hother := hbare.raw other (hother.trans hsuffix)
  feed hfeed := hbare.feed (hfeed.trans hsuffix.isInfix)

/-- In a bare text nothing is blanked, so the scanner sees the text itself. -/
theorem IsBare.masked_eq_self {cs : List Char} (hbare : IsBare cs) : masked cs = cs := by
  have hraw : blankParts rawPart? [] cs = cs := by
    refine blankParts_eq_self fun rest hsuffix => ?_
    rw [rawPart?, hbare.raw rest hsuffix]
    rfl
  rw [masked, hraw]
  refine blankParts_eq_self fun rest hsuffix => ?_
  rw [commentPart?]
  cases hafter : after? ['\x7b', '#'] rest with
  | none => rfl
  | some behind =>
    have hpart : ['\x7b', '#'] <:+: rest := ⟨[], behind, (eq_append_of_after? hafter).symm⟩
    exact absurd (hpart.trans hsuffix.isInfix) hbare.comment

def Token.begins : Token → Bool
  | .exprStart | .tagStart => true
  | _ => false

/-- Tokens among which every expression and tag that begins also ends. -/
def AreClosed : List Token → Prop
  | [] => True
  | token :: words =>
    (token.begins = true → ∃ stop ∈ words, stop.closes = true) ∧ AreClosed words

instance decidableAreClosed : (words : List Token) → Decidable (AreClosed words)
  | [] => inferInstanceAs (Decidable True)
  | _ :: words =>
    haveI := decidableAreClosed words
    inferInstanceAs (Decidable (_ ∧ AreClosed words))

/-- Tokens that show where expressions and tags end. -/
structure AreWellClosed (words : List Token) : Prop where
  ends : NoFakeEnd words
  closed : AreClosed words

instance : DecidablePred AreWellClosed := fun words =>
  decidable_of_iff (NoFakeEnd words ∧ AreClosed words)
    ⟨fun ⟨hends, hclosed⟩ => ⟨hends, hclosed⟩, fun ⟨hends, hclosed⟩ => ⟨hends, hclosed⟩⟩

/-- Tokens behind the first one are closed as well as all of them. -/
theorem AreWellClosed.tail {token : Token} {words : List Token}
    (hclosed : AreWellClosed (token :: words)) : AreWellClosed words :=
  ⟨hclosed.ends.suffix (List.suffix_cons token words), hclosed.closed.2⟩

/-- The same for any number of tokens in front. -/
theorem AreWellClosed.of_append {before words : List Token}
    (hclosed : AreWellClosed (before ++ words)) : AreWellClosed words := by
  induction before with
  | nil => exact hclosed
  | cons token before ih => exact ih hclosed.tail

/-- The character after the brace that begins an expression or a tag. -/
def Delimiter.mark : Delimiter → Char
  | .expr => '\x7b'
  | .tag => '%'

def Delimiter.startToken : Delimiter → Token
  | .expr => .exprStart
  | .tag => .tagStart

/-- Text that does not begin with plain text begins with a brace and one of
    three marks. -/
theorem exists_of_leadLength_eq_zero {c : Char} {rest : List Char}
    (hlead : leadLength (c :: rest) = 0) :
    ∃ d inner, c = '\x7b' ∧ rest = d :: inner ∧ (d = '\x7b' ∨ d = '%' ∨ d = '#') := by
  rw [leadLength] at hlead
  split at hlead
  · next hopens =>
    unfold opens at hopens
    split at hopens
    · next d inner heq =>
      cases heq
      refine ⟨d, inner, rfl, rfl, ?_⟩
      simpa [or_assoc] using hopens
    · cases hopens
  · cases hlead

/-- In a bare text the mark is not that of a comment, and what it opens is no
    raw block. -/
theorem exists_openingStep {c : Char} {rest : List Char} (hbare : IsBare (c :: rest))
    (hlead : leadLength (c :: rest) = 0) :
    ∃ kind inner, c :: rest = '\x7b' :: kind.mark :: inner ∧ openingStep (c :: rest) =
      .pass (some (0, kind.startToken)) (1 + signLength inner) (.inside kind 0) := by
  obtain ⟨d, inner, rfl, rfl, rfl | rfl | rfl⟩ := exists_of_leadLength_eq_zero hlead
  · exact ⟨.expr, inner, rfl, rfl⟩
  · refine ⟨.tag, inner, rfl, ?_⟩
    cases htag : plainTag? "raw".toList inner with
    | none => simp only [openingStep, htag]; rfl
    | some found =>
      have hsome := isSome_afterTag? (by decide) htag
      rw [hbare.raw _ (List.suffix_refl _)] at hsome
      cases hsome
  · exact absurd ⟨[], inner, rfl⟩ hbare.comment

/-- What comes first in a text is everything before an expression or a tag, or
    one of these. The two cases are the steps of the reader outside of tags. -/
theorem wordsFrom_text_cases {cs : List Char} (hbare : IsBare cs) (hcs : cs ≠ []) :
    (0 < leadLength cs ∧ ∃ lead : Option (List Char), wordsFrom .text cs =
      (lead.map Token.text).toList ++ wordsFrom .text (cs.drop (leadLength cs))) ∨
    ∃ kind inner, cs = '\x7b' :: kind.mark :: inner ∧ wordsFrom .text cs =
      kind.startToken :: wordsFrom (.inside kind 0) (inner.drop (signLength inner)) := by
  obtain ⟨c, rest, rfl⟩ := List.exists_cons_of_ne_nil hcs
  by_cases hlead : leadLength (c :: rest) = 0
  · right
    obtain ⟨kind, inner, hcons, hstep⟩ := exists_openingStep hbare hlead
    refine ⟨kind, inner, hcons, ?_⟩
    cases hcons
    have hstep : step .text '\x7b' (kind.mark :: inner) =
        .pass (some (0, kind.startToken)) (1 + signLength inner) (.inside kind 0) := by
      rw [step, textStep, if_pos hlead, hstep]
    rw [wordsFrom_of_pass hstep, Nat.add_comm, List.drop_succ_cons]
    rfl
  · left
    obtain ⟨length, hlength⟩ := Nat.exists_eq_succ_of_ne_zero hlead
    obtain ⟨lead, hstep⟩ : ∃ lead : Option (List Char), step .text c rest =
        .pass (lead.map fun content => (0, Token.text content)) length .text := by
      have hmap : ∀ content : List Char,
          (if content.isEmpty then none else some (0, Token.text content)) =
            (if content.isEmpty then none else some content).map fun lead => (0, .text lead) := by
        intro content
        split <;> rfl
      rw [step, textStep, if_neg hlead, hlength]
      exact ⟨_, congrArg (Step.pass · length .text) (hmap _)⟩
    refine ⟨Nat.pos_of_ne_zero hlead, lead, ?_⟩
    rw [wordsFrom_of_pass hstep, Option.map_map, hlength, List.drop_succ_cons]
    rfl

namespace IsBody

variable {kind : Delimiter} {words tokens : List Token} {inner body behind : List Char}
  {blanks : Nat} {feature : Feature}
  (hbody : IsBody kind words tokens (inner.drop (signLength inner)) body behind blanks)

include hbody

/-- The text of a tag: a sign, its body, and the closing mark with what is
    behind it. -/
theorem signed_eq_append :
    inner = inner.take (signLength inner) ++ body ++ (kind.closing ++ behind) := by
  rw [List.append_assoc, ← hbody.eq_append, List.take_append_drop]

/-- What is behind a tag is the end of the text. -/
theorem suffix : behind.drop blanks <:+ inner := by
  refine (List.drop_suffix blanks behind).trans ?_
  refine ⟨inner.take (signLength inner) ++ body ++ kind.closing, ?_⟩
  rw [List.append_assoc, ← hbody.signed_eq_append]

/-- The scanner finds the tag with its body, as nothing in the body looks like
    the end of the tag to it. -/
theorem opening?_eq :
    opening? ('\x7b' :: kind.mark :: inner) =
      some (decide (kind = .tag), (inner.take (signLength inner) ++ body).length) := by
  have hlength : bodyLength? kind.closing 0 inner =
      some (inner.take (signLength inner) ++ body).length := by
    have hsigns := bodyLength?_append kind (isNeutral_sign inner) (inner.drop (signLength inner))
    rw [List.take_append_drop, hbody.bodyLength?_eq, Option.map_some, Nat.add_comm,
      ← List.length_append] at hsigns
    exact hsigns
  cases kind with
  | expr => exact congrArg (Option.map (false, ·)) hlength
  | tag => exact congrArg (Option.map (true, ·)) hlength

/-- The scanner finds the tag with its body, and then the tags behind it, from
    whatever offset it counts. -/
theorem exists_tagsFrom (offset : Nat) :
    ∃ tag later, tagsFrom 0 offset ('\x7b' :: kind.mark :: inner) =
        tag :: tagsFrom 0 later (behind.drop blanks) ∧
      tag.isStatement = decide (kind = .tag) ∧
        tag.body = inner.take (signLength inner) ++ withoutStrings body := by
  have hquotes := withoutStrings_append (fun c hc => (isNeutral_sign inner c hc).1) body
  have hopening := hbody.opening?_eq
  have happend := hbody.signed_eq_append
  generalize inner.take (signLength inner) = signs at hopening happend hquotes ⊢
  obtain ⟨place, later, htags⟩ := tagsFrom_opening hopening offset
  have htake : ((kind.mark :: inner).drop 1).take (signs ++ body).length = signs ++ body := by
    rw [happend, List.drop_one, List.tail_cons, List.take_left]
  have hdrop : (kind.mark :: inner).drop ((signs ++ body).length + 3) = behind := by
    rw [happend, List.drop_succ_cons, List.drop_length_add_append]
    cases kind <;> rfl
  rw [htake, hdrop, hquotes] at htags
  obtain ⟨last, hlast⟩ := tagsFrom_blank hbody.isBlank later
  exact ⟨_, last, by rw [htags, hlast], rfl, rfl⟩

/-- What is found behind a tag is found. -/
theorem isFound_of_behind (hfound : IsFound feature (behind.drop blanks)) :
    IsFound feature ('\x7b' :: kind.mark :: inner) := by
  intro offset
  obtain ⟨tag, later, htags, -⟩ := hbody.exists_tagsFrom offset
  obtain ⟨other, hmem, hfeature⟩ := hfound later
  exact ⟨other, htags ▸ List.mem_cons_of_mem tag hmem, hfeature⟩

/-- What the scanner finds in the tag itself is found. -/
theorem isFound_of_mem_features
    (hfeature : ∀ tag : Tag, tag.isStatement = decide (kind = .tag) →
      tag.body = inner.take (signLength inner) ++ withoutStrings body → feature ∈ tag.features) :
    IsFound feature ('\x7b' :: kind.mark :: inner) := by
  intro offset
  obtain ⟨tag, later, htags, hstatement, htag⟩ := hbody.exists_tagsFrom offset
  exact ⟨tag, htags ▸ List.mem_cons_self, hfeature tag hstatement htag⟩

/-- The scanner finds what the tokens of a tag show, or it is shown behind the
    tag. The word for a condition is excepted, since it may stand for a further
    branch. -/
theorem isFound_or (hdots : feature.isDotted = false)
    (hmem : feature ∈ shownIn (kind.startToken :: words)) :
    feature = .statement "if" ∨ IsFound feature ('\x7b' :: kind.mark :: inner) ∨
      feature ∈ shownIn (wordsFrom .text (behind.drop blanks)) := by
  have hstop : kind.endToken.closes = true := by cases kind <;> rfl
  rw [hbody.words_eq, shownIn, List.mem_append] at hmem
  obtain hfirst | hinside := hmem
  · cases kind with
    | expr => cases hfirst
    | tag =>
      obtain ⟨word, after, hwords, hshown⟩ := exists_of_mem_shownAt hfirst
      obtain ⟨more, rfl⟩ := exists_of_append_eq_name hstop hwords
      cases hwords
      by_cases hif : feature = .statement "if"
      · exact .inl hif
      · refine .inr (.inl (hbody.isFound_of_mem_features fun tag hstatement htag => ?_))
        rw [decide_eq_true rfl] at hstatement
        have hfound := tag.mem_features_of_tagShown hstatement htag hstop hbody.spells hdots hshown
        exact hfound.resolve_left hif
  · obtain ⟨word, rfl, hword⟩ | hlater := hbody.spells.mem_shownIn hstop hdots hinside
    · refine .inr (.inl (hbody.isFound_of_mem_features fun tag _ htag => ?_))
      refine tag.mem_features_of_bar ?_
      rw [htag]
      exact mem_barNames_append hword _
    · exact .inr (.inr hlater)

end IsBody

/-- A bare text is read tag by tag. What holds of the empty text holds of every
    one, if the text before a tag and the tags keep it. What is left of a text
    is bare again, and its tokens are the last ones of the text. -/
theorem bare_induction {motive : List Char → Prop} {p : List Token → List Char → Prop}
    (hp : ∀ kind, KeptBySteps kind p) (hnil : motive [])
    (hlead : ∀ cs (lead : Option (List Char)), wordsFrom .text cs =
        (lead.map Token.text).toList ++ wordsFrom .text (cs.drop (leadLength cs)) →
      motive (cs.drop (leadLength cs)) → motive cs)
    (htag : ∀ kind inner words tokens body behind blanks,
      wordsFrom .text ('\x7b' :: kind.mark :: inner) = kind.startToken :: words →
        IsBody kind words tokens (inner.drop (signLength inner)) body behind blanks →
          p tokens body → motive (behind.drop blanks) → motive ('\x7b' :: kind.mark :: inner))
    {cs : List Char} (hbare : IsBare cs) (hclosed : AreWellClosed (wordsFrom .text cs)) :
    motive cs := by
  induction hlength : cs.length using Nat.strongRecOn generalizing cs with
  | ind n ih =>
  subst hlength
  by_cases hcs : cs = []
  · rw [hcs]
    exact hnil
  obtain ⟨hpos, lead, hwords⟩ | ⟨kind, inner, rfl, hwords⟩ := wordsFrom_text_cases hbare hcs
  · have hlt : (cs.drop (leadLength cs)).length < cs.length := by
      have hlength := List.length_pos_of_ne_nil hcs
      rw [List.length_drop]
      omega
    refine hlead cs lead hwords (ih _ hlt (hbare.suffix (List.drop_suffix _ cs)) ?_ rfl)
    rw [hwords] at hclosed
    exact hclosed.of_append
  · rw [hwords] at hclosed
    have hinside := hclosed.tail
    have hinner : inner <:+ '\x7b' :: kind.mark :: inner :=
      (List.suffix_cons _ inner).trans (List.suffix_cons _ _)
    have hfeeds := (hbare.suffix ((List.drop_suffix (signLength inner) inner).trans hinner)).feed
    obtain ⟨tokens, body, behind, blanks, hbody, hkept⟩ := exists_isBody (hp kind) hfeeds
      hinside.ends (hclosed.closed.1 (by cases kind <;> rfl))
    have hlt : (behind.drop blanks).length < ('\x7b' :: kind.mark :: inner).length := by
      have hle := hbody.suffix.length_le
      rw [List.length_cons, List.length_cons]
      omega
    refine htag _ _ _ _ _ _ _ hwords hbody hkept
      (ih _ hlt (hbare.suffix (hbody.suffix.trans hinner)) ?_ rfl)
    rw [hbody.words_eq, List.append_cons] at hinside
    exact hinside.of_append

/-- The scanner finds all that the tokens of a bare text show. Only further
    branches of a condition have a word of their own. -/
theorem isFound_of_mem_shownIn {cs : List Char} {feature : Feature} (hbare : IsBare cs)
    (hclosed : AreWellClosed (wordsFrom .text cs)) (hdots : feature.isDotted = false)
    (hmem : feature ∈ shownIn (wordsFrom .text cs)) :
    feature = .statement "if" ∨ IsFound feature cs := by
  have hany (kind : Delimiter) : KeptBySteps kind fun _ _ => True :=
    ⟨fun _ => trivial, fun _ _ _ _ _ => trivial⟩
  refine bare_induction
    (motive := fun cs => feature ∈ shownIn (wordsFrom .text cs) →
      feature = .statement "if" ∨ IsFound feature cs) hany (fun hmem => ?_)
    (fun cs lead hwords ih hmem => ?_)
    (fun kind inner words tokens body behind blanks hwords hbody _ ih hmem => ?_) hbare hclosed hmem
  · rw [wordsFrom_nil] at hmem
    cases hmem
  · have hlater : feature ∈ shownIn (wordsFrom .text (cs.drop (leadLength cs))) := by
      rw [hwords] at hmem
      cases lead with
      | none => exact hmem
      | some content => exact hmem
    refine (ih hlater).imp_right fun hfound offset => ?_
    obtain ⟨later, htags⟩ := tagsFrom_leadLength offset cs
    rw [htags]
    exact hfound later
  · rw [hwords] at hmem
    obtain hif | hfound | hlater := hbody.isFound_or hdots hmem
    · exact .inl hif
    · exact .inr hfound
    · exact (ih hlater).imp_right hbody.isFound_of_behind

end PromptPacks.Template
