import PromptPacks.Proofs.Template.TagText
import PromptPacks.Proofs.Template.Tally
import PromptPacks.Proofs.Text.Word

namespace PromptPacks.Template

open PromptPacks.Text

/-- A text that does not go on with a name does not do so without its strings.
    They leave spaces, and a space is in no name. -/
theorem takeWhile_withoutStrings {body : List Char} (hbody : body.takeWhile isNameChar = []) :
    (withoutStrings body).takeWhile isNameChar = [] := by
  cases body with
  | nil => rfl
  | cons c rest =>
    have hc : isNameChar c = false := by simpa [List.takeWhile_cons] using hbody
    obtain ⟨n, hspaces⟩ := exists_spaces_eq_cons c
    have hspace : isNameChar ' ' = false := by decide
    rw [withoutStrings, blankParts]
    split
    · split <;> simp [hspaces, hspace, hc]
    · simp [hc]

/-- Names with points have all characters of their first part. -/
theorem mem_dottedFrom {c : Char} {name : String} (hmem : c ∈ name.toList) (words : List Token) :
    c ∈ (dottedFrom name words).toList := by
  fun_induction dottedFrom name words with
  | case1 name part words ih => exact ih (by simp [hmem])
  | case2 => exact hmem

/-- A name that is read without points is the first word alone. -/
theorem dottedFrom_eq_self {name : String} {words : List Token}
    (hdots : '.' ∉ (dottedFrom name words).toList) : dottedFrom name words = name := by
  unfold dottedFrom at hdots ⊢
  split at hdots
  · exact absurd (mem_dottedFrom (by simp) _) hdots
  · rfl

/-- What is shown as a filter starts with the name that comes first. -/
theorem exists_of_mem_filterShown {feature : Feature} {words : List Token}
    (hmem : feature ∈ filterShown words) :
    ∃ first after, words = .name first :: after ∧ feature = .filter (dottedFrom first after) := by
  unfold filterShown at hmem
  split at hmem
  · next first after => exact ⟨first, after, rfl, List.mem_singleton.1 hmem⟩
  · cases hmem

/-- What the start of a tag shows depends on the word behind it. -/
theorem exists_of_mem_shownAt {feature : Feature} {words : List Token}
    (hmem : feature ∈ shownAt .tagStart words) :
    ∃ word after, words = .name word :: after ∧ feature ∈ tagShown word after := by
  unfold shownAt at hmem
  split at hmem
  · next heq => cases heq
  · next word after _ => exact ⟨word, after, rfl, hmem⟩
  · cases hmem

/-- Whether a feature is a filter with points in its name. No filter has such a
    name. -/
def Feature.isDotted : Feature → Bool
  | .filter name => name.toList.contains '.'
  | .statement _ => false

/-- Whether a token may stand between delimiters and is neither a name nor a
    bar. -/
def Token.isOther : Token → Bool
  | .symbol sign => sign ≠ .pipe
  | .string _ | .integer _ | .float _ => true
  | _ => false

/-- Whether a token ends an expression or a tag. -/
def Token.closes : Token → Bool
  | .exprEnd | .tagEnd => true
  | _ => false

variable {token : Token}

/-- A token that is not looked at ends no tag. -/
theorem Token.closes_of_isOther (hother : token.isOther = true) : token.closes = false := by
  cases token <;> first | rfl | cases hother

/-- A token that is not looked at shows no feature. -/
theorem Token.marks_of_isOther (hother : token.isOther = true) : token.marks = false := by
  cases token with
  | symbol sign => cases sign <;> first | rfl | cases hother
  | _ => first | rfl | cases hother

/-- Tokens between delimiters with a text that shows the same names and bars.
    All other tokens may stand for any characters, and the sign before the end
    of a tag stands for no token. -/
inductive Spells : List Token → List Char → Prop where
  | done : Spells [] []
  | sign (c : Char) : Spells [] [c]
  | blank {tokens : List Token} {c : Char} {cs : List Char} (hblank : isBlank c = true)
      (hspells : Spells tokens cs) : Spells tokens (c :: cs)
  | bar {tokens : List Token} {cs : List Char} (hspells : Spells tokens cs) :
      Spells (.symbol .pipe :: tokens) ('|' :: cs)
  | name {tokens : List Token} {word cs : List Char} (hword : leadingName (word ++ cs) = some word)
      (hspells : Spells tokens cs) : Spells (.name (String.ofList word) :: tokens) (word ++ cs)
  | other {token : Token} {tokens : List Token} {cs : List Char} (hother : token.isOther = true)
      (chunk : List Char) (hspells : Spells tokens cs) : Spells (token :: tokens) (chunk ++ cs)

/-- A name before the end of a tag is one of the tokens in the tag. -/
theorem exists_of_append_eq_name {inner later after : List Token} {stop : Token} {first : String}
    (hstop : stop.closes = true) (hwords : inner ++ stop :: later = .name first :: after) :
    ∃ more, inner = .name first :: more := by
  cases inner with
  | nil =>
    rw [(List.cons.inj hwords).1] at hstop
    cases hstop
  | cons token more => exact ⟨more, by rw [(List.cons.inj hwords).1]⟩

namespace Spells

/-- White space before a text spells nothing. -/
theorem blanks {tokens : List Token} {blanks cs : List Char}
    (hblank : ∀ c ∈ blanks, isBlank c = true) (hspells : Spells tokens cs) :
    Spells tokens (blanks ++ cs) := by
  induction blanks with
  | nil => exact hspells
  | cons c blanks ih =>
    obtain ⟨hc, hblanks⟩ := List.forall_mem_cons.1 hblank
    exact .blank hc (ih hblanks)

/-- Tokens that are spelled out are no end of a tag. -/
theorem closes_eq_false {tokens : List Token} {cs : List Char} (hspells : Spells tokens cs) :
    ∀ token ∈ tokens, token.closes = false := by
  induction hspells with
  | done | sign => simp
  | blank _ _ ih => exact ih
  | bar _ ih => exact List.forall_mem_cons.2 ⟨rfl, ih⟩
  | name _ _ ih => exact List.forall_mem_cons.2 ⟨rfl, ih⟩
  | other hother _ _ ih => exact List.forall_mem_cons.2 ⟨Token.closes_of_isOther hother, ih⟩

/-- A name that comes first is what the text starts with, apart from white
    space. -/
theorem exists_of_name {word : String} {tokens : List Token} {cs : List Char}
    (hspells : Spells (.name word :: tokens) cs) :
    ∃ behind, cs.dropWhile isBlank = word.toList ++ behind ∧
      leadingName (word.toList ++ behind) = some word.toList ∧ Spells tokens behind := by
  generalize hall : Token.name word :: tokens = all at hspells
  induction hspells with
  | done => cases hall
  | sign => cases hall
  | blank hblank _ ih => rw [List.dropWhile_cons_of_pos hblank]; exact ih hall
  | bar => cases hall
  | @name tokens word cs hword hspells =>
    cases hall
    obtain ⟨c, rest, hcs, hstart, -⟩ := exists_of_leadingName hword
    have hblank : ¬isBlank c = true := by
      simp [isBlank_eq_false (isNameChar_of_isNameStart hstart)]
    refine ⟨cs, ?_, ?_, hspells⟩ <;> rw [String.toList_ofList]
    · rw [hcs, List.dropWhile_cons_of_neg hblank]
    · exact hword
  | other hother => cases hall; cases hother

/-- A name that comes first behind a bar is a filter. -/
theorem mem_barNames_of_name {word : String} {tokens : List Token} {cs : List Char}
    (hspells : Spells (.name word :: tokens) cs) : word ∈ barNames ('|' :: cs) := by
  obtain ⟨behind, hdrop, hword, -⟩ := hspells.exists_of_name
  rw [← hdrop] at hword
  have hbar := mem_barNames_bar hword
  rwa [String.ofList_toList] at hbar

/-- What the tokens of a tag show are the names after its bars and what follows
    the tag. Filters with points in their names are left out, as the search sees
    the first part of them alone. -/
theorem mem_shownIn {inner later : List Token} {cs : List Char} (hspells : Spells inner cs)
    {stop : Token} (hstop : stop.closes = true) {feature : Feature}
    (hdots : feature.isDotted = false) (hmem : feature ∈ shownIn (inner ++ stop :: later)) :
    (∃ word, feature = .filter word ∧ word ∈ barNames cs) ∨ feature ∈ shownIn later := by
  have hmarks : stop.marks = false := by
    cases stop <;> first | rfl | cases hstop
  have hcons : ∀ {chunk cs},
      (∃ word, feature = .filter word ∧ word ∈ barNames cs) ∨ feature ∈ shownIn later →
        (∃ word, feature = .filter word ∧ word ∈ barNames (chunk ++ cs)) ∨
          feature ∈ shownIn later := by
    rintro chunk cs (⟨word, rfl, hword⟩ | hlater)
    · exact .inl ⟨word, rfl, mem_barNames_append hword chunk⟩
    · exact .inr hlater
  induction hspells with
  | done | sign => exact .inr (by rwa [List.nil_append, shownIn_cons hmarks] at hmem)
  | @blank tokens c cs _ _ ih => exact @hcons [c] cs (ih hmem)
  | @bar tokens cs hspells ih =>
    rw [List.cons_append, shownIn, shownAt, List.mem_append] at hmem
    obtain hfilter | hrest := hmem
    · obtain ⟨first, after, hwords, rfl⟩ := exists_of_mem_filterShown hfilter
      obtain ⟨more, rfl⟩ := exists_of_append_eq_name hstop hwords
      refine .inl ⟨first, ?_, hspells.mem_barNames_of_name⟩
      rw [dottedFrom_eq_self (by simpa [Feature.isDotted] using hdots)]
    · exact @hcons ['|'] cs (ih hrest)
  | name _ _ ih =>
    rw [List.cons_append, shownIn_cons rfl] at hmem
    exact hcons (ih hmem)
  | other hother _ _ ih =>
    rw [List.cons_append, shownIn_cons (Token.marks_of_isOther hother)] at hmem
    exact hcons (ih hmem)

/-- A text that starts with a name has no sign before it, nor has one that
    starts with white space before the name. -/
theorem dropSign_eq_self {word : String} {tokens : List Token} {cs : List Char}
    (hspells : Spells (.name word :: tokens) cs) : dropSign cs = cs := by
  obtain ⟨behind, hdrop, hword, -⟩ := hspells.exists_of_name
  cases cs with
  | nil => rfl
  | cons c rest =>
    rw [dropSign, if_neg]
    intro hsign
    have hblank : ¬isBlank c = true ∧ ¬isNameStart c = true := by
      simp only [Bool.or_eq_true, beq_iff_eq] at hsign
      obtain rfl | rfl := hsign <;> decide
    rw [← hdrop, List.dropWhile_cons_of_neg hblank.1] at hword
    obtain ⟨d, tail, heq, hstart, -⟩ := exists_of_leadingName hword
    cases heq
    exact hblank.2 hstart

/-- Two names stand apart. There has to be white space between them, or they
    would be one name. -/
theorem exists_of_two_names {first second : String} {tokens : List Token} {cs : List Char}
    (hspells : Spells (.name first :: .name second :: tokens) cs) :
    ∃ behind, after? first.toList (cs.dropWhile isBlank) = some behind ∧
      (behind.head?.map isBlank).getD false = true ∧
        leadingName (behind.dropWhile isBlank) = some second.toList := by
  obtain ⟨behind, hdrop, hfirst, hbehind⟩ := hspells.exists_of_name
  obtain ⟨later, hdropBehind, hsecond, -⟩ := hbehind.exists_of_name
  refine ⟨behind, by rw [hdrop, after?_append], ?_, by rw [hdropBehind, hsecond]⟩
  obtain ⟨-, hend⟩ := leadingName_append.1 hfirst
  rw [← hdropBehind] at hsecond
  obtain ⟨c, rest, heq, hstart, -⟩ := exists_of_leadingName hsecond
  cases behind with
  | nil => cases heq
  | cons d tail =>
    refine Decidable.byContradiction fun hblank => ?_
    rw [List.dropWhile_cons_of_neg (by simpa using hblank)] at heq
    cases heq
    simp [isNameChar_of_isNameStart hstart] at hend

end Spells

/-- What may stand after the start of a tag or before its end: a sign for white
    space or nothing. -/
def AreSigns (signs : List Char) : Prop :=
  signs = [] ∨ ∃ sign ∈ ['+', '-'], signs = [sign]

/-- What counts as a sign at the start of a text is one. -/
theorem areSigns_take (cs : List Char) : AreSigns (cs.take (signLength cs)) := by
  cases cs with
  | nil => exact .inl rfl
  | cons c rest =>
    rw [signLength]
    split
    · next hsign => exact .inr ⟨c, by simpa [or_comm] using hsign, rfl⟩
    · exact .inl rfl

/-- Behind a sign the body is found, if it does not start with a sign itself. -/
theorem dropSign_append {signs body : List Char} (hsigns : AreSigns signs)
    (hbody : dropSign body = body) : dropSign (signs ++ body) = body := by
  obtain rfl | ⟨sign, hsign, rfl⟩ := hsigns
  · exact hbody
  · rw [List.singleton_append, dropSign, if_pos]
    simpa [or_comm] using hsign

/-- What the first words of a tag show is found in its text. The word for a
    further branch stands for a condition, which is found under another name. -/
theorem Tag.mem_features_of_tagShown {tag : Tag} {word : String} {more later : List Token}
    {stop : Token} {body cs : List Char} {feature : Feature} (hstatement : tag.isStatement = true)
    (hbody : tag.body = cs.take (signLength cs) ++ body) (hstop : stop.closes = true)
    (hspells : Spells (.name word :: more) body) (hdots : feature.isDotted = false)
    (hmem : feature ∈ tagShown word (more ++ stop :: later)) :
    feature = .statement "if" ∨ feature ∈ tag.features := by
  have hdrop : dropSign tag.body = body := by
    rw [hbody, dropSign_append (areSigns_take cs) hspells.dropSign_eq_self]
  have hkeyword : .statement word ∈ tag.features := by
    obtain ⟨behind, hbehind, hname, -⟩ := hspells.exists_of_name
    rw [← hbehind, ← hdrop] at hname
    have hfound := Tag.mem_features_of_keyword hstatement hname
    rwa [String.ofList_toList] at hfound
  unfold tagShown at hmem
  split at hmem
  · next hfilter =>
    subst hfilter
    obtain rfl | hshown := List.mem_cons.1 hmem
    · exact .inr hkeyword
    · obtain ⟨first, after, hwords, rfl⟩ := exists_of_mem_filterShown hshown
      obtain ⟨tokens, rfl⟩ := exists_of_append_eq_name hstop hwords
      obtain ⟨behind, hafter, hblank, hname⟩ := hspells.exists_of_two_names
      rw [← hdrop] at hafter
      have hfound := Tag.mem_features_of_filter hstatement hafter hblank hname
      rw [String.ofList_toList] at hfound
      rw [dottedFrom_eq_self (by simpa [Feature.isDotted] using hdots)]
      exact .inr hfound
  · split at hmem
    · exact .inl (List.mem_singleton.1 hmem)
    · split at hmem
      · rw [List.mem_singleton.1 hmem]
        exact .inr hkeyword
      · cases hmem

end PromptPacks.Template
