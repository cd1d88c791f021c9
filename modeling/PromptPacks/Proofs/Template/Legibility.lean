import PromptPacks.Proofs.Template.Agreement
import PromptPacks.Proofs.Template.CallText

namespace PromptPacks.Template

open PromptPacks.Text

section

variable {name : String} {free : Bool}

/-- What comes after the end of a tag does not matter for the calls in it, as no
    call reaches over the end. -/
theorem showsCall_append {inner words : List Token} {stop : Token} (hstop : stop.closes = true) :
    ShowsCall name free (inner ++ stop :: words) ↔
      ShowsCall name free inner ∨ ShowsCall name true words := by
  have hname : ∀ word, stop ≠ .name word := by rintro word rfl; cases hstop
  have hparen : stop ≠ .symbol .parenOpen := by rintro rfl; cases hstop
  induction inner generalizing free with
  | nil =>
    have hframe : stop.frees free = true := by cases stop <;> first | rfl | cases hstop
    simp [ShowsCall, isCalled_cons, hname, hframe]
  | cons token inner ih =>
    have hhead : (inner ++ stop :: words).head? = some (.symbol .parenOpen) ↔
        inner.head? = some (.symbol .parenOpen) := by
      cases inner <;> simp [hparen]
    rw [List.cons_append, ShowsCall, ShowsCall, isCalled_cons, isCalled_cons, hhead,
      or_assoc]
    exact or_congr_right ih

/-- Texts and strings do not matter, as long as they hide nothing. A string
    between a name and parentheses would. -/
theorem showsCall_filter {words : List Token}
    (hhides : ∀ rest, .name name :: rest <:+ words → hidesCallee rest = false) :
    ShowsCall name free (words.filter Token.isSeen) ↔ ShowsCall name free words := by
  induction words generalizing free with
  | nil => rfl
  | cons token words ih =>
    have hrest := @ih (token.frees free) fun rest hsuffix =>
      hhides rest (hsuffix.trans (List.suffix_cons token words))
    by_cases hseen : token.isSeen = true
    · rw [List.filter_cons_of_pos hseen, ShowsCall, ShowsCall, isCalled_cons, isCalled_cons, hrest]
      refine or_congr_left (and_congr_right fun _ => and_congr_right ?_)
      rintro rfl
      have hnone := hhides words (List.suffix_refl _)
      rw [hidesCallee, Bool.and_eq_false_iff, bne_eq_false_iff_eq, beq_eq_false_iff_ne] at hnone
      refine ⟨fun hhead => hnone.resolve_right (fun hne => hne hhead), fun hhead => ?_⟩
      obtain ⟨later, rfl⟩ := List.head?_eq_some_iff.1 hhead
      rfl
    · have hname : token ≠ .name name := by rintro rfl; exact hseen rfl
      have hframe : token.frees free = free := if_neg hseen
      rw [hframe] at hrest
      rw [List.filter_cons_of_neg hseen, hrest, ShowsCall, isCalled_cons, hframe]
      simp [hname]

end

/-- A token in which the word for a further branch has its usual spelling. -/
def Token.usual : Token → Token
  | .name word => .name (if word = "elsif" then "elif" else word)
  | token => token

section

variable {token : Token}

/-- Two spellings of a word are seen alike. -/
theorem Token.isSeen_usual : token.usual.isSeen = token.isSeen := by
  cases token <;> rfl

/-- The usual spelling changes no symbols. -/
theorem Token.usual_eq_symbol {sign : Symbol} :
    token.usual = .symbol sign ↔ token = .symbol sign := by
  cases token <;> simp [Token.usual]

/-- The usual spelling changes no names apart from words of the language. -/
theorem Token.usual_eq_name {name : String} (hname : name ∉ languageWords) :
    token.usual = .name name ↔ token = .name name := by
  have hlong : name ≠ "elsif" := by rintro rfl; exact hname (by decide)
  have hshort : name ≠ "elif" := by rintro rfl; exact hname (by decide)
  cases token with
  | name word =>
    rw [Token.usual]
    split
    · next hword => simp [hword, hlong.symm, hshort.symm]
    · rfl
  | _ => simp [Token.usual]

/-- What is spelled like a word in the usual way is a name, and a supported
    statement only if the word is. -/
theorem exists_of_usual_eq {word : String} (husual : token.usual = (Token.name word).usual) :
    ∃ other, token = .name other ∧ (other ∈ supportedStatements → word ∈ supportedStatements) := by
  cases token with
  | name other =>
    have hspelling := Token.name.inj husual
    refine ⟨other, rfl, fun hother => ?_⟩
    by_cases hword : word = "elsif"
    · rw [hword]
      decide
    · rw [if_neg hword] at hspelling
      rw [← hspelling]
      split
      · decide
      · exact hother
  | _ => cases husual

/-- Calls of a name do not depend on the spelling of the words of the language.
    The name must not be one of these words itself. -/
theorem showsCall_map_usual {name : String} {free : Bool} {words : List Token}
    (hname : name ∉ languageWords) :
    ShowsCall name free (words.map Token.usual) ↔ ShowsCall name free words := by
  induction words generalizing free with
  | nil => rfl
  | cons token words ih =>
    have hframe : token.usual.frees free = token.frees free := by
      rw [Token.frees, Token.frees, Token.isSeen_usual]
      split
      · exact Bool.eq_iff_iff.2 (by simp [Token.usual_eq_symbol])
      · rfl
    have hhead : (words.map Token.usual).head? = some (.symbol .parenOpen) ↔
        words.head? = some (.symbol .parenOpen) := by
      cases words <;> simp [Token.usual_eq_symbol]
    rw [List.map_cons, ShowsCall, ShowsCall, isCalled_cons, isCalled_cons,
      Token.usual_eq_name hname, hhead, hframe, ih]

end

section

variable {name : List Char} {sign : Char} {signs : List Char}

/-- A sign is no part of a name, and a name is free behind it. -/
theorem of_mem_signs (hsign : sign ∈ ['+', '-']) :
    isNameStart sign = false ∧ isNameChar sign = false ∧ isBlank sign = false ∧
      freesAfter sign = true ∧ sign ≠ '(' := by
  obtain rfl | rfl : sign = '+' ∨ sign = '-' := by simpa using hsign
  all_goals exact ⟨rfl, rfl, rfl, rfl, by decide⟩

/-- A sign at the end of a text calls nothing. It is no parenthesis, and the
    blanks before it do not hide one. -/
theorem standsCalled_append (hname : leadingName name = some name) (hsigns : AreSigns signs)
    (cs : List Char) : StandsCalled name (cs ++ signs) ↔ StandsCalled name cs := by
  obtain rfl | ⟨sign, hsign, rfl⟩ := hsigns
  · rw [List.append_nil]
  obtain ⟨-, hchar, hblank, -, hparen⟩ := of_mem_signs hsign
  have hhead (behind : List Char) : ((behind ++ [sign]).dropWhile isBlank).head? = some '(' ↔
      (behind.dropWhile isBlank).head? = some '(' := by
    rw [List.dropWhile_append]
    cases behind.dropWhile isBlank with
    | nil => simp [hblank, hparen]
    | cons c rest => rfl
  constructor
  · rintro ⟨behind, hafter, hbehind⟩
    obtain ⟨more, rfl, hmore⟩ | ⟨more, rfl, rfl⟩ :=
      List.append_eq_append_iff.1 (eq_append_of_after? hafter)
    · cases more with
      | nil =>
        obtain rfl : behind = [sign] := hmore.symm
        exact absurd ((hhead []).1 hbehind) nofun
      | cons c more =>
        obtain ⟨rfl, hnil⟩ := List.cons.inj hmore
        rw [isNameChar_of_leadingName hname sign (by simp)] at hchar
        cases hchar
    · exact ⟨more, after?_append name more, (hhead more).1 hbehind⟩
  · rintro ⟨behind, hafter, hbehind⟩
    obtain rfl := eq_append_of_after? hafter
    exact ⟨behind ++ [sign], by rw [List.append_assoc, after?_append], (hhead behind).2 hbehind⟩

/-- Nothing is called in the empty text. -/
theorem not_standsCalled_nil (hname : leadingName name = some name) : ¬StandsCalled name [] :=
  fun hcalled => by
    obtain ⟨c, rest, behind, hcons, -⟩ := exists_of_standsCalled hname hcalled
    cases hcons

/-- A sign at the end of a text makes no call, and it hides none. The search
    looks at every place of the text, so each of them has to be compared. -/
theorem isSome_callOffset?_signs {isFree : Bool} (hname : leadingName name = some name)
    (hsigns : AreSigns signs) (cs : List Char) :
    (callOffset? name isFree (cs ++ signs)).isSome = true ↔
      (callOffset? name isFree cs).isSome = true := by
  have hsome : name ≠ [] := by
    rintro rfl
    cases hname
  induction cs generalizing isFree with
  | nil =>
    obtain rfl | ⟨sign, hsign, rfl⟩ := hsigns
    · rfl
    · have hcalled := standsCalled_append hname (.inr ⟨sign, hsign, rfl⟩) []
      rw [List.nil_append] at hcalled ⊢
      rw [isSome_callOffset?_cons, hcalled]
      simp [not_standsCalled_nil hname, isSome_callOffset?_nil hsome]
  | cons c cs ih =>
    have hcalled := standsCalled_append hname hsigns (c :: cs)
    rw [List.cons_append] at hcalled ⊢
    rw [isSome_callOffset?_cons, isSome_callOffset?_cons, hcalled]
    exact or_congr_right ih

/-- Signs around a text hide no call and make none. So the signs of a tag can be
    left out. -/
theorem isSome_callOffset?_between {lead trail : List Char} (hname : leadingName name = some name)
    (hlead : AreSigns lead) (htrail : AreSigns trail) (cs : List Char) :
    (callOffset? name true (lead ++ (cs ++ trail))).isSome = true ↔
      (callOffset? name true cs).isSome = true := by
  rw [← isSome_callOffset?_signs hname htrail cs]
  obtain rfl | ⟨sign, hsign, rfl⟩ := hlead
  · rfl
  · obtain ⟨hstart, -, -, hfree, -⟩ := of_mem_signs hsign
    have hnot : ¬StandsCalled name (sign :: (cs ++ trail)) := fun hcalled => by
      obtain ⟨c, rest, behind, hcons, -, -, hchar, -⟩ := exists_of_standsCalled hname hcalled
      cases hcons
      rw [hchar] at hstart
      cases hstart
    rw [List.singleton_append, isSome_callOffset?_cons, or_iff_right fun hhere => hnot hhere.2,
      hfree]

/-- What sets a name apart in the body of a tag does so between its signs. A
    sign only stands at either end of the text, and neither hides nor makes a
    call there. -/
theorem SetsApart.between {name : String} {lead trail cs : List Char}
    (hname : leadingName name.toList = some name.toList) (htrail : AreSigns trail)
    (hapart : SetsApart name (lead ++ (cs ++ trail))) : SetsApart name cs := by
  have hsuffix := hapart.suffix (List.suffix_append lead (cs ++ trail))
  refine ⟨fun rest hrest hcalled => ?_, fun hhead letter hletter sign hsign hfound => ?_⟩
  · have hsome : rest.dropWhile isBlank ≠ [] := fun hnil =>
      not_standsCalled_nil hname (hnil ▸ hcalled)
    have hdrop : (rest ++ trail).dropWhile isBlank = rest.dropWhile isBlank ++ trail := by
      rw [List.dropWhile_append, if_neg (by simpa using hsome)]
    have hself := hsuffix.point (rest ++ trail) ?_ ?_
    · rw [hdrop] at hself
      exact List.append_cancel_right hself
    · obtain ⟨before, rfl⟩ := hrest
      exact ⟨before, by simp⟩
    · rw [hdrop]
      exact (standsCalled_append hname htrail _).2 hcalled
  · exact hsuffix.exponent hhead letter hletter sign hsign
      (hfound.trans (List.prefix_append cs trail).isInfix)

end

def Tag.kind (tag : Tag) : Delimiter :=
  if tag.isStatement then .tag else .expr

/-- The end of a tag closes it, whichever of the two kinds it is. -/
theorem Tag.closes_endToken (tag : Tag) : tag.kind.endToken.closes = true := by
  cases tag.kind <;> rfl

/-- Whether the text of a tag, signs for white space aside, consists of some
    tokens. -/
def Tag.Shows (tag : Tag) (words : List Token) : Prop :=
  ∃ lead text trail, tag.body = lead ++ (text ++ trail) ∧ AreSigns lead ∧ AreSigns trail ∧
    Written words text

/-- Tags with the tokens of all of them. The tags around a raw block may have
    none, as they have none for the reader of a template. -/
inductive Shown : List Tag → List Token → Prop where
  | done : Shown [] []
  | raw {tag : Tag} {word : String} {tags : List Tag} {words : List Token}
    (htag : tag.Shows [.name word]) (hshown : Shown tags words) : Shown (tag :: tags) words
  | tag {tag : Tag} {inner : List Token} {tags : List Tag} {words : List Token}
    (htag : tag.Shows inner) (hshown : Shown tags words) :
    Shown (tag :: tags) (tag.kind.startToken :: (inner ++ tag.kind.endToken :: words))

/-- The tokens of a template without its texts and strings, which the scanner
    does not see. -/
def seenWords (source : List Char) : List Token :=
  ((wordsFrom .text (respell source)).filter Token.isSeen).map Token.usual

/-- A template whose tags the scanner and the reader see alike: the tags that
    the scanner finds consist of the tokens that the reader finds. -/
def IsLegible (source : List Char) : Prop :=
  ∃ words, Shown (tagsOf source) words ∧ words.map Token.usual = seenWords source

/-- A name that the tokens of a template and the texts of its tags show to be
    called, or not to be, in the same places. -/
structure IsUnmistakable (name : String) (source : List Char) : Prop where
  clear : IsClear name (wordsFrom .text (respell source))
  numbers : AvoidsNumbers name (seenWords source)
  apart : ∀ tag ∈ tagsOf source, SetsApart name tag.body

instance (name : String) : DecidablePred (IsUnmistakable name) := fun source =>
  decidable_of_iff (IsClear name (wordsFrom .text (respell source)) ∧
      AvoidsNumbers name (seenWords source) ∧ ∀ tag ∈ tagsOf source, SetsApart name tag.body)
    ⟨fun ⟨hclear, hnumbers, hapart⟩ => ⟨hclear, hnumbers, hapart⟩,
      fun ⟨hclear, hnumbers, hapart⟩ => ⟨hclear, hnumbers, hapart⟩⟩

section

variable {name : String} {tag : Tag} {tags : List Tag} {words : List Token} {source : List Char}

/-- The scanner finds a call in a tag exactly if the tokens of the tag show
    one. -/
theorem Tag.Shows.isSome_callOffset?_iff (hname : leadingName name.toList = some name.toList)
    (hshows : tag.Shows words) (hapart : SetsApart name tag.body)
    (hnumbers : AvoidsNumbers name words) :
    (callOffset? name.toList true tag.body).isSome = true ↔ ShowsCall name true words := by
  obtain ⟨lead, text, trail, hbody, hlead, htrail, hwritten⟩ := hshows
  rw [hbody] at hapart ⊢
  rw [isSome_callOffset?_between hname hlead htrail]
  exact hwritten.isSome_callOffset?_iff hname (hapart.between hname htrail) hnumbers
    (fun _ _ => rfl) nofun

/-- The scanner finds a call in one of the tags exactly if their tokens show
    one. The induction is on the tags, since no call reaches over the end of
    one. -/
theorem Shown.exists_callOffset?_iff (hname : leadingName name.toList = some name.toList)
    (hshown : Shown tags words) (hapart : ∀ tag ∈ tags, SetsApart name tag.body)
    (hnumbers : AvoidsNumbers name words) :
    (∃ tag ∈ tags, (callOffset? name.toList true tag.body).isSome = true) ↔
      ShowsCall name true words := by
  induction hshown with
  | done => simp [ShowsCall]
  | @raw tag word tags words htag _ ih =>
    obtain ⟨htagApart, hapart⟩ := List.forall_mem_cons.1 hapart
    have hnot : ¬ShowsCall name true [.name word] := by simp [ShowsCall, isCalled_cons]
    have halone : AvoidsNumbers name [.name word] := by simp [AvoidsNumbers, Token.isNumber]
    rw [List.exists_mem_cons_iff, htag.isSome_callOffset?_iff hname htagApart halone,
      or_iff_right hnot, ih hapart hnumbers]
  | @tag tag inner tags words htag _ ih =>
    obtain ⟨htagApart, hapart⟩ := List.forall_mem_cons.1 hapart
    have hstart : tag.kind.startToken ≠ .name name ∧ tag.kind.startToken.frees true = true := by
      cases tag.kind <;> exact ⟨by simp [Delimiter.startToken], rfl⟩
    have hinner : AvoidsNumbers name inner := hnumbers.part
      ⟨[tag.kind.startToken], tag.kind.endToken :: words, by simp⟩
    have hlater : AvoidsNumbers name words := hnumbers.part
      ⟨tag.kind.startToken :: inner ++ [tag.kind.endToken], [], by simp⟩
    rw [List.exists_mem_cons_iff, htag.isSome_callOffset?_iff hname htagApart hinner,
      ih hapart hlater, ShowsCall, isCalled_cons, hstart.2, showsCall_append tag.closes_endToken]
    simp [hstart.1]

/-- Whether a name touches numbers does not depend on the spelling of other
    words. -/
theorem AvoidsNumbers.of_map_usual (hlanguage : name ∉ languageWords)
    (havoids : AvoidsNumbers name (words.map Token.usual)) : AvoidsNumbers name words := by
  intro token hmem hnumber hfound
  have hself : token.usual = token := by cases token <;> first | rfl | cases hnumber
  have hpair := hfound.map Token.usual
  rw [List.map_cons, List.map_singleton, hself, (Token.usual_eq_name hlanguage).2 rfl] at hpair
  exact havoids token (hself ▸ List.mem_map_of_mem hmem) hnumber hpair

/-- A call is placed exactly if some tag has one. -/
theorem isSome_callPlace? :
    (callPlace? source name).isSome = true ↔
      ∃ tag ∈ tagsOf source, (callOffset? name.toList true tag.body).isSome = true := by
  simp [callPlace?, List.findSome?_isSome_iff]

/-- The scanner finds a call of an unmistakable name exactly if the tokens show
    one. Nothing is said of names that could be mistaken for something else. -/
theorem IsLegible.isSome_callPlace?_iff (hname : leadingName name.toList = some name.toList)
    (hlanguage : name ∉ languageWords) (hlegible : IsLegible source)
    (hunmistakable : IsUnmistakable name source) :
    (callPlace? source name).isSome = true ↔
      ShowsCall name true (wordsFrom .text (respell source)) := by
  obtain ⟨words, hshown, hwords⟩ := hlegible
  obtain ⟨hclear, hnumbers, hapart⟩ := hunmistakable
  have hseen : ShowsCall name true (seenWords source) ↔
      ShowsCall name true (wordsFrom .text (respell source)) := by
    rw [seenWords, showsCall_map_usual hlanguage,
      showsCall_filter fun rest hsuffix => (hclear.callee rest hsuffix).2]
  rw [← hwords] at hnumbers hseen
  have hseenNumbers := hnumbers.of_map_usual hlanguage
  rw [isSome_callPlace?, hshown.exists_callOffset?_iff hname hapart hseenNumbers, ← hseen,
    showsCall_map_usual hlanguage]

end

/-- No token within a tag starts another one. -/
theorem TokenText.ne_tagStart {token : Token} {chunk cs : List Char}
    (htext : TokenText cs token chunk) : token ≠ .tagStart := by
  rintro rfl
  cases htext with
  | numeral hnumber => cases hnumber

namespace Written

variable {words : List Token} {cs : List Char}

/-- The same for all tokens of a written text. -/
theorem ne_tagStart (hwritten : Written words cs) : ∀ token ∈ words, token ≠ .tagStart := by
  induction hwritten with
  | done => simp
  | blank _ _ ih => exact ih
  | token htext _ ih => exact List.forall_mem_cons.2 ⟨htext.ne_tagStart, ih⟩

/-- What tokens are written as also spells them, with a sign for white space
    behind it. -/
theorem spells {signs : List Char} (hwritten : Written words cs) (hsigns : AreSigns signs) :
    Spells words (cs ++ signs) := by
  induction hwritten with
  | done =>
    obtain rfl | ⟨sign, -, rfl⟩ := hsigns
    · exact .done
    · exact .sign sign
  | blank hblank _ ih => exact .blank (isBlank_of_isAsciiBlank hblank) ih
  | @token words token chunk cs htext _ ih =>
    rw [List.append_assoc]
    cases htext with
    | @single c sign hsign =>
      by_cases hpipe : sign = .pipe
      · subst hpipe
        rw [eq_bar_of_singleSymbol? hsign]
        exact .bar ih
      · exact .other (by simpa [Token.isOther] using hpipe) [c] ih
    | @double c d sign hsign => exact .other (isNeutral_of_doubleSymbol? hsign).1 [c, d] ih
    | numeral hnumber =>
      refine .other ?_ chunk ih
      cases token <;> first | rfl | cases hnumber
    | name hword =>
      obtain ⟨hself, hends⟩ := leadingName_append.1 hword
      refine .name (leadingName_append.2 ⟨hself, ?_⟩) ih
      cases cs with
      | nil =>
        obtain rfl | ⟨sign, hsign, rfl⟩ := hsigns
        · rfl
        · exact List.takeWhile_cons_of_neg (by simp [(of_mem_signs hsign).2.1])
      | cons c rest => simpa [List.takeWhile_cons] using hends

end Written

/-- Whether a token that follows another one is allowed as the name of a
    statement. -/
def StartsSupported (token next : Token) : Prop :=
  token = .tagStart → ∀ word, next = .name word → word ∈ supportedStatements

section

variable {tag : Tag} {tags : List Tag} {words : List Token} {source : List Char}

/-- The first word of a statement is the one that the scanner takes for its
    name. -/
theorem Tag.Shows.exists_keyword? {word : String} (hshows : tag.Shows (.name word :: words))
    (hstatement : tag.isStatement = true) :
    ∃ found, tag.keyword? = some found ∧ found.value = word := by
  obtain ⟨lead, text, trail, hbody, hlead, htrail, hwritten⟩ := hshows
  have hspells := hwritten.spells htrail
  obtain ⟨behind, hbehind, hword, -⟩ := hspells.exists_of_name
  rw [Tag.keyword?, if_pos hstatement, hbody, dropSign_append hlead hspells.dropSign_eq_self,
    hbehind, locatedName?, hword]
  exact ⟨_, rfl, String.ofList_toList⟩

/-- The tokens of a tag start supported statements only, if the scanner has
    found a supported one. -/
theorem Tag.Shows.isChain (hshows : tag.Shows words)
    (hstatement : ∀ found, tag.keyword? = some found → found.value ∈ supportedStatements) :
    List.IsChain StartsSupported (tag.kind.startToken :: (words ++ [tag.kind.endToken])) := by
  have hend : tag.kind.endToken ≠ .tagStart ∧ ∀ word, tag.kind.endToken ≠ .name word := by
    cases tag.kind <;> exact ⟨nofun, nofun⟩
  refine List.isChain_cons.2 ⟨fun next hnext hstart word hword => ?_, ?_⟩
  · have htag : tag.isStatement = true := by
      cases hflag : tag.isStatement with
      | true => rfl
      | false =>
        rw [Tag.kind, hflag] at hstart
        cases hstart
    cases words with
    | nil =>
      cases hnext
      exact absurd hword (hend.2 word)
    | cons token words =>
      cases hnext
      subst hword
      obtain ⟨found, hfound, rfl⟩ := hshows.exists_keyword? htag
      exact hstatement found hfound
  · obtain ⟨lead, text, trail, -, -, -, hwritten⟩ := hshows
    refine (List.pairwise_of_forall_mem_list fun token htoken _ _ hstart => ?_).isChain
    obtain htoken | htoken := List.mem_append.1 htoken
    · exact absurd hstart (hwritten.ne_tagStart token htoken)
    · rw [List.mem_singleton.1 htoken] at hstart
      exact absurd hstart hend.1

/-- The same for all tags together. Between two tags no statement starts, so the
    chain is not broken there. -/
theorem Shown.isChain (hshown : Shown tags words)
    (hstatements : ∀ tag ∈ tags, ∀ found, tag.keyword? = some found →
      found.value ∈ supportedStatements) : List.IsChain StartsSupported words := by
  induction hshown with
  | done => exact .nil
  | raw _ _ ih => exact ih (List.forall_mem_cons.1 hstatements).2
  | @tag tag inner tags words htag _ ih =>
    obtain ⟨hstatement, hstatements⟩ := List.forall_mem_cons.1 hstatements
    rw [List.append_cons, ← List.cons_append]
    refine List.isChain_append.2 ⟨htag.isChain hstatement, ih hstatements, ?_⟩
    intro token htoken next _ hstart
    rw [← List.cons_append, List.getLast?_concat, Option.mem_some] at htoken
    rw [← htoken] at hstart
    cases hkind : tag.kind <;> rw [hkind] at hstart <;> cases hstart

/-- Where the scanner has found supported statements only, the reader sees no
    others. This is what makes the grammar of calls complete for such
    templates. -/
theorem IsLegible.areSupported (hlegible : IsLegible source)
    (hstatements : ∀ found ∈ scannedStatements source, found.value ∈ supportedStatements) :
    AreSupported (wordsFrom .text (respell source)) := by
  obtain ⟨words, hshown, hwords⟩ := hlegible
  have hchain := hshown.isChain fun tag hmem found hfound =>
    hstatements found (List.mem_filterMap.2 ⟨tag, hmem, hfound⟩)
  have husual : List.IsChain
      (fun token next => token = .tagStart → ∀ word, next = (Token.name word).usual →
        word ∈ supportedStatements) (seenWords source) := by
    rw [← hwords]
    refine (List.isChain_map Token.usual).2 ?_
    refine hchain.imp fun token next hstarts hstart word hword => ?_
    obtain ⟨other, rfl, hother⟩ := exists_of_usual_eq hword
    refine hother (hstarts ?_ other rfl)
    cases token <;> first | rfl | cases hstart
  intro word hfound
  have hkept := (hfound.filter Token.isSeen).map Token.usual
  have hpair := List.isChain_cons_cons.1 <| List.IsChain.infix husual hkept
  exact hpair.1 rfl word rfl

end

end PromptPacks.Template
