import PromptPacks.Proofs.Template.Blanking
import PromptPacks.Proofs.Template.Features

namespace PromptPacks.Template

open PromptPacks.Text

/-- A character that neither opens a string nor belongs to the end of a tag. -/
def IsNeutral (c : Char) : Prop :=
  isQuote c = false ∧ c ≠ '%' ∧ c ≠ '\x7d'

/-- Whatever is no quote and no end of a tag is neutral. A test that fails for
    the four characters is enough to know it. -/
theorem IsNeutral.of_test (p : Char → Bool)
    (hp : p '"' = false ∧ p '\'' = false ∧ p '%' = false ∧ p '\x7d' = false) {c : Char}
    (hc : p c = true) : IsNeutral c := by
  have hne : ∀ d, p d = false → c ≠ d := by
    rintro d hd rfl
    exact absurd hc (by simp [hd])
  obtain ⟨hdouble, hsingle, hpercent, hbrace⟩ := hp
  refine ⟨?_, hne _ hpercent, hne _ hbrace⟩
  rw [isQuote, Bool.or_eq_false_iff, beq_eq_false_iff_ne, beq_eq_false_iff_ne]
  exact ⟨hne _ hsingle, hne _ hdouble⟩

/-- A character that is no quote and does not start the end of the tag is part
    of the body. -/
theorem bodyLength?_cons {kind : Delimiter} {c : Char} {cs : List Char}
    (hquote : isQuote c = false) (hclosing : kind.closing.isPrefixOf (c :: cs) = false) :
    bodyLength? kind.closing 0 (c :: cs) = (bodyLength? kind.closing 0 cs).map (· + 1) := by
  rw [bodyLength?, if_neg (by simp [hclosing]), if_neg (by simp [hquote])]

/-- No end of a tag starts with a neutral character, neither that of an
    expression nor that of a statement. -/
theorem IsNeutral.isPrefixOf_eq_false {c : Char} (hneutral : IsNeutral c) (kind : Delimiter)
    (cs : List Char) : kind.closing.isPrefixOf (c :: cs) = false := by
  obtain ⟨-, hpercent, hbrace⟩ := hneutral
  cases kind with
  | expr => simp [Delimiter.closing, List.isPrefixOf, hbrace.symm]
  | tag => simp [Delimiter.closing, List.isPrefixOf, hpercent.symm]

/-- Neutral text is part of the body as a whole. -/
theorem bodyLength?_append (kind : Delimiter) {chunk : List Char}
    (hneutral : ∀ c ∈ chunk, IsNeutral c) (cs : List Char) :
    bodyLength? kind.closing 0 (chunk ++ cs) =
      (bodyLength? kind.closing 0 cs).map (· + chunk.length) := by
  induction chunk with
  | nil => simp
  | cons c chunk ih =>
    obtain ⟨hc, hchunk⟩ := List.forall_mem_cons.1 hneutral
    rw [List.cons_append, bodyLength?_cons hc.1 (hc.isPrefixOf_eq_false kind _), ih hchunk,
      Option.map_map]
    rfl

/-- A string that has been measured is passed without looking at it again. -/
theorem bodyLength?_passed (closing content cs : List Char) :
    bodyLength? closing content.length (content ++ cs) =
      (bodyLength? closing 0 cs).map (· + content.length) := by
  induction content with
  | nil => simp
  | cons c content ih =>
    rw [List.length_cons, List.cons_append, bodyLength?, ih, Option.map_map]
    rfl

/-- A string is part of the body as a whole, even if the end of a tag is in it.
    It is measured at its opening quote, and passed without being looked at. -/
theorem bodyLength?_quoted (kind : Delimiter) {quote : Char} (hquote : isQuote quote = true)
    {content cs : List Char}
    (hcontent : quotedLength? true quote (content ++ cs) = some content.length) :
    bodyLength? kind.closing 0 (quote :: content ++ cs) =
      (bodyLength? kind.closing 0 cs).map (· + (content.length + 1)) := by
  have hclosing : kind.closing.isPrefixOf (quote :: (content ++ cs)) = false := by
    have hne : quote ≠ '%' ∧ quote ≠ '\x7d' := by
      constructor <;> rintro rfl <;> exact absurd hquote (by decide)
    cases kind with
    | expr => simp [Delimiter.closing, List.isPrefixOf, hne.2.symm]
    | tag => simp [Delimiter.closing, List.isPrefixOf, hne.1.symm]
  rw [List.cons_append, bodyLength?, if_neg (by simp [hclosing]), if_pos hquote, hcontent]
  simp only [bodyLength?_passed, Option.map_map]
  rfl

/-- Text without quotes is kept when the strings are blanked. -/
theorem withoutStrings_append {chunk : List Char} (hquote : ∀ c ∈ chunk, isQuote c = false)
    (cs : List Char) : withoutStrings (chunk ++ cs) = chunk ++ withoutStrings cs := by
  induction chunk with
  | nil => rfl
  | cons c chunk ih =>
    obtain ⟨hc, hchunk⟩ := List.forall_mem_cons.1 hquote
    have hpart : stringPart? (c :: (chunk ++ cs)) = none := by
      rw [stringPart?, if_neg (by simp [hc])]
    rw [List.cons_append, List.cons_append, ← ih hchunk, withoutStrings, blankParts, hpart]
    rfl

/-- What has been marked is blanked without looking at it again. -/
theorem blankParts_pending (parts? : List Char → Option (List Bool)) (content cs : List Char) :
    blankParts parts? (List.replicate content.length true) (content ++ cs) =
      content.flatMap spaces ++ blankParts parts? [] cs := by
  induction content with
  | nil => rfl
  | cons c content ih =>
    rw [List.length_cons, List.replicate_succ, List.cons_append, blankParts, if_pos rfl, ih,
      List.flatMap_cons, List.append_assoc]

/-- A string is blanked with its quotes. -/
theorem withoutStrings_quoted {quote : Char} (hquote : isQuote quote = true)
    {content cs : List Char}
    (hcontent : quotedLength? false quote (content ++ cs) = some content.length) :
    withoutStrings (quote :: content ++ cs) =
      (quote :: content).flatMap spaces ++ withoutStrings cs := by
  have hpart : stringPart? (quote :: (content ++ cs)) =
      some (true :: List.replicate content.length true) := by
    rw [stringPart?, if_pos hquote, hcontent, Option.map_some, List.replicate_succ]
  rw [List.cons_append, withoutStrings, blankParts, hpart]
  simp only [if_true, blankParts_pending]
  rw [List.flatMap_cons, List.append_assoc, withoutStrings]

/-- Without a backslash a character ends the string or is part of it. -/
theorem stringLength?_cons {quote c : Char} (hc : c ≠ '\\') (rest : List Char) :
    stringLength? quote (c :: rest) =
      if c == quote then some 0 else (stringLength? quote rest).map (· + 1) := by
  rw [stringLength?]
  intro d tail hslash
  exact absurd hslash hc

/-- Both readers find the same end of a string. The scanner counts the closing
    quote. -/
theorem quotedLength?_eq {quote : Char} (hquote : isQuote quote = true) (cs : List Char) :
    quotedLength? true quote cs = (stringLength? quote cs).map (· + 1) := by
  have hne : ∀ c, (c == quote) = true → c ≠ '\\' := by
    rintro c hc rfl
    rw [← eq_of_beq hc] at hquote
    exact absurd hquote (by decide)
  fun_induction quotedLength? true quote cs with
  | case1 => rfl
  | case2 c hc => rw [stringLength?_cons (hne c hc), if_pos hc, Option.map_some]
  | case3 c hc =>
    by_cases hslash : c = '\\'
    · subst hslash
      simp [stringLength?, hc]
    · rw [stringLength?_cons hslash, if_neg hc]
      rfl
  | case4 c d rest hc => rw [stringLength?_cons (hne c hc), if_pos hc, Option.map_some]
  | case5 c d rest hc hslash hfeed => simp at hfeed
  | case6 c d rest hc hslash hfeed ih =>
    rw [eq_of_beq hslash, stringLength?, ih, Option.map_map, Option.map_map]
    rfl
  | case7 c d rest hc hslash ih =>
    rw [stringLength?_cons (by simpa using hslash), if_neg hc, ih, Option.map_map]

/-- A string has its closing quote within the text. -/
theorem quotedLength?_bounds {escapesLineFeed : Bool} {quote : Char} {cs : List Char} {n : Nat}
    (hlength : quotedLength? escapesLineFeed quote cs = some n) : 0 < n ∧ n ≤ cs.length := by
  obtain ⟨inner, behind, rfl, rfl⟩ := exists_of_quotedLength? hlength
  simp only [List.length_append, List.length_cons]
  omega

/-- What comes after a string does not matter for it. The search has not looked
    at it when it comes to the closing quote. -/
theorem quotedLength?_take {escapesLineFeed : Bool} {quote : Char} {cs : List Char} {n : Nat}
    (hlength : quotedLength? escapesLineFeed quote cs = some n) (more : List Char) :
    quotedLength? escapesLineFeed quote (cs.take n ++ more) = some n := by
  have hclose : ∀ rest, quotedLength? escapesLineFeed quote (quote :: rest) = some 1 := by
    intro rest
    cases rest <;> simp [quotedLength?]
  fun_induction quotedLength? escapesLineFeed quote cs generalizing n with
  | case1 => cases hlength
  | case2 c hc =>
    cases hlength
    rw [eq_of_beq hc]
    exact hclose more
  | case3 c hc => cases hlength
  | case4 c d rest hc =>
    cases hlength
    rw [eq_of_beq hc]
    exact hclose more
  | case5 c d rest hc hslash hfeed => cases hlength
  | case6 c d rest hc hslash hfeed ih =>
    obtain ⟨m, hm, rfl⟩ := Option.map_eq_some_iff.1 hlength
    rw [List.take_succ_cons, List.take_succ_cons, List.cons_append, List.cons_append,
      quotedLength?, if_neg hc, if_pos hslash, if_neg hfeed, ih hm, Option.map_some]
  | case7 c d rest hc hslash ih =>
    obtain ⟨m, hm, rfl⟩ := Option.map_eq_some_iff.1 hlength
    obtain ⟨k, rfl⟩ := Nat.exists_eq_add_of_lt (quotedLength?_bounds hm).1
    rw [Nat.zero_add] at hm ⊢
    have hih := ih hm
    rw [List.take_succ_cons, List.cons_append] at hih
    rw [List.take_succ_cons, List.take_succ_cons, List.cons_append, List.cons_append,
      quotedLength?, if_neg hc, if_neg hslash, hih, Option.map_some]

/-- Without escaped line feeds it does not matter whether they may be escaped.
    The two readers differ in nothing else. -/
theorem quotedLength?_false {quote : Char} {cs : List Char} (hfeeds : ¬['\\', '\n'] <:+: cs) :
    quotedLength? false quote cs = quotedLength? true quote cs := by
  fun_induction quotedLength? true quote cs with
  | case1 => rfl
  | case2 c hc => rw [quotedLength?, if_pos hc]
  | case3 c hc => rw [quotedLength?, if_neg hc]
  | case4 c d rest hc => rw [quotedLength?, if_pos hc]
  | case5 c d rest hc hslash hfeed => simp at hfeed
  | case6 c d rest hc hslash hfeed ih =>
    have hd : d ≠ '\n' := by
      rintro rfl
      rw [eq_of_beq hslash] at hfeeds
      exact hfeeds ⟨[], rest, rfl⟩
    rw [quotedLength?, if_neg hc, if_pos hslash, if_neg (by simp [hd])]
    rw [ih fun hpart => hfeeds (hpart.trans (List.suffix_append [c, d] rest).isInfix)]
  | case7 c d rest hc hslash ih =>
    rw [quotedLength?, if_neg hc, if_neg hslash]
    rw [ih fun hpart => hfeeds (hpart.trans (List.suffix_cons c _).isInfix)]

/-- The names after the bars of a text. -/
def barNames : List Char → List String
  | [] => []
  | c :: rest =>
    if c == '|' then
      ((leadingName (rest.dropWhile isBlank)).map String.ofList).toList ++ barNames rest
    else barNames rest

/-- The names behind bars, without their places. -/
theorem map_pipedNames (offset : Nat) (cs : List Char) :
    (pipedNames offset cs).map (·.value) = barNames cs := by
  induction cs generalizing offset with
  | nil => rfl
  | cons c rest ih =>
    rw [pipedNames, barNames]
    split
    · rw [List.map_append, ih, locatedName?]
      cases leadingName (rest.dropWhile isBlank) <;> rfl
    · exact ih _

/-- A bar that is found in a text is found behind any other text as well. -/
theorem mem_barNames_append {word : String} {cs : List Char} (hword : word ∈ barNames cs)
    (chunk : List Char) : word ∈ barNames (chunk ++ cs) := by
  induction chunk with
  | nil => exact hword
  | cons c chunk ih =>
    rw [List.cons_append, barNames]
    split
    · exact List.mem_append_right _ ih
    · exact ih

/-- The name behind a bar is found, with or without white space between them. -/
theorem mem_barNames_bar {word cs : List Char}
    (hword : leadingName (cs.dropWhile isBlank) = some word) :
    String.ofList word ∈ barNames ('|' :: cs) := by
  rw [barNames, if_pos (beq_self_eq_true _), hword]
  exact List.mem_append_left _ (List.mem_singleton_self _)

/-- The features that the scanner finds in a tag. -/
def Tag.features (tag : Tag) : List Feature :=
  (tag.keyword?.map fun word => .statement word.value).toList ++
    tag.filters.map fun word => .filter word.value

variable {tag : Tag}

/-- A name behind a bar is a filter of the tag. -/
theorem Tag.mem_features_of_bar {word : String} (hword : word ∈ barNames tag.body) :
    .filter word ∈ tag.features := by
  rw [← map_pipedNames tag.offset] at hword
  obtain ⟨located, hmem, rfl⟩ := List.mem_map.1 hword
  exact List.mem_append_right _ (List.mem_map_of_mem (List.mem_append_right _ hmem))

/-- The first word of a tag is its statement. -/
theorem Tag.mem_features_of_keyword {word : List Char} (hstatement : tag.isStatement = true)
    (hword : leadingName ((dropSign tag.body).dropWhile isBlank) = some word) :
    .statement (String.ofList word) ∈ tag.features := by
  refine List.mem_append_left _ ?_
  rw [Tag.keyword?, if_pos hstatement, locatedName?, hword]
  exact List.mem_singleton_self _

/-- The word behind the one for a filter block is a filter of the tag, too. -/
theorem Tag.mem_features_of_filter {word behind : List Char} (hstatement : tag.isStatement = true)
    (hbehind : after? "filter".toList ((dropSign tag.body).dropWhile isBlank) = some behind)
    (hblank : (behind.head?.map isBlank).getD false = true)
    (hword : leadingName (behind.dropWhile isBlank) = some word) :
    .filter (String.ofList word) ∈ tag.features := by
  obtain ⟨offset, hfilter⟩ : ∃ offset, tag.blockFilter? = some ⟨String.ofList word, offset⟩ := by
    rw [Tag.blockFilter?, if_pos hstatement, hbehind]
    simp only [hblank, if_true, locatedName?, hword, Option.map_some]
    exact ⟨_, rfl⟩
  have hmem : (⟨String.ofList word, offset⟩ : Located String) ∈ tag.filters := by
    rw [Tag.filters, hfilter]
    exact List.mem_append_left _ (List.mem_singleton_self _)
  exact List.mem_append_right _ (List.mem_map.2 ⟨_, hmem, rfl⟩)

/-- The scanner finds a feature in a text, at whatever offset the text stands. -/
def IsFound (feature : Feature) (cs : List Char) : Prop :=
  ∀ offset, ∃ tag ∈ tagsFrom 0 offset cs, feature ∈ tag.features

/-- Characters that belong to a tag are passed. Only the places of later tags
    depend on them. -/
theorem tagsFrom_eq_drop (n offset : Nat) (cs : List Char) :
    ∃ behind, tagsFrom n offset cs = tagsFrom 0 behind (cs.drop n) := by
  induction cs generalizing n offset with
  | nil => exact ⟨0, by simp [tagsFrom]⟩
  | cons c rest ih =>
    cases n with
    | zero => exact ⟨offset, rfl⟩
    | succ n => exact ih n _

/-- Where no delimiter opens, no tag does. -/
theorem opening?_eq_none {cs : List Char} (hopens : opens cs = false) : opening? cs = none := by
  unfold opening?
  split
  · cases hopens
  · cases hopens
  · rfl

/-- No tag starts before the next opening delimiter. -/
theorem tagsFrom_leadLength (offset : Nat) (cs : List Char) :
    ∃ behind, tagsFrom 0 offset cs = tagsFrom 0 behind (cs.drop (leadLength cs)) := by
  induction cs generalizing offset with
  | nil => exact ⟨offset, rfl⟩
  | cons c rest ih =>
    rw [leadLength]
    split
    · exact ⟨offset, rfl⟩
    · next hopens =>
      rw [tagsFrom, opening?_eq_none (by simpa using hopens)]
      exact ih _

/-- No tag starts in white space, so what a sign takes off the text hides none. -/
theorem tagsFrom_blank {n : Nat} {cs : List Char} (hblank : ∀ c ∈ cs.take n, isBlank c = true)
    (offset : Nat) : ∃ behind, tagsFrom 0 offset cs = tagsFrom 0 behind (cs.drop n) := by
  induction n generalizing offset cs with
  | zero => exact ⟨offset, rfl⟩
  | succ n ih =>
    cases cs with
    | nil => exact ⟨offset, rfl⟩
    | cons c rest =>
      rw [List.take_succ_cons, List.forall_mem_cons] at hblank
      have hopens : opens (c :: rest) = false := by
        unfold opens
        split
        · next heq =>
          cases heq
          exact absurd hblank.1 (by decide)
        · rfl
      rw [tagsFrom, opening?_eq_none hopens]
      exact ih hblank.2 _

/-- A tag is found where it opens, with its body blanked, and the search goes on
    behind its end. -/
theorem tagsFrom_opening {c : Char} {rest : List Char} {isStatement : Bool} {length : Nat}
    (hopening : opening? (c :: rest) = some (isStatement, length)) (offset : Nat) :
    ∃ place behind, tagsFrom 0 offset (c :: rest) =
      ⟨isStatement, withoutStrings ((rest.drop 1).take length), place⟩ ::
        tagsFrom 0 behind (rest.drop (length + 3)) := by
  obtain ⟨behind, htags⟩ := tagsFrom_eq_drop (length + 3) (offset + c.utf8Size) rest
  rw [tagsFrom, hopening]
  exact ⟨_, behind, congrArg (List.cons _) htags⟩

/-- A text without any of the parts is not blanked at all. In templates without
    comments and raw blocks the masked text is the text. -/
theorem blankParts_eq_self {parts? : List Char → Option (List Bool)} {cs : List Char}
    (hparts : ∀ rest, rest <:+ cs → parts? rest = none) : blankParts parts? [] cs = cs := by
  induction cs with
  | nil => rfl
  | cons c rest ih =>
    rw [blankParts, hparts _ (List.suffix_refl _)]
    simp only
    rw [ih fun other hsuffix => hparts other (hsuffix.trans (List.suffix_cons c rest))]

end PromptPacks.Template
