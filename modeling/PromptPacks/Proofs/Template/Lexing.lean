import Mathlib.Data.List.Chain
import PromptPacks.Proofs.Template.Wording

namespace PromptPacks.Template

open PromptPacks.Number PromptPacks.Text

/-- The tokens of a text without their places. -/
def wordsFrom (mode : Mode) (cs : List Char) : List Token :=
  (tokensFrom mode 0 cs).tokens.map (·.value)

/-- Where a text stands does not matter for its tokens. The offset only goes
    into the places that the tokens are reported with. -/
theorem map_tokensFrom (mode : Mode) (offset other : Nat) (cs : List Char) :
    (tokensFrom mode offset cs).tokens.map (·.value) =
      (tokensFrom mode other cs).tokens.map (·.value) := by
  fun_induction tokensFrom mode offset cs generalizing other with
  | case1 => rw [tokensFrom]
  | case2 mode offset c rest fault position hstep => rw [tokensFrom, hstep]
  | case3 mode offset c rest extra next after hstep ih =>
    rw [tokensFrom, hstep]
    exact ih _
  | case4 mode offset c rest extra next after start token hstep ih =>
    rw [tokensFrom, hstep]
    exact congrArg (token :: ·) (ih _)

/-- Nothing comes of the empty text, in any mode. An open tag is not closed by
    it, either. -/
theorem wordsFrom_nil (mode : Mode) : wordsFrom mode [] = [] := by
  rw [wordsFrom, tokensFrom]
  rfl

section Step

variable {mode next : Mode} {c : Char} {rest : List Char}

/-- There are no tokens from a fault on. The fault itself is no part of the
    tokens, so that no statement about them has to speak of it. -/
theorem wordsFrom_of_stop {fault : ParseFault} {position : Option Nat}
    (hstep : step mode c rest = .stop fault position) : wordsFrom mode (c :: rest) = [] := by
  rw [wordsFrom, tokensFrom, hstep]
  rfl

/-- A step adds its token, if it has one, and leaves the rest to the mode it comes
    to. Every induction over the tokens of a text goes by this equation. -/
theorem wordsFrom_of_pass {token : Option (Nat × Token)} {extra : Nat}
    (hstep : step mode c rest = .pass token extra next) :
    wordsFrom mode (c :: rest) = (token.map (·.2)).toList ++ wordsFrom next (rest.drop extra) := by
  rw [wordsFrom, tokensFrom, hstep]
  cases token with
  | none => exact map_tokensFrom _ _ _ _
  | some place => exact congrArg (place.2 :: ·) (map_tokensFrom _ _ _ _)

end Step

/-- What continues a numeral is no quote and does not start the end of a tag. -/
theorem NumeralState.isNeutral_of_next? {base : Nat} {state next : NumeralState} {c : Char}
    {rest : List Char} (hnext : state.next? base c rest = some next) : IsNeutral c := by
  refine .of_test (fun c => (state.next? base c rest).isSome) ?_ (by simp [hnext])
  have hdigits : digitValue? '"' = none ∧ digitValue? '\'' = none ∧ digitValue? '%' = none ∧
      digitValue? '\x7d' = none := ⟨rfl, rfl, rfl, rfl⟩
  cases state <;> simp [NumeralState.next?, hdigits, Char.isDigit]

/-- The rest of a numeral is passed character by character, so it is a first
    part of the text and every character in it is neutral. -/
theorem isNeutral_numeralBody (base : Nat) (state : NumeralState) (cs : List Char) :
    (∀ c ∈ (numeralBody base state cs).1, IsNeutral c) ∧ (numeralBody base state cs).1 <+: cs := by
  induction cs generalizing state with
  | nil => exact ⟨by simp [numeralBody], List.prefix_refl _⟩
  | cons c rest ih =>
    rw [numeralBody]
    split
    · next next hnext =>
      obtain ⟨hneutral, hstarts⟩ := ih next
      exact ⟨List.forall_mem_cons.2 ⟨NumeralState.isNeutral_of_next? hnext, hneutral⟩,
        List.prefix_cons_inj c |>.2 hstarts⟩
    · exact ⟨by simp, List.nil_prefix⟩

/-- The two characters that announce a base other than ten are name characters,
    and no name character is a quote or starts the end of a tag. -/
theorem isNeutral_marker {cs : List Char} (hbase : numeralBase cs ≠ 10) :
    ∀ c ∈ cs.take 2, IsNeutral c := by
  unfold numeralBase at hbase
  split at hbase
  · next d rest =>
    have hmarker : d ∈ ['b', 'B', 'o', 'O', 'x', 'X'] := by
      refine Decidable.byContradiction fun hnone => hbase ?_
      simp only [List.mem_cons, not_or] at hnone
      simp [hnone]
    have hall : ['0', 'b', 'B', 'o', 'O', 'x', 'X'].all isNameChar = true := rfl
    obtain ⟨hzero, hmarkers⟩ := List.forall_mem_cons.1 (List.all_eq_true.1 hall)
    simp only [List.take_succ_cons, List.take_zero, List.forall_mem_cons]
    exact ⟨.of_test _ (by decide) hzero, .of_test _ (by decide) (hmarkers d hmarker), by simp⟩
  · exact absurd rfl hbase

/-- A numeral as a whole is neutral, with or without the marker of a base. What
    it comes to is of no interest here, and neither is whether it is valid. -/
theorem isNeutral_scanNumeral (cs : List Char) :
    ∀ c ∈ cs.take (scanNumeral cs).1, IsNeutral c := by
  intro c hmem
  simp only [scanNumeral] at hmem
  split at hmem
  · next hten =>
    obtain ⟨hneutral, hstarts⟩ := isNeutral_numeralBody (numeralBase cs) .integer (cs.drop 0)
    rw [List.drop_zero] at hstarts
    rw [Nat.zero_add, List.drop_zero, ← List.prefix_iff_eq_take.1 hstarts] at hmem
    exact hneutral c hmem
  · next hten =>
    obtain ⟨hneutral, hstarts⟩ := isNeutral_numeralBody (numeralBase cs) .radix (cs.drop 2)
    rw [List.take_add, List.mem_append, ← List.prefix_iff_eq_take.1 hstarts] at hmem
    exact hmem.elim (isNeutral_marker (by simpa using hten) c) (hneutral c)

/-- Only the bar is read as the symbol before a filter. The search for filters
    looks for the same character. -/
theorem eq_bar_of_singleSymbol? {c : Char} (hsign : singleSymbol? c = some .pipe) : c = '|' := by
  unfold singleSymbol? at hsign
  split at hsign <;> first | rfl | cases hsign

/-- A piece of a text between delimiters that both readers pass as a whole. It
    is a token, or nothing. -/
structure IsPiece (kind : Delimiter) (token : Option Token) (piece behind : List Char) : Prop where
  bodyLength?_eq : bodyLength? kind.closing 0 (piece ++ behind) =
    (bodyLength? kind.closing 0 behind).map (· + piece.length)
  spells : ∀ {tokens : List Token} {body : List Char}, body <+: behind →
    Spells tokens (withoutStrings body) →
      Spells (token.toList ++ tokens) (withoutStrings (piece ++ body))

namespace IsPiece

variable {kind : Delimiter} {piece behind : List Char}

/-- A piece never is the end of a tag, as its token is spelled by the text
    without strings and an end is spelled by nothing. -/
theorem closes_eq_false {token : Option Token} (hpiece : IsPiece kind token piece behind) :
    ∀ found ∈ token.toList, found.closes = false := by
  have hspells := hpiece.spells List.nil_prefix .done
  rw [List.append_nil] at hspells
  exact hspells.closes_eq_false

/-- White space is a piece without a token. The search skips more kinds of
    blanks than the engine, so all of these count. -/
theorem of_blank (hblank : ∀ c ∈ piece, isAsciiBlank c = true) :
    IsPiece kind none piece behind := by
  have hneutral : ∀ c ∈ piece, IsNeutral c := fun c hc =>
    .of_test isAsciiBlank (by decide) (hblank c hc)
  refine ⟨bodyLength?_append kind hneutral behind, fun {tokens body} _ hspells => ?_⟩
  rw [withoutStrings_append fun c hc => (hneutral c hc).1]
  exact .blanks (fun c hc => isBlank_of_isAsciiBlank (hblank c hc)) hspells

/-- A token that the search does not look at is a piece whatever its text, if no
    quote and no end of a tag is in it. -/
theorem of_other {token : Token} (hother : token.isOther = true)
    (hneutral : ∀ c ∈ piece, IsNeutral c) : IsPiece kind (some token) piece behind := by
  refine ⟨bodyLength?_append kind hneutral behind, fun {tokens body} _ hspells => ?_⟩
  rw [withoutStrings_append fun c hc => (hneutral c hc).1]
  exact .other hother piece hspells

/-- A symbol of one character is a piece unless it starts the end of the tag.
    The bar is the one symbol that the search has to see. -/
theorem of_symbol {c : Char} {sign : Symbol} (hsign : singleSymbol? c = some sign)
    (hclosing : kind.closing.isPrefixOf (c :: behind) = false) :
    IsPiece kind (some (.symbol sign)) [c] behind := by
  have hquote : isQuote c = false := by
    rw [isQuote, Bool.or_eq_false_iff, beq_eq_false_iff_ne, beq_eq_false_iff_ne]
    constructor <;> rintro rfl <;> cases hsign
  refine ⟨bodyLength?_cons hquote hclosing, fun {tokens body} _ hspells => ?_⟩
  rw [withoutStrings_append (by simpa using hquote)]
  by_cases hpipe : sign = .pipe
  · subst hpipe
    rw [eq_bar_of_singleSymbol? hsign]
    exact .bar hspells
  · exact .other (by simpa [Token.isOther] using hpipe) [c] hspells

/-- The name ends where it did, also in a shorter text without its strings,
    since a string starts with a quote and no name goes on with one. -/
theorem of_name {word : List Char} (hword : leadingName (word ++ behind) = some word) :
    IsPiece kind (some (.name (String.ofList word))) word behind := by
  obtain ⟨hself, hend⟩ := leadingName_append.1 hword
  have hchars := isNameChar_of_leadingName hself
  have hneutral : ∀ c ∈ word, IsNeutral c := fun c hc =>
    .of_test isNameChar (by decide) (hchars c hc)
  refine ⟨bodyLength?_append kind hneutral behind, fun {tokens body} hbody hspells => ?_⟩
  rw [withoutStrings_append fun c hc => (hneutral c hc).1]
  refine .name (leadingName_append.2 ⟨hself, takeWhile_withoutStrings ?_⟩) hspells
  obtain ⟨more, rfl⟩ := hbody
  cases body with
  | nil => rfl
  | cons c rest => simpa [List.takeWhile_cons] using hend

/-- A string is a piece if both readers see it end at the same place. They do so
    unless a feed is escaped, which only the engine takes for part of the
    string. -/
theorem of_string {quote : Char} {content : List Char} (hquote : isQuote quote = true)
    {value : String} (hcontent : quotedLength? true quote (content ++ behind) = some content.length)
    (hfeeds : ¬['\\', '\n'] <:+: content ++ behind) :
    IsPiece kind (some (.string value)) (quote :: content) behind := by
  refine ⟨bodyLength?_quoted kind hquote hcontent, fun {tokens body} hbody hspells => ?_⟩
  rw [← quotedLength?_false hfeeds] at hcontent
  have htake := quotedLength?_take hcontent body
  rw [List.take_left] at htake
  rw [withoutStrings_quoted hquote htake]
  exact .other rfl _ hspells

end IsPiece

/-- A symbol of two characters is none that the search looks at, and none of its
    characters is a quote or starts the end of a tag. -/
theorem isNeutral_of_doubleSymbol? {c : Char} {rest : List Char} {sign : Symbol}
    (hsign : doubleSymbol? (c :: rest) = some sign) :
    (Token.symbol sign).isOther = true ∧ ∀ d ∈ c :: rest.take 1, IsNeutral d := by
  have hneutral : ∀ d ∈ ['/', '*', '=', '!', '>', '<'], IsNeutral d := by
    simp [IsNeutral, isQuote]
  simp only [List.forall_mem_cons] at hneutral
  unfold doubleSymbol? at hsign
  split at hsign
  case h_7 => cases hsign
  all_goals
    next heq =>
    cases heq
    cases hsign
    exact ⟨rfl, by simp [hneutral]⟩

def Token.isNumber : Token → Bool
  | .integer _ | .float _ => true
  | _ => false

/-- Whether a token and the next one may look like the end of a tag without
    being it. -/
def Token.fakesEnd : Token → Token → Bool
  | .symbol .braceClose, .symbol .braceClose | .symbol .braceClose, .exprEnd => true
  | .symbol .percent, .symbol .braceClose => true
  | _, _ => false

/-- Tokens of which no two in a row may look like the end of a tag without being
    it. -/
def NoFakeEnd (words : List Token) : Prop :=
  words.IsChain fun token next => token.fakesEnd next = false

instance : DecidablePred NoFakeEnd := fun words =>
  inferInstanceAs (Decidable (words.IsChain _))

section Inside

variable {kind : Delimiter} {depth : Int} {c : Char} {rest : List Char}
  {token : Option (Nat × Token)} {extra : Nat} {next : Mode}

/-- A step over a string leaves the depth as it is, because brackets in a string
    do not count. -/
theorem isPiece_of_stringStep (hquote : isQuote c = true)
    (hstep : stringStep c rest (.inside kind depth) = .pass token extra next)
    (hfeeds : ¬['\\', '\n'] <:+: rest) :
    next = .inside kind depth ∧
      IsPiece kind (token.map (·.2)) (c :: rest.take extra) (rest.drop extra) := by
  unfold stringStep at hstep
  split at hstep
  · cases hstep
  · next length hlength =>
    split at hstep
    · cases hstep
      have hquoted : quotedLength? true c rest = some (length + 1) := by
        rw [quotedLength?_eq hquote, hlength, Option.map_some]
      have htake : (rest.take (length + 1)).length = length + 1 :=
        List.length_take_of_le (quotedLength?_bounds hquoted).2
      refine ⟨rfl, .of_string hquote ?_ ?_⟩ <;> rw [List.take_append_drop]
      · rw [htake, hquoted]
      · exact hfeeds
    · cases hstep

/-- What the scanner makes of a numeral is a number. -/
theorem isNumber_of_scanNumeral {cs : List Char} {length : Nat} {found : Token}
    (hscan : scanNumeral cs = (length, .ok found)) : found.isNumber = true := by
  simp only [scanNumeral, Prod.mk.injEq] at hscan
  obtain ⟨-, hfound⟩ := hscan
  generalize numeralBody _ _ _ = body at hfound
  split at hfound
  · cases hfound
  · split at hfound
    · unfold integerToken at hfound
      split at hfound <;> split at hfound <;> cases hfound
      rfl
    · split at hfound <;> cases hfound
      rfl

/-- What a numeral comes to is a number, so the search for names has no business
    with it. -/
theorem isOther_of_scanNumeral {cs : List Char} {length : Nat} {found : Token}
    (hscan : scanNumeral cs = (length, .ok found)) : found.isOther = true := by
  have hnumber := isNumber_of_scanNumeral hscan
  cases found <;> first | rfl | cases hnumber

/-- A numeral is a piece as a whole. It starts with a digit, which is the only
    thing that the step asks for. -/
theorem isPiece_of_scanNumeral {length : Nat} {found : Token} (hdigit : c.isDigit = true)
    (hscan : scanNumeral (c :: rest) = (length, .ok found)) :
    IsPiece kind (some found) (c :: rest.take (length - 1)) (rest.drop (length - 1)) := by
  refine .of_other (isOther_of_scanNumeral hscan) (List.forall_mem_cons.2 ⟨?_, ?_⟩)
  · exact .of_test Char.isDigit (by decide) hdigit
  · have hneutral := isNeutral_scanNumeral (c :: rest)
    rw [hscan] at hneutral
    cases length with
    | zero => simp
    | succ n => exact (List.forall_mem_cons.1 hneutral).2

/-- A name can be cut off a text by its length, and is read before the rest as
    it was in the text. The first character is apart, as the scanner has it. -/
theorem split_of_leadingName {word : List Char} (hword : leadingName (c :: rest) = some word) :
    c :: rest.take (word.length - 1) = word ∧
      leadingName (word ++ rest.drop (word.length - 1)) = some word := by
  have hpiece : c :: rest.take (word.length - 1) = word := by
    obtain ⟨-, -, ⟨⟩, -, rfl⟩ := exists_of_leadingName hword
    exact congrArg (c :: ·) (List.prefix_iff_eq_take.1 (List.takeWhile_prefix _)).symm
  refine ⟨hpiece, ?_⟩
  rw [← hpiece, List.cons_append, hpiece, List.take_append_drop, hword]

/-- A name is a piece, with the number of its characters counted as the scanner
    counts them, which has passed the first one already. -/
theorem isPiece_of_leadingName {word : List Char} (hword : leadingName (c :: rest) = some word) :
    IsPiece kind (some (.name (String.ofList word))) (c :: rest.take (word.length - 1))
      (rest.drop (word.length - 1)) := by
  obtain ⟨hpiece, hbehind⟩ := split_of_leadingName hword
  rw [hpiece]
  exact .of_name hbehind

/-- Whatever the scanner reads between delimiters is a piece, if the end of the
    tag does not start there. The cases are those of the scanner, in its order. -/
theorem exists_isPiece_of_wordStep (hstep : wordStep kind depth c rest = .pass token extra next)
    (hclosing : kind.closing.isPrefixOf (c :: rest) = false) (hfeeds : ¬['\\', '\n'] <:+: rest) :
    ∃ deeper, next = .inside kind deeper ∧
      IsPiece kind (token.map (·.2)) (c :: rest.take extra) (rest.drop extra) := by
  unfold wordStep at hstep
  simp only at hstep
  split at hstep
  · next sign hsign =>
    cases hstep
    obtain ⟨hother, hneutral⟩ := isNeutral_of_doubleSymbol? hsign
    exact ⟨_, rfl, .of_other hother hneutral⟩
  · split at hstep
    · next sign hsign =>
      cases hstep
      exact ⟨_, rfl, .of_symbol hsign (by simpa using hclosing)⟩
    · split at hstep
      · next hquote =>
        obtain ⟨rfl, hpiece⟩ := isPiece_of_stringStep (by rwa [isQuote, Bool.or_comm]) hstep hfeeds
        exact ⟨_, rfl, hpiece⟩
      · split at hstep
        · next hdigit =>
          split at hstep
          · next length token hscan =>
            cases hstep
            exact ⟨_, rfl, isPiece_of_scanNumeral hdigit hscan⟩
          · cases hstep
        · split at hstep
          · next name hname =>
            cases hstep
            exact ⟨_, rfl, isPiece_of_leadingName hname⟩
          · cases hstep

/-- A closing brace is a token of its own, or it ends the expression. The end of
    a tag starts with a percent sign, so there is one case for tags. -/
theorem exists_wordsFrom_brace (kind : Delimiter) (depth : Int) (rest : List Char) :
    ∃ token words, wordsFrom (.inside kind depth) ('\x7d' :: rest) = token :: words ∧
      (token = .symbol .braceClose ∨ kind = .expr ∧ token = .exprEnd) := by
  cases hclosing : if depth = 0 then closing? kind ('\x7d' :: rest) else none with
  | none =>
    have hstep : step (.inside kind depth) '\x7d' rest =
        .pass (some (0, .symbol .braceClose)) 0 (.inside kind (depth + -1)) := by
      simp only [step, insideStep, hclosing]
      rfl
    exact ⟨_, _, wordsFrom_of_pass hstep, .inl rfl⟩
  | some ending =>
    have hstep : step (.inside kind depth) '\x7d' rest =
        .pass (some (0, kind.endToken))
          (ending.1 + removedLength ending.2 (('\x7d' :: rest).drop ending.1) - 1) .text := by
      simp only [step, insideStep, hclosing]
      rfl
    refine ⟨_, _, wordsFrom_of_pass hstep, ?_⟩
    cases kind with
    | expr => exact .inr ⟨rfl, rfl⟩
    | tag => split at hclosing <;> cases hclosing

/-- Where nothing fakes an end, the scanner does not see one within brackets
    either. The two characters of such an end would have been read as two
    symbols in a row. -/
theorem isPrefixOf_closing_eq_false (hends : NoFakeEnd (wordsFrom (.inside kind depth) (c :: rest)))
    (hopen : (if depth = 0 then closing? kind (c :: rest) else none) = none) :
    kind.closing.isPrefixOf (c :: rest) = false := by
  rw [← Bool.not_eq_true]
  intro hstarts
  have hdepth : depth ≠ 0 := by
    intro hdepth
    rw [if_pos hdepth, closing?, if_pos hstarts] at hopen
    cases hopen
  obtain ⟨behind, hbehind⟩ := List.isPrefixOf_iff_prefix.1 hstarts
  obtain ⟨sign, deeper, hstep, rfl, hbrace, hexpr⟩ : ∃ sign deeper,
      step (.inside kind depth) c rest = .pass (some (0, .symbol sign)) 0 (.inside kind deeper) ∧
        rest = '\x7d' :: behind ∧ (Token.symbol sign).fakesEnd (.symbol .braceClose) = true ∧
          (kind = .expr → (Token.symbol sign).fakesEnd .exprEnd = true) := by
    cases kind <;> cases hbehind <;> simp only [step, insideStep, if_neg hdepth]
    · exact ⟨.braceClose, _, rfl, rfl, rfl, fun _ => rfl⟩
    · exact ⟨.percent, _, rfl, rfl, rfl, nofun⟩
  obtain ⟨token, words, hwords, htoken⟩ := exists_wordsFrom_brace kind deeper behind
  rw [wordsFrom_of_pass hstep, List.drop_zero, hwords] at hends
  have hfakes := (List.isChain_cons_cons.1 hends).1
  obtain rfl | ⟨hkind, rfl⟩ := htoken
  · rw [hbrace] at hfakes
    cases hfakes
  · rw [hexpr hkind] at hfakes
    cases hfakes

/-- A step between delimiters passes the end of the tag or a piece of its text.
    Both premises are about texts that the two readers could see differently. -/
theorem insideStep_cases
    (hends : NoFakeEnd (wordsFrom (.inside kind depth) (c :: rest)))
    (hfeeds : ¬['\\', '\n'] <:+: rest)
    (hstep : insideStep kind depth c rest = .pass token extra next) :
    (∃ length sign, closing? kind (c :: rest) = some (length, sign) ∧
      token = some (0, kind.endToken) ∧ next = .text ∧
        extra = length + removedLength sign ((c :: rest).drop length) - 1) ∨
    ∃ deeper, next = .inside kind deeper ∧
      IsPiece kind (token.map (·.2)) (c :: rest.take extra) (rest.drop extra) := by
  unfold insideStep at hstep
  split at hstep
  · next hblank =>
    cases hstep
    refine .inr ⟨_, rfl, .of_blank (List.forall_mem_cons.2 ⟨hblank, ?_⟩)⟩
    rw [← List.prefix_iff_eq_take.1 (List.takeWhile_prefix _)]
    exact List.all_eq_true.1 List.all_takeWhile
  · split at hstep
    · next length sign hclosing =>
      cases hstep
      split at hclosing
      · exact .inl ⟨length, sign, hclosing, rfl, rfl, rfl⟩
      · cases hclosing
    · next hopen =>
      have hclosing := isPrefixOf_closing_eq_false hends hopen
      exact .inr (exists_isPiece_of_wordStep hstep hclosing hfeeds)

end Inside

/-- Both readers see a text between delimiters end at the same place. The
    tokens before this end spell the body, and the text goes on after some
    white space. -/
structure IsBody (kind : Delimiter) (words inner : List Token) (cs body behind : List Char)
    (blanks : Nat) : Prop where
  eq_append : cs = body ++ (kind.closing ++ behind)
  bodyLength?_eq : bodyLength? kind.closing 0 cs = some body.length
  spells : Spells inner (withoutStrings body)
  isBlank : ∀ c ∈ behind.take blanks, isBlank c = true
  words_eq : words = inner ++ kind.endToken :: wordsFrom .text (behind.drop blanks)

/-- A piece before the body of a tag belongs to the body. Where the tag ends and
    what comes behind it does not change. -/
theorem IsBody.prepend {kind : Delimiter} {words inner : List Token}
    {cs body behind piece : List Char} {blanks : Nat} {token : Option Token}
    (hpiece : IsPiece kind token piece cs) (hbody : IsBody kind words inner cs body behind blanks) :
    IsBody kind (token.toList ++ words) (token.toList ++ inner) (piece ++ cs) (piece ++ body) behind
      blanks where
  eq_append := by rw [List.append_assoc, ← hbody.eq_append]
  bodyLength?_eq := by
    rw [hpiece.bodyLength?_eq, hbody.bodyLength?_eq, Option.map_some, List.length_append,
      Nat.add_comm]
  spells := hpiece.spells ⟨_, hbody.eq_append.symm⟩ hbody.spells
  isBlank := hbody.isBlank
  words_eq := by rw [hbody.words_eq, List.append_assoc]

/-- What a sign at the end of a tag takes off the text behind it is white
    space. -/
theorem removedLength_blank (sign : Option Char) (cs : List Char) :
    ∀ c ∈ cs.take (removedLength sign cs), isBlank c = true := by
  unfold removedLength
  split
  · rw [← List.prefix_iff_eq_take.1 (List.takeWhile_prefix _)]
    exact List.all_eq_true.1 List.all_takeWhile
  · simp

/-- A sign for the treatment of white space is neutral, so the search does not
    trip over it. -/
theorem isNeutral_sign (cs : List Char) : ∀ c ∈ cs.take (signLength cs), IsNeutral c := by
  cases cs with
  | nil => simp
  | cons c rest =>
    rw [signLength]
    split
    · next hsign =>
      rw [List.take_succ_cons, List.take_zero, List.forall_mem_singleton]
      exact .of_test (fun c => c == '-' || c == '+') (by decide) hsign
    · simp

/-- At the end of a tag the body has nothing in it but the sign, if there is one.
    The sign spells no token, and both readers see the end right behind it. -/
theorem exists_body_of_closing? {kind : Delimiter} {cs : List Char} {length : Nat}
    {sign : Option Char} (hclosing : closing? kind cs = some (length, sign)) :
    ∃ body, length = body.length + 2 ∧ cs = body ++ (kind.closing ++ cs.drop length) ∧
      bodyLength? kind.closing 0 cs = some body.length ∧ Spells [] (withoutStrings body) ∧
        AreSigns body := by
  unfold closing? at hclosing
  have hstarts : ∀ {cs}, kind.closing.isPrefixOf cs = true →
      cs = kind.closing ++ cs.drop 2 ∧ bodyLength? kind.closing 0 cs = some 0 := by
    intro cs hstarts
    obtain ⟨behind, rfl⟩ := List.isPrefixOf_iff_prefix.1 hstarts
    cases kind <;> simp [Delimiter.closing, bodyLength?]
  split at hclosing
  · next hhere =>
    cases hclosing
    exact ⟨[], rfl, (hstarts hhere).1, (hstarts hhere).2, .done, .inl rfl⟩
  · split at hclosing
    · next hsigned =>
      cases hclosing
      cases cs with
      | nil => cases hsigned
      | cons c rest =>
        obtain ⟨hsign, hhere⟩ := Bool.and_eq_true_iff.1 hsigned
        have hneutral : IsNeutral c := by
          refine isNeutral_sign (c :: rest) c ?_
          rw [of_decide_eq_true hsign]
          exact List.mem_cons_self
        obtain ⟨happend, hlength⟩ := hstarts hhere
        refine ⟨[c], rfl, congrArg (c :: ·) happend, ?_, ?_, .inr ⟨c, ?_, rfl⟩⟩
        · rw [bodyLength?_cons hneutral.1 (hneutral.isPrefixOf_eq_false kind rest)]
          rw [show bodyLength? kind.closing 0 rest = some 0 from hlength]
          rfl
        · rw [← List.append_nil [c], withoutStrings_append (by simpa using hneutral.1)]
          exact .sign c
        · have hone := of_decide_eq_true hsign
          rw [signLength] at hone
          split at hone
          · next hplus => simpa [or_comm] using hplus
          · cases hone
    · cases hclosing

/-- A relation between the tokens of a tag and its text that holds at the end of
    the tag and is kept by each step towards its start. -/
structure KeptBySteps (kind : Delimiter) (p : List Token → List Char → Prop) : Prop where
  signs : ∀ {signs : List Char}, AreSigns signs → p [] signs
  step : ∀ {depth : Int} {c : Char} {rest : List Char} {token : Option (Nat × Token)} {extra : Nat}
    {next : Mode} {inner : List Token} {body : List Char},
    insideStep kind depth c rest = .pass token extra next →
      (∀ found ∈ (token.map (·.2)).toList, found.closes = false) → ¬['\\', '\n'] <:+: rest →
        body <+: rest.drop extra → p inner body →
          p ((token.map (·.2)).toList ++ inner) (c :: rest.take extra ++ body)

/-- A tag that is closed has a body, on which both readers agree, and what every
    step towards the start of the tag keeps holds for that body. A text without an
    end of the tag has none in its tokens, so only two kinds of steps remain. -/
theorem exists_isBody {kind : Delimiter} {p : List Token → List Char → Prop}
    (hp : KeptBySteps kind p) {depth : Int} {cs : List Char} (hfeeds : ¬['\\', '\n'] <:+: cs)
    (hends : NoFakeEnd (wordsFrom (.inside kind depth) cs))
    (hcloses : ∃ token ∈ wordsFrom (.inside kind depth) cs, token.closes = true) :
    ∃ inner body behind blanks,
      IsBody kind (wordsFrom (.inside kind depth) cs) inner cs body behind blanks ∧
        p inner body := by
  induction hlength : cs.length using Nat.strongRecOn generalizing depth cs with
  | ind n ih =>
  subst hlength
  cases cs with
  | nil =>
    obtain ⟨token, hmem, -⟩ := hcloses
    rw [wordsFrom_nil] at hmem
    cases hmem
  | cons c rest =>
    cases hstep : step (.inside kind depth) c rest with
    | stop fault position =>
      obtain ⟨token, hmem, -⟩ := hcloses
      rw [wordsFrom_of_stop hstep] at hmem
      cases hmem
    | pass token extra next =>
      have hwords := wordsFrom_of_pass hstep
      have hbehind : ¬['\\', '\n'] <:+: rest := fun h =>
        hfeeds (h.trans (List.suffix_cons c rest).isInfix)
      obtain ⟨length, sign, hclosing, rfl, rfl, rfl⟩ | ⟨deeper, rfl, hpiece⟩ :=
        insideStep_cases hends hbehind hstep
      · obtain ⟨body, hlength, happend, hbody, hspells, hsigns⟩ := exists_body_of_closing? hclosing
        refine ⟨[], body, (c :: rest).drop length, _, ⟨happend, hbody, hspells,
          removedLength_blank sign _, ?_⟩, hp.signs hsigns⟩
        have hsucc : length + removedLength sign ((c :: rest).drop length) =
            length + removedLength sign ((c :: rest).drop length) - 1 + 1 := by omega
        rw [hwords, List.drop_drop, hsucc, List.drop_succ_cons]
        rfl
      · rw [hwords] at hends hcloses ⊢
        have hrest : ¬['\\', '\n'] <:+: rest.drop extra := fun h =>
          hbehind (h.trans (List.drop_suffix _ _).isInfix)
        have hcloses : ∃ token ∈ wordsFrom (.inside kind deeper) (rest.drop extra),
            token.closes = true := by
          obtain ⟨token, hmem, htoken⟩ := hcloses
          refine ⟨token, (List.mem_append.1 hmem).resolve_left fun hpast => ?_, htoken⟩
          rw [hpiece.closes_eq_false token hpast] at htoken
          cases htoken
        have hlt : (rest.drop extra).length < (c :: rest).length := by
          rw [List.length_drop, List.length_cons]
          omega
        obtain ⟨inner, body, behind, blanks, hbody, hkept⟩ :=
          ih _ hlt hrest hends.right_of_append hcloses rfl
        have hprepend := hbody.prepend hpiece
        rw [List.cons_append, List.take_append_drop] at hprepend
        exact ⟨_, _, behind, blanks, hprepend, hp.step hstep hpiece.closes_eq_false hbehind
          ⟨_, hbody.eq_append.symm⟩ hkept⟩

end PromptPacks.Template
