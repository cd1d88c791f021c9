import PromptPacks.Proofs.Template.Lexing

namespace PromptPacks.Template

open PromptPacks.Text

/-- The tokens of a text that has no fault. -/
def LexesTo (mode : Mode) (cs : List Char) (words : List Token) : Prop :=
  ∀ offset, (tokensFrom mode offset cs).tokens.map (·.value) = words ∧
    (tokensFrom mode offset cs).fault = none

/-- The empty text has no tokens and no fault, in any mode. -/
theorem lexesTo_nil (mode : Mode) : LexesTo mode [] [] := by
  intro offset
  rw [tokensFrom]
  exact ⟨rfl, rfl⟩

/-- A step adds its token to those of the rest. Where the rest has no fault, the
    whole has none. -/
theorem lexesTo_of_pass {mode next : Mode} {c : Char} {rest : List Char} {extra : Nat}
    {token : Option (Nat × Token)} {words : List Token}
    (hstep : step mode c rest = .pass token extra next)
    (hafter : LexesTo next (rest.drop extra) words) :
    LexesTo mode (c :: rest) ((token.map (·.2)).toList ++ words) := by
  intro offset
  rw [tokensFrom, hstep]
  obtain ⟨hwords, hfault⟩ := hafter (offset + byteSize (c :: rest.take extra))
  cases token with
  | none => exact ⟨hwords, hfault⟩
  | some place => exact ⟨congrArg (place.2 :: ·) hwords, hfault⟩

/-- No symbol starts with what may start a name. -/
theorem singleSymbol?_of_isNameStart {c : Char} (hstart : isNameStart c = true) :
    singleSymbol? c = none := by
  unfold singleSymbol?
  split <;> first | rfl | cases hstart

/-- No symbol of two characters starts with what may start a name, whatever
    comes next. -/
theorem doubleSymbol?_of_isNameStart {c : Char} {rest : List Char} (hstart : isNameStart c = true) :
    doubleSymbol? (c :: rest) = none := by
  unfold doubleSymbol?
  split
  case h_7 => rfl
  all_goals
    next heq =>
    cases heq
    cases hstart

/-- A digit does not start a name. -/
theorem isDigit_eq_false {c : Char} (hstart : isNameStart c = true) : c.isDigit = false := by
  rw [Bool.eq_false_iff]
  intro hdigit
  have hle : c.toNat ≤ 0x39 := (Char.isDigit_iff_toNat.1 hdigit).2
  rw [isNameStart, Bool.or_eq_true, beq_iff_eq] at hstart
  have hge : 0x41 ≤ c.toNat := by
    obtain hletter | rfl := hstart
    · obtain hupper | hlower := Bool.or_eq_true_iff.1 hletter
      · exact UInt32.le_iff_toNat_le.1 (of_decide_eq_true hupper).1
      · have hbound := of_decide_eq_true (Bool.and_eq_true_iff.1 hlower).1
        exact Nat.le_trans (by decide) (UInt32.le_iff_toNat_le.1 hbound)
    · decide
  omega

/-- White space does not start a name. -/
theorem isAsciiBlank_eq_false {c : Char} (hstart : isNameStart c = true) :
    isAsciiBlank c = false := by
  rw [Bool.eq_false_iff]
  intro hblank
  have hfalse := isBlank_eq_false (isNameChar_of_isNameStart hstart)
  rw [isBlank_of_isAsciiBlank hblank] at hfalse
  cases hfalse

/-- A name between delimiters is passed as a whole. What could come before it in
    the order of the scanner is excluded by its first character. -/
theorem step_of_isNameStart {kind : Delimiter} {depth : Int} {c : Char} {rest word : List Char}
    (hstart : isNameStart c = true) (hword : leadingName (c :: rest) = some word) :
    step (.inside kind depth) c rest =
      .pass (some (0, .name (String.ofList word))) (word.length - 1) (.inside kind depth) := by
  have hne : ∀ d, isNameStart d = false → (c == d) = false := by
    intro d hd
    refine beq_false_of_ne ?_
    rintro rfl
    rw [hstart] at hd
    cases hd
  have hdigit := isDigit_eq_false hstart
  have hclosing : closing? kind (c :: rest) = none := by
    have hsign : signLength (c :: rest) = 0 := by
      rw [signLength, hne '-' rfl, hne '+' rfl]
      rfl
    have hends : kind.closing.isPrefixOf (c :: rest) = false := by
      cases kind with
      | expr => rw [Delimiter.closing, List.isPrefixOf, Bool.beq_comm, hne '\x7d' rfl]; rfl
      | tag => rw [Delimiter.closing, List.isPrefixOf, Bool.beq_comm, hne '%' rfl]; rfl
    rw [closing?, hends, hsign]
    rfl
  rw [step, insideStep, isAsciiBlank_eq_false hstart, if_neg Bool.false_ne_true, hclosing, ite_self]
  simp only [wordStep, doubleSymbol?_of_isNameStart hstart, singleSymbol?_of_isNameStart hstart,
    hne '"' rfl, hne '\'' rfl, hdigit, hword]
  rfl

/-- Where a text stands does not matter for whether it has a fault. -/
theorem fault_tokensFrom_eq_none {mode : Mode} {offset : Nat} {cs : List Char}
    (hfault : (tokensFrom mode offset cs).fault = none) (other : Nat) :
    (tokensFrom mode other cs).fault = none := by
  fun_induction tokensFrom mode offset cs generalizing other with
  | case1 => rw [tokensFrom]
  | case2 => cases hfault
  | case3 mode offset c rest extra next after hstep ih =>
    rw [tokensFrom, hstep]
    exact ih hfault _
  | case4 mode offset c rest extra next after start token hstep ih =>
    rw [tokensFrom, hstep]
    exact ih hfault _

/-- The tokens without a fault are the tokens, together with there being no
    fault. The offset may be any, so zero is enough. -/
theorem lexesTo_iff {mode : Mode} {cs : List Char} {words : List Token} :
    LexesTo mode cs words ↔ wordsFrom mode cs = words ∧ (tokensFrom mode 0 cs).fault = none := by
  refine ⟨fun hlexes => hlexes 0, fun ⟨hwords, hfault⟩ offset => ⟨?_, ?_⟩⟩
  · rw [← hwords, wordsFrom, map_tokensFrom]
  · exact fault_tokensFrom_eq_none hfault offset

/-- The first step of a reading without a fault, and the reading of the rest.
    Inductions over a text without faults go by it. -/
theorem LexesTo.exists_step {mode : Mode} {c : Char} {rest : List Char} {words : List Token}
    (hlexes : LexesTo mode (c :: rest) words) :
    ∃ token extra next later, step mode c rest = .pass token extra next ∧
      words = (token.map (·.2)).toList ++ later ∧ LexesTo next (rest.drop extra) later := by
  obtain ⟨hwords, hfault⟩ := lexesTo_iff.1 hlexes
  cases hstep : step mode c rest with
  | stop fault position =>
    rw [tokensFrom, hstep] at hfault
    cases hfault
  | pass token extra next =>
    refine ⟨token, extra, next, _, rfl, ?_, lexesTo_iff.2 ⟨rfl, ?_⟩⟩
    · rw [← hwords, wordsFrom_of_pass hstep]
    · rw [tokensFrom, hstep] at hfault
      cases token with
      | none => exact fault_tokensFrom_eq_none hfault 0
      | some place => exact fault_tokensFrom_eq_none hfault 0

/-- What a step passes between delimiters that is neither white space nor the end
    of the tag: a token and the number of its characters beyond the first. -/
inductive WordPiece (c : Char) (rest : List Char) : Token → Nat → Prop where
  | double {sign : Symbol} (hsign : doubleSymbol? (c :: rest) = some sign) :
    WordPiece c rest (.symbol sign) 1
  | single {sign : Symbol} (hsign : singleSymbol? c = some sign) :
    WordPiece c rest (.symbol sign) 0
  | string {content : String} {length : Nat} (hquote : isQuote c = true)
    (hlength : quotedLength? true c rest = some length) : WordPiece c rest (.string content) length
  | numeral {token : Token} {length : Nat} (hdigit : c.isDigit = true)
    (hscan : scanNumeral (c :: rest) = (length, .ok token)) : WordPiece c rest token (length - 1)
  | name {word : List Char} (hword : leadingName (c :: rest) = some word) :
    WordPiece c rest (.name (String.ofList word)) (word.length - 1)

section

variable {kind : Delimiter} {depth : Int} {c : Char} {rest : List Char}
  {token : Option (Nat × Token)} {extra : Nat} {next : Mode}

/-- Between delimiters the scanner passes a token of one of five kinds. Only
    brackets change the depth. -/
theorem wordPiece_of_wordStep (hstep : wordStep kind depth c rest = .pass token extra next) :
    ∃ found deeper, token = some (0, found) ∧ next = .inside kind deeper ∧
      WordPiece c rest found extra := by
  unfold wordStep at hstep
  simp only at hstep
  split at hstep
  · next sign hsign =>
    cases hstep
    exact ⟨_, _, rfl, rfl, .double hsign⟩
  split at hstep
  · next sign hsign =>
    cases hstep
    exact ⟨_, _, rfl, rfl, .single hsign⟩
  split at hstep
  · next hquote =>
    have hquote : isQuote c = true := by rwa [isQuote, Bool.or_comm]
    unfold stringStep at hstep
    split at hstep
    · cases hstep
    · next length hlength =>
      split at hstep
      · cases hstep
        refine ⟨_, _, rfl, rfl, .string hquote ?_⟩
        rw [quotedLength?_eq hquote, hlength, Option.map_some]
      · cases hstep
  split at hstep
  · next hdigit =>
    split at hstep
    · next length found hscan =>
      cases hstep
      exact ⟨_, _, rfl, rfl, .numeral hdigit hscan⟩
    · cases hstep
  · split at hstep
    · next word hword =>
      cases hstep
      exact ⟨_, _, rfl, rfl, .name hword⟩
    · cases hstep

/-- A step between delimiters passes white space, the end of the tag or one
    token. -/
theorem insideStep_eq_pass (hstep : insideStep kind depth c rest = .pass token extra next) :
    (isAsciiBlank c = true ∧ token = none ∧ extra = (rest.takeWhile isAsciiBlank).length ∧
        next = .inside kind depth) ∨
      token = some (0, kind.endToken) ∨
        isAsciiBlank c = false ∧ ∃ found deeper, token = some (0, found) ∧
          next = .inside kind deeper ∧ WordPiece c rest found extra := by
  unfold insideStep at hstep
  split at hstep
  · next hblank =>
    cases hstep
    exact .inl ⟨hblank, rfl, rfl, rfl⟩
  · next hblank =>
    split at hstep
    · cases hstep
      exact .inr (.inl rfl)
    · exact .inr (.inr ⟨by simpa using hblank, wordPiece_of_wordStep hstep⟩)

end

section

variable {c : Char} {rest : List Char} {start extra : Nat} {word : String} {next : Mode}

/-- Outside of delimiters there are no names. -/
theorem textStep_ne_name {cs : List Char} :
    textStep cs ≠ .pass (some (start, .name word)) extra next := by
  intro hstep
  unfold textStep at hstep
  simp only at hstep
  split at hstep
  · unfold openingStep commentStep rawStep at hstep
    simp only at hstep
    repeat' split at hstep
    all_goals cases hstep
  · generalize (cs.take _) = lead at hstep
    repeat' split at hstep
    all_goals cases hstep

/-- A step passes nothing but a name as a name. All other tokens are of another
    kind, in each of the modes. -/
theorem leadingName_of_step {mode : Mode}
    (hstep : step mode c rest = .pass (some (start, .name word)) extra next) :
    leadingName word.toList = some word.toList := by
  cases mode with
  | text => exact absurd hstep textStep_ne_name
  | inside kind depth =>
    obtain ⟨-, hnone, -⟩ | hend | ⟨-, found, deeper, hfound, -, hpiece⟩ := insideStep_eq_pass hstep
    · cases hnone
    · cases kind <;> cases hend
    · cases hfound
      generalize hname : Token.name word = token at hpiece
      cases hpiece with
      | @name letters hword =>
        cases hname
        obtain ⟨c, rest, hcons, -, rfl⟩ := exists_of_leadingName hword
        rw [hcons, ← List.takeWhile_append_dropWhile (p := isNameChar) (l := rest),
          ← List.cons_append, List.takeWhile_append_dropWhile] at hword
        rw [String.toList_ofList]
        exact (leadingName_append.1 hword).1
      | numeral _ hscan =>
        rw [← hname] at hscan
        exact absurd (isOther_of_scanNumeral hscan) (by simp [Token.isOther])
      | _ => cases hname

end

end PromptPacks.Template
