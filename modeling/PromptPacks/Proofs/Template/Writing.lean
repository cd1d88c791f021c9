import PromptPacks.Proofs.Template.Calls
import PromptPacks.Proofs.Template.Stepping

namespace PromptPacks.Template

open PromptPacks.Number PromptPacks.Text

/-- Digits are word characters. -/
theorem isWordChar_of_isDigit {c : Char} (hdigit : c.isDigit = true) : isWordChar c = true :=
  isWordChar_of_isNameChar (by rw [isNameChar, Char.isAlphanum, hdigit, Bool.or_true, Bool.true_or])

/-- The digits of any base are word characters, the letters among them
    included. -/
theorem isWordChar_of_digitValue? {c : Char} (hvalue : (digitValue? c).isSome = true) :
    isWordChar c = true := by
  unfold digitValue? at hvalue
  split at hvalue
  · next hdigit => exact isWordChar_of_isDigit hdigit
  have hletter {low high : Char} (hletters : low.toNat = 0x41 ∧ high.toNat = 0x46 ∨
      low.toNat = 0x61 ∧ high.toNat = 0x66) (hbetween : (low ≤ c && c ≤ high) = true) :
      isWordChar c = true := by
    rw [Bool.and_eq_true, decide_eq_true_eq, decide_eq_true_eq, Char.le_def, Char.le_def,
      UInt32.le_iff_toNat_le, UInt32.le_iff_toNat_le] at hbetween
    change low.toNat ≤ c.toNat ∧ c.toNat ≤ high.toNat at hbetween
    refine isWordChar_of_isNameChar ?_
    delta isNameChar Char.isAlphanum Char.isAlpha Char.isUpper Char.isLower
    simp only [Bool.or_eq_true, Bool.and_eq_true, decide_eq_true_eq, ge_iff_le,
      UInt32.le_iff_toNat_le]
    change (((0x41 ≤ c.toNat ∧ c.toNat ≤ 0x5A) ∨ (0x61 ≤ c.toNat ∧ c.toNat ≤ 0x7A)) ∨ _) ∨ _
    omega
  split at hvalue
  · exact hletter (.inr ⟨rfl, rfl⟩) ‹_›
  · split at hvalue
    · exact hletter (.inl ⟨rfl, rfl⟩) ‹_›
    · cases hvalue

/-- The letters after which a numeral may have a sign, and the underscore after
    these. -/
def exponentLetters : List Char :=
  ['e', 'E', '_']

namespace NumeralState

variable {base : Nat} {state next : NumeralState} {c : Char} {rest : List Char}

/-- A sign only stands in the exponent of a numeral. All else that a numeral
    goes on with is a point or a word character. -/
theorem next?_eq_some (hnext : state.next? base c rest = some next) :
    (c = '.' ∧ next = .fraction) ∨
      (isWordChar c = true ∧ (next = .exponent → c ∈ exponentLetters)) ∨
        ((c = '+' ∨ c = '-') ∧ state = .exponent ∧ next = .exponentDigits) := by
  unfold next? at hnext
  split at hnext
  · next hpoint =>
    split at hnext <;> cases hnext
    exact .inl ⟨eq_of_beq hpoint, rfl⟩
  split at hnext
  · next hdigit =>
    refine .inr (.inl ⟨isWordChar_of_isDigit hdigit, ?_⟩)
    rintro rfl
    split at hnext
    · cases hnext
    · next hstate => exact absurd (Option.some.inj hnext) hstate
  split at hnext
  · next hunderscore =>
    rw [eq_of_beq hunderscore]
    exact .inr (.inl ⟨rfl, fun _ => by decide⟩)
  split at hnext
  · split at hnext
    · next hhex =>
      cases hnext
      exact .inr (.inl ⟨isWordChar_of_digitValue? (Bool.and_eq_true_iff.1 hhex).2, nofun⟩)
    · cases hnext
  split at hnext
  · next hletter =>
    refine .inr (.inl ?_)
    rw [Bool.or_eq_true, beq_iff_eq, beq_iff_eq] at hletter
    obtain rfl | rfl := hletter <;> exact ⟨rfl, fun _ => by decide⟩
  · split at hnext
    · next hsign =>
      rw [Bool.or_eq_true, beq_iff_eq, beq_iff_eq] at hsign
      split at hnext
      · next hstate => exact .inr (.inr ⟨hsign, hstate, (Option.some.inj hnext).symm⟩)
      · cases hnext
    · cases hnext

/-- Behind the sign of an exponent only the underscore could start a name. -/
theorem eq_underscore_of_next? (hnext : next? base .exponentDigits c rest = some next)
    (hstart : isNameStart c = true) : c = '_' := by
  have hpoint : c ≠ '.' := by rintro rfl; cases hstart
  refine Decidable.byContradiction fun hunderscore => ?_
  simp [next?, hpoint, hunderscore, isDigit_eq_false hstart] at hnext

end NumeralState

/-- What the characters of a numeral are. Whether a sign is followed by a name
    matters, because a call of the name would be seen behind the sign. -/
theorem numeralBody_chars {base : Nat} {state : NumeralState} {cs before after : List Char}
    {c : Char} (hbody : (numeralBody base state cs).1 = before ++ c :: after) :
    (isWordChar c = true ∨ c = '.') ∨ ((c = '+' ∨ c = '-') ∧
      (∀ d, after.head? = some d → isNameStart d = true → d = '_') ∧
      (before = [] → state = .exponent) ∧
        ∀ e, before.getLast? = some e → e ∈ exponentLetters) := by
  induction cs generalizing state before with
  | nil => simp [numeralBody] at hbody
  | cons x rest ih =>
    rw [numeralBody] at hbody
    split at hbody
    · next next hnext =>
      cases before with
      | nil =>
        obtain ⟨rfl, rfl⟩ := List.cons.inj hbody
        obtain ⟨hpoint, -⟩ | ⟨hword, -⟩ | ⟨hsign, hstate, rfl⟩ :=
          NumeralState.next?_eq_some hnext
        · exact .inl (.inr hpoint)
        · exact .inl (.inl hword)
        · refine .inr ⟨hsign, fun d hhead hstart => ?_, fun _ => hstate, by simp⟩
          cases rest with
          | nil => simp [numeralBody] at hhead
          | cons y rest =>
            rw [numeralBody] at hhead
            split at hhead
            · next hlater =>
              cases hhead
              exact NumeralState.eq_underscore_of_next? hlater hstart
            · cases hhead
      | cons y before =>
        obtain ⟨rfl, hrest⟩ := List.cons.inj hbody
        refine (ih hrest).imp_right ?_
        rintro ⟨hsign, hafter, hfirst, hlast⟩
        refine ⟨hsign, hafter, by simp, fun e he => ?_⟩
        cases before with
        | nil =>
          cases he
          obtain ⟨-, hnone⟩ | ⟨-, hletter⟩ | ⟨-, -, hnone⟩ := NumeralState.next?_eq_some hnext
          · cases hnone.symm.trans (hfirst rfl)
          · exact hletter (hfirst rfl)
          · cases hnone.symm.trans (hfirst rfl)
        | cons z before => exact hlast e (by rwa [List.getLast?_cons_cons] at he)
    · simp at hbody

/-- The text of a numeral: a digit comes first, and a sign comes after an
    exponent's letter and before nothing that starts a name, except
    underscores. -/
structure IsNumeralText (chunk : List Char) : Prop where
  digit : ∃ c more, chunk = c :: more ∧ c.isDigit = true
  chars : ∀ before c after, chunk = before ++ c :: after →
    (isWordChar c = true ∨ c = '.') ∨ ((c = '+' ∨ c = '-') ∧
      (∀ d, after.head? = some d → isNameStart d = true → d = '_') ∧
        ∃ e ∈ exponentLetters, before.getLast? = some e)

/-- The mark of another base is a letter. -/
theorem exists_of_numeralBase {cs : List Char} (hbase : numeralBase cs ≠ 10) :
    ∃ mark rest, cs = '0' :: mark :: rest ∧ isWordChar mark = true := by
  unfold numeralBase at hbase
  split at hbase
  · next mark rest =>
    have hmark : mark ∈ ['b', 'B', 'o', 'O', 'x', 'X'] := by
      refine Decidable.byContradiction fun hnone => hbase ?_
      simp only [List.mem_cons, not_or] at hnone
      simp [hnone]
    have hall : ['b', 'B', 'o', 'O', 'x', 'X'].all isWordChar = true := rfl
    exact ⟨mark, rest, rfl, List.all_eq_true.1 hall mark hmark⟩
  · exact absurd rfl hbase

/-- A numeral with its mark is the text of a numeral, since the mark has neither
    points nor signs. -/
theorem isNumeralText_append {base : Nat} {state : NumeralState} {lead cs : List Char}
    (hlead : ∀ c ∈ lead, isWordChar c = true) (hstate : state ≠ .exponent)
    (hdigit : ∃ c more, lead ++ (numeralBody base state cs).1 = c :: more ∧ c.isDigit = true) :
    IsNumeralText (lead ++ (numeralBody base state cs).1) := by
  refine ⟨hdigit, fun before c after hsplit => ?_⟩
  have hbody {more : List Char} (hbefore : before = lead ++ more)
      (hrest : (numeralBody base state cs).1 = more ++ c :: after) :
      (isWordChar c = true ∨ c = '.') ∨ ((c = '+' ∨ c = '-') ∧
        (∀ d, after.head? = some d → isNameStart d = true → d = '_') ∧
          ∃ e ∈ exponentLetters, before.getLast? = some e) := by
    refine (numeralBody_chars hrest).imp_right fun ⟨hsign, hafter, hfirst, hlast⟩ => ?_
    have hsome : more ≠ [] := fun hnil => hstate (hfirst hnil)
    refine ⟨hsign, hafter, more.getLast hsome, ?_, ?_⟩
    · exact hlast _ (List.getLast?_eq_some_getLast hsome)
    · rw [hbefore, List.getLast?_append, List.getLast?_eq_some_getLast hsome, Option.some_or]
  obtain ⟨more, hbefore, hrest⟩ | ⟨more, hsome, hrest⟩ := List.append_eq_append_iff.1 hsplit
  · exact hbody hbefore hrest
  · cases more with
    | nil =>
      rw [List.append_nil] at hsome
      exact @hbody [] (by rw [hsome, List.append_nil]) hrest.symm
    | cons d more =>
      obtain ⟨rfl, -⟩ := List.cons.inj hrest
      exact .inl (.inl (hlead _ (by rw [hsome]; simp)))

/-- What the scanner passes as a numeral is the text of one, with or without the
    mark of another base. -/
theorem isNumeralText_of_scanNumeral {c : Char} {rest : List Char} {length : Nat} {token : Token}
    (hdigit : c.isDigit = true) (hscan : scanNumeral (c :: rest) = (length, .ok token)) :
    IsNumeralText (c :: rest.take (length - 1)) := by
  simp only [scanNumeral, Prod.mk.injEq] at hscan
  obtain ⟨rfl, -⟩ := hscan
  by_cases hbase : numeralBase (c :: rest) = 10
  · have hcons : (numeralBody 10 .integer (c :: rest)).1 =
        c :: (numeralBody 10 .integer rest).1 := by
      have hpoint : (c == '.') = false := by
        refine beq_false_of_ne ?_
        rintro rfl
        cases hdigit
      rw [numeralBody, NumeralState.next?, hpoint, if_neg Bool.false_ne_true, if_pos hdigit]
      rfl
    have hpiece : c :: rest.take ((numeralBody 10 .integer (c :: rest)).1.length - 1) =
        [] ++ (numeralBody 10 .integer (c :: rest)).1 := by
      have hstarts := (isNeutral_numeralBody 10 .integer rest).2
      rw [hcons, List.length_cons, Nat.add_sub_cancel, ← List.prefix_iff_eq_take.1 hstarts]
      rfl
    simp only [hbase, beq_self_eq_true, if_true, Nat.zero_add, List.drop_zero, hpiece]
    exact isNumeralText_append (by simp) (by decide) ⟨c, _, by rw [hcons]; rfl, hdigit⟩
  · obtain ⟨mark, tail, hcs, hmark⟩ := exists_of_numeralBase hbase
    obtain ⟨rfl, rfl⟩ := List.cons.inj hcs
    generalize numeralBase ('0' :: mark :: tail) = base at hbase
    have hpiece : '0' :: (mark :: tail).take (2 + (numeralBody base .radix tail).1.length - 1) =
        ['0', mark] ++ (numeralBody base .radix tail).1 := by
      have hstarts := (isNeutral_numeralBody base .radix tail).2
      rw [show 2 + (numeralBody base .radix tail).1.length - 1 =
        (numeralBody base .radix tail).1.length + 1 by omega, List.take_succ_cons,
        ← List.prefix_iff_eq_take.1 hstarts]
      rfl
    simp only [beq_false_of_ne hbase, Bool.false_eq_true, if_false, List.drop_succ_cons,
      List.drop_zero, hpiece]
    refine isNumeralText_append ?_ (by decide) ⟨'0', _, rfl, rfl⟩
    simpa using ⟨rfl, hmark⟩

/-- A token other than a string and a delimiter, with its text and what stands
    behind it. -/
inductive TokenText (behind : List Char) : Token → List Char → Prop where
  | single {c : Char} {sign : Symbol} (hsign : singleSymbol? c = some sign) :
    TokenText behind (.symbol sign) [c]
  | double {c d : Char} {sign : Symbol} (hsign : doubleSymbol? [c, d] = some sign) :
    TokenText behind (.symbol sign) [c, d]
  | numeral {token : Token} {chunk : List Char} (hnumber : token.isNumber = true)
    (htext : IsNumeralText chunk) : TokenText behind token chunk
  | name {word : List Char} (hword : leadingName (word ++ behind) = some word) :
    TokenText behind (.name (String.ofList word)) word

/-- Tokens with the text that they are written as, white space included. -/
inductive Written : List Token → List Char → Prop where
  | done : Written [] []
  | blank {words : List Token} {c : Char} {cs : List Char} (hblank : isAsciiBlank c = true)
    (hwritten : Written words cs) : Written words (c :: cs)
  | token {words : List Token} {token : Token} {chunk cs : List Char}
    (htext : TokenText cs token chunk) (hwritten : Written words cs) :
    Written (token :: words) (chunk ++ cs)

/-- White space before a text is no token. -/
theorem Written.blanks {words : List Token} {blanks cs : List Char}
    (hblanks : ∀ c ∈ blanks, isAsciiBlank c = true) (hwritten : Written words cs) :
    Written words (blanks ++ cs) := by
  induction blanks with
  | nil => exact hwritten
  | cons c blanks ih =>
    obtain ⟨hc, hblanks⟩ := List.forall_mem_cons.1 hblanks
    exact .blank hc (ih hblanks)

/-- A symbol of two characters is told by these two alone. -/
theorem exists_of_doubleSymbol? {c : Char} {rest : List Char} {sign : Symbol}
    (hsign : doubleSymbol? (c :: rest) = some sign) :
    ∃ d, rest = d :: rest.drop 1 ∧ doubleSymbol? [c, d] = some sign := by
  unfold doubleSymbol? at hsign
  split at hsign
  case h_7 => cases hsign
  all_goals
    next heq =>
    cases heq
    exact ⟨_, rfl, hsign⟩

/-- What the scanner passes as a token, apart from strings, is the text of this
    token. -/
theorem WordPiece.tokenText {c : Char} {rest : List Char} {token : Token} {extra : Nat}
    (hpiece : WordPiece c rest token extra) (hseen : token.isSeen = true) :
    TokenText (rest.drop extra) token (c :: rest.take extra) := by
  cases hpiece with
  | double hsign =>
    obtain ⟨d, hrest, hpair⟩ := exists_of_doubleSymbol? hsign
    rw [hrest]
    exact .double hpair
  | single hsign => exact .single hsign
  | string => cases hseen
  | numeral hdigit hscan =>
    exact .numeral (isNumber_of_scanNumeral hscan) (isNumeralText_of_scanNumeral hdigit hscan)
  | @name word hword =>
    obtain ⟨hpiece, hbehind⟩ := split_of_leadingName hword
    rw [hpiece]
    exact .name hbehind

/-- A text that is read without a fault is written in its tokens, if none of
    them is a string or an end of the tag. -/
theorem written_of_lexesTo {kind : Delimiter} {depth : Int} {cs : List Char} {words : List Token}
    (hlexes : LexesTo (.inside kind depth) cs words)
    (hwords : ∀ token ∈ words, token.closes = false ∧ token.isSeen = true) : Written words cs := by
  induction hlength : cs.length using Nat.strongRecOn generalizing depth cs words with
  | ind n ih =>
  subst hlength
  cases cs with
  | nil =>
    rw [← (lexesTo_iff.1 hlexes).1, wordsFrom_nil]
    exact .done
  | cons c rest =>
    obtain ⟨token, extra, next, later, hstep, rfl, hlater⟩ := hlexes.exists_step
    have hlt : (rest.drop extra).length < (c :: rest).length := by
      rw [List.length_drop, List.length_cons]
      omega
    have hrest : ∀ found ∈ later, found.closes = false ∧ found.isSeen = true :=
      fun found hmem => hwords found (List.mem_append_right _ hmem)
    obtain ⟨hblank, rfl, rfl, rfl⟩ | rfl | ⟨-, found, deeper, rfl, rfl, hpiece⟩ :=
      insideStep_eq_pass hstep
    · have hblanks : ∀ d ∈ rest.takeWhile isAsciiBlank, isAsciiBlank d = true :=
        List.all_eq_true.1 List.all_takeWhile
      have happend := (ih _ hlt hlater hrest rfl).blanks hblanks
      rw [List.prefix_iff_eq_append.1 (List.takeWhile_prefix isAsciiBlank)] at happend
      exact .blank hblank happend
    · have hcloses := (hwords kind.endToken (List.mem_append_left _ (by simp))).1
      cases kind <;> cases hcloses
    · have hseen := (hwords found (List.mem_append_left _ (by simp))).2
      have hwritten := Written.token (hpiece.tokenText hseen) (ih _ hlt hlater hrest rfl)
      rwa [List.cons_append, List.take_append_drop] at hwritten

end PromptPacks.Template
