import PromptPacks.Proofs.Template.Writing
import PromptPacks.Template.TagScan

namespace PromptPacks.Template

open PromptPacks.Text

/-- Whether a name stands at the start of a text, before an opening
    parenthesis. -/
def StandsCalled (name cs : List Char) : Prop :=
  ∃ behind, after? name cs = some behind ∧ (behind.dropWhile isBlank).head? = some '('

instance (name cs : List Char) : Decidable (StandsCalled name cs) :=
  decidable_of_iff (((after? name cs).map fun behind => (behind.dropWhile isBlank).head?) =
      some (some '(')) (by simp [StandsCalled])

/-- Whether a name may be called behind a character, as far as the scanner can
    tell. -/
def freesAfter (c : Char) : Bool :=
  c != '.' && !isWordChar c

/-- The same behind some characters. -/
def freesBehind (isFree : Bool) (before : List Char) : Bool :=
  (before.getLast?.map freesAfter).getD isFree

/-- A text that sets a name apart from what stands before it: no white space
    comes between a point and the name, and the name does not begin within a
    number. -/
structure SetsApart (name : String) (cs : List Char) : Prop where
  point : ∀ rest, '.' :: rest <:+ cs → StandsCalled name.toList (rest.dropWhile isBlank) →
    rest.dropWhile isBlank = rest
  exponent : name.toList.head? = some '_' → ∀ letter ∈ exponentLetters, ∀ sign ∈ ['+', '-'],
    ¬letter :: sign :: name.toList <:+: cs

/-- Points are looked for in the texts that stand behind a place, and letters
    and signs among the few that count. -/
theorem setsApart_iff {name : String} {cs : List Char} :
    ((∀ found ∈ cs.tails, found.head? = some '.' →
        StandsCalled name.toList (found.tail.dropWhile isBlank) →
          found.tail.dropWhile isBlank = found.tail) ∧
      (name.toList.head? = some '_' → exponentLetters.all (fun letter =>
        ['+', '-'].all fun sign => ¬letter :: sign :: name.toList <:+: cs) = true)) ↔
      SetsApart name cs := by
  have hsigns : exponentLetters.all (fun letter =>
      ['+', '-'].all fun sign => ¬letter :: sign :: name.toList <:+: cs) = true ↔
        ∀ letter ∈ exponentLetters, ∀ sign ∈ ['+', '-'],
          ¬letter :: sign :: name.toList <:+: cs := by
    simp only [List.all_eq_true, decide_eq_true_eq]
  rw [hsigns]
  constructor
  · rintro ⟨hpoint, hexponent⟩
    refine ⟨fun rest hsuffix => ?_, hexponent⟩
    exact hpoint _ ((List.mem_tails _ cs).2 hsuffix) rfl
  · rintro ⟨hpoint, hexponent⟩
    refine ⟨fun found hmem hhead => ?_, hexponent⟩
    obtain ⟨rest, rfl⟩ := List.head?_eq_some_iff.1 hhead
    exact hpoint rest ((List.mem_tails _ cs).1 hmem)

instance (name : String) : DecidablePred (SetsApart name) :=
  fun _ => decidable_of_iff _ setsApart_iff

/-- What sets a name apart in a text does so in the end of the text. -/
theorem SetsApart.suffix {name : String} {cs rest : List Char} (hapart : SetsApart name cs)
    (hsuffix : rest <:+ cs) : SetsApart name rest where
  point behind hbehind := hapart.point behind (hbehind.trans hsuffix)
  exponent hhead letter hletter sign hsign hfound :=
    hapart.exponent hhead letter hletter sign hsign (hfound.trans hsuffix.isInfix)

/-- Tokens of which no number comes right before a name. -/
def AvoidsNumbers (name : String) (words : List Token) : Prop :=
  ∀ token ∈ words, token.isNumber = true → ¬[token, .name name] <:+: words

instance (name : String) : DecidablePred (AvoidsNumbers name) := fun words =>
  inferInstanceAs (Decidable (∀ token ∈ words, _))

/-- A name that does not touch numbers does not touch them in a part either. -/
theorem AvoidsNumbers.part {name : String} {words part : List Token}
    (havoids : AvoidsNumbers name words) (hpart : part <:+: words) : AvoidsNumbers name part :=
  fun token hmem hnumber hfound =>
    havoids token (hpart.subset hmem) hnumber (hfound.trans hpart)

section

variable {name cs : List Char} {isFree : Bool}

theorem isSome_callOffset?_nil (hname : name ≠ []) :
    (callOffset? name isFree []).isSome = false := by
  obtain ⟨c, letters, rfl⟩ := List.exists_cons_of_ne_nil hname
  simp [callOffset?, after?]

/-- The search for a call looks at the start of a text, or it goes on behind the
    first character. -/
theorem isSome_callOffset?_cons (c : Char) (rest : List Char) :
    (callOffset? name isFree (c :: rest)).isSome = true ↔
      (isFree = true ∧ StandsCalled name (c :: rest)) ∨
        (callOffset? name (freesAfter c) rest).isSome = true := by
  rw [callOffset?, StandsCalled]
  cases hafter : after? name (c :: rest) with
  | none => simp [freesAfter]
  | some behind =>
    by_cases hhere : isFree = true ∧ (behind.dropWhile isBlank).head? = some '('
    · simp [hhere]
    · have hnot : (isFree && (behind.dropWhile isBlank).head? == some '(') = false := by
        simpa using hhere
      simp [hnot, hhere, freesAfter]

/-- A stretch of text in which the name is not called. Only whether the name
    would be free behind it is kept of the stretch. -/
theorem isSome_callOffset?_append {chunk : List Char}
    (hchunk : ∀ before after, chunk = before ++ after → after ≠ [] →
      freesBehind isFree before = true → ¬StandsCalled name (after ++ cs)) :
    (callOffset? name isFree (chunk ++ cs)).isSome = true ↔
      (callOffset? name (freesBehind isFree chunk) cs).isSome = true := by
  induction chunk generalizing isFree with
  | nil => exact Iff.rfl
  | cons c chunk ih =>
    have hhere : ¬(isFree = true ∧ StandsCalled name (c :: chunk ++ cs)) := fun hhere =>
      hchunk [] (c :: chunk) rfl (List.cons_ne_nil c chunk) hhere.1 hhere.2
    have hlast (before : List Char) :
        freesBehind (freesAfter c) before = freesBehind isFree (c :: before) := by
      cases before <;> rfl
    rw [List.cons_append] at hhere ⊢
    rw [isSome_callOffset?_cons, or_iff_right hhere, ih, hlast]
    intro before after hsplit hafter hfree
    rw [hlast] at hfree
    exact hchunk (c :: before) after (by rw [hsplit]; rfl) hafter hfree

end

/-- Where a name stands called: the name, white space, and the opening
    parenthesis. -/
theorem exists_of_standsCalled {name cs : List Char} (hname : leadingName name = some name)
    (hcalled : StandsCalled name cs) :
    ∃ c rest behind, cs = c :: rest ∧ cs = name ++ behind ∧ name.head? = some c ∧
      isNameStart c = true ∧ leadingName cs = some name ∧
        (behind.dropWhile isBlank).head? = some '(' := by
  obtain ⟨behind, hafter, hhead⟩ := hcalled
  obtain rfl := eq_append_of_after? hafter
  obtain ⟨c, rest, hcons, hstart, -⟩ := exists_of_leadingName hname
  refine ⟨c, rest ++ behind, behind, by rw [hcons, List.cons_append], rfl, by rw [hcons]; rfl,
    hstart, leadingName_append.2 ⟨hname, ?_⟩, hhead⟩
  cases behind with
  | nil => rfl
  | cons d tail =>
    refine List.takeWhile_cons_of_neg fun hchar => ?_
    rw [List.dropWhile_cons_of_neg (by simp [isBlank_eq_false hchar])] at hhead
    cases hhead
    cases hchar

/-- A symbol of one character lets the next name be free unless it is a point. -/
theorem freesAfter_of_singleSymbol? {c : Char} {sign : Symbol}
    (hsign : singleSymbol? c = some sign) :
    freesAfter c = (sign != .dot) ∧ isBlank c = false ∧ (c = '(' ↔ sign = .parenOpen) := by
  unfold singleSymbol? at hsign
  split at hsign <;> cases hsign
  all_goals exact ⟨rfl, rfl, by decide⟩

/-- A symbol of two characters lets the next name be free in any case. -/
theorem freesAfter_of_doubleSymbol? {c d : Char} {sign : Symbol}
    (hsign : doubleSymbol? [c, d] = some sign) :
    sign ≠ .dot ∧ sign ≠ .parenOpen ∧ freesAfter d = true ∧ isNameStart d = false ∧
      isBlank c = false ∧ c ≠ '(' := by
  unfold doubleSymbol? at hsign
  split at hsign
  case h_7 => cases hsign
  all_goals
    next heq =>
    cases heq
    cases hsign
    decide

/-- White space lets the next name be free, also behind a point. -/
theorem freesAfter_of_isAsciiBlank {c : Char} (hblank : isAsciiBlank c = true) :
    freesAfter c = true := by
  simp only [isAsciiBlank, Bool.or_eq_true, beq_iff_eq] at hblank
  obtain (((rfl | rfl) | rfl) | rfl) | hcode := hblank
  case inr =>
    obtain rfl : c = Char.ofNat 0x0C := by rw [← hcode, Char.ofNat_toNat]
    rfl
  all_goals rfl

/-- A name does not start within another one. -/
theorem freesAfter_eq_false {c : Char} (hchar : isNameChar c = true) : freesAfter c = false := by
  rw [freesAfter, isWordChar_of_isNameChar hchar, Bool.not_true, Bool.and_false]

namespace TokenText

variable {token : Token} {chunk cs : List Char} {words : List Token}

/-- The text of a token begins with a character that is no white space, and with
    a parenthesis only if the token is one. -/
theorem exists_cons (htext : TokenText cs token chunk) :
    ∃ c more, chunk = c :: more ∧ isBlank c = false ∧
      (c = '(' ↔ token = .symbol .parenOpen) := by
  cases htext with
  | @single c sign hsign =>
    obtain ⟨-, hblank, hparen⟩ := freesAfter_of_singleSymbol? hsign
    exact ⟨c, [], rfl, hblank, by simpa using hparen⟩
  | @double c d sign hsign =>
    obtain ⟨-, hsign, -, -, hblank, hparen⟩ := freesAfter_of_doubleSymbol? hsign
    exact ⟨c, [d], rfl, hblank, iff_of_false hparen (by simpa using hsign)⟩
  | numeral hnumber htext =>
    obtain ⟨c, more, rfl, hdigit⟩ := htext.digit
    have hchar : isNameChar c = true := by simp [isNameChar, Char.isAlphanum, hdigit]
    refine ⟨c, more, rfl, isBlank_eq_false hchar, iff_of_false ?_ ?_⟩
    · rintro rfl
      cases hdigit
    · rintro rfl
      cases hnumber
  | name hword =>
    obtain ⟨c, more, hcons, hstart, -⟩ := exists_of_leadingName (leadingName_append.1 hword).1
    have hblank := isBlank_eq_false (isNameChar_of_isNameStart hstart)
    refine ⟨c, more, hcons, hblank, iff_of_false ?_ (by simp)⟩
    rintro rfl
    cases hstart

theorem isSeen (htext : TokenText cs token chunk) : token.isSeen = true := by
  cases htext with
  | numeral hnumber => cases token <;> first | rfl | cases hnumber
  | _ => rfl

/-- Where a name stands before parentheses, it is the token that comes first, as
    all other tokens start with a character that starts no name. -/
theorem eq_name {name : String} (hname : leadingName name.toList = some name.toList)
    (htext : TokenText cs token chunk) (hcalled : StandsCalled name.toList (chunk ++ cs)) :
    token = .name name ∧ chunk = name.toList := by
  obtain ⟨c, rest, behind, hcons, -, -, hstart, hleading, -⟩ := exists_of_standsCalled hname hcalled
  cases htext with
  | single hsign =>
    cases hcons
    rw [singleSymbol?_of_isNameStart hstart] at hsign
    cases hsign
  | double hsign =>
    cases hcons
    rw [doubleSymbol?_of_isNameStart hstart] at hsign
    cases hsign
  | numeral hnumber htext =>
    obtain ⟨d, more, rfl, hdigit⟩ := htext.digit
    cases hcons
    rw [isDigit_eq_false hstart] at hdigit
    cases hdigit
  | name hword =>
    obtain rfl := Option.some.inj (hword.symm.trans hleading)
    exact ⟨by rw [String.ofList_toList], rfl⟩

/-- The token for a point is written as a point. A numeral may have points as
    well, but is another token. -/
theorem eq_point (htext : TokenText cs (.symbol .dot) chunk) : chunk = ['.'] := by
  generalize hword : Token.symbol .dot = token at htext
  cases htext with
  | @single c sign hsign =>
    cases hword
    unfold singleSymbol? at hsign
    split at hsign <;> first | rfl | cases hsign
  | double hsign =>
    cases hword
    exact absurd rfl (freesAfter_of_doubleSymbol? hsign).1
  | numeral hnumber =>
    rw [← hword] at hnumber
    cases hnumber
  | name => cases hword

/-- A name that stands right behind a token is free, unless the token is a point
    or a number. -/
theorem freesBehind_eq_true {name : String} {isFree : Bool}
    (hname : leadingName name.toList = some name.toList) (htext : TokenText cs token chunk)
    (hcalled : StandsCalled name.toList cs) (hpoint : token ≠ .symbol .dot)
    (hnumber : token.isNumber = false) : freesBehind isFree chunk = true := by
  cases htext with
  | single hsign =>
    rw [freesBehind, List.getLast?_singleton, Option.map_some, Option.getD_some,
      (freesAfter_of_singleSymbol? hsign).1]
    exact bne_iff_ne.2 fun hdot => hpoint (congrArg Token.symbol hdot)
  | double hsign => exact (freesAfter_of_doubleSymbol? hsign).2.2.1
  | numeral htoken =>
    rw [htoken] at hnumber
    cases hnumber
  | name hword =>
    obtain ⟨c, rest, behind, rfl, -, -, hstart, -⟩ := exists_of_standsCalled hname hcalled
    have hnone := (leadingName_append.1 hword).2
    rw [List.takeWhile_cons_of_pos (isNameChar_of_isNameStart hstart)] at hnone
    cases hnone

/-- Within the text of a token only the sign of an exponent frees what stands
    behind it, and only an underscore could start a name there. -/
theorem exists_letter_of_freesAfter {start later : List Char} {last d : Char}
    (htext : TokenText cs token (start ++ last :: d :: later)) (hfree : freesAfter last = true)
    (hstart : isNameStart d = true) :
    d = '_' ∧ last ∈ ['+', '-'] ∧ ∃ letter ∈ exponentLetters, start.getLast? = some letter := by
  generalize hchunk : start ++ last :: d :: later = chunk at htext
  cases htext with
  | single =>
    have hlength := congrArg List.length hchunk
    simp only [List.length_append, List.length_cons, List.length_nil] at hlength
    omega
  | @double first second _ hsign =>
    have hlength := congrArg List.length hchunk
    simp only [List.length_append, List.length_cons, List.length_nil] at hlength
    obtain rfl : start = [] := List.eq_nil_of_length_eq_zero (by omega)
    cases hchunk
    obtain ⟨-, -, -, hnone, -⟩ := freesAfter_of_doubleSymbol? hsign
    rw [hstart] at hnone
    cases hnone
  | name hword =>
    have hchar := isNameChar_of_leadingName hword last (by rw [← hchunk]; simp)
    rw [freesAfter_eq_false hchar] at hfree
    cases hfree
  | numeral hnumber htext =>
    obtain (hword | rfl) | ⟨hsign, hunderscore, hletter⟩ := htext.chars start last _ hchunk.symm
    · rw [freesAfter, hword, Bool.not_true, Bool.and_false] at hfree
      cases hfree
    · cases hfree
    · exact ⟨hunderscore d rfl hstart, by simpa using hsign, hletter⟩

/-- In the text of a token a name is called nowhere but at its start. The
    exponents of numbers are the one place where a name could be hidden in a
    token. -/
theorem isSome_callOffset? {name : String} {isFree : Bool}
    (hname : leadingName name.toList = some name.toList) (htext : TokenText cs token chunk)
    (hexponent : name.toList.head? = some '_' → ∀ letter ∈ exponentLetters, ∀ sign ∈ ['+', '-'],
      ¬letter :: sign :: name.toList <:+: chunk ++ cs) :
    (callOffset? name.toList isFree (chunk ++ cs)).isSome = true ↔
      (isFree = true ∧ StandsCalled name.toList (chunk ++ cs)) ∨
        (callOffset? name.toList (freesBehind isFree chunk) cs).isSome = true := by
  obtain ⟨c, more, rfl, -⟩ := htext.exists_cons
  have hlast (before : List Char) :
      freesBehind (freesAfter c) before = freesBehind isFree (c :: before) := by
    cases before <;> rfl
  rw [List.cons_append, isSome_callOffset?_cons, ← hlast more]
  refine or_congr_right ?_
  refine isSome_callOffset?_append fun before after hsplit hafter hfree hcalled => ?_
  obtain ⟨d, rest, behind, hcons, happend, hhead, hstart, -⟩ := exists_of_standsCalled hname hcalled
  obtain ⟨later, rfl⟩ : ∃ later, after = d :: later := by
    cases after with
    | nil => exact absurd rfl hafter
    | cons e later => exact ⟨later, by rw [(List.cons.inj hcons).1]⟩
  obtain ⟨start, last, hbefore⟩ : ∃ start last, c :: before = start ++ [last] :=
    ⟨_, _, (List.dropLast_concat_getLast (List.cons_ne_nil c before)).symm⟩
  have hchunk : c :: more = start ++ last :: d :: later := by
    rw [hsplit, ← List.cons_append, hbefore, List.append_assoc]
    rfl
  rw [hlast, hbefore, freesBehind, List.getLast?_concat, Option.map_some, Option.getD_some] at hfree
  obtain ⟨rfl, hsign, letter, hletter, hends⟩ :=
    exists_letter_of_freesAfter (hchunk ▸ htext) hfree hstart
  obtain ⟨init, rfl⟩ := List.getLast?_eq_some_iff.1 hends
  refine hexponent hhead letter hletter last hsign ⟨init, behind, ?_⟩
  rw [hchunk, List.append_assoc, List.append_assoc, List.append_assoc]
  exact congrArg (init ++ letter :: last :: ·) happend.symm

end TokenText

namespace Written

variable {words : List Token} {cs : List Char}

/-- A parenthesis comes first in a text exactly where it comes first among the
    tokens. -/
theorem head?_dropWhile (hwritten : Written words cs) :
    (cs.dropWhile isBlank).head? = some '(' ↔ words.head? = some (.symbol .parenOpen) := by
  induction hwritten with
  | done => simp
  | blank hblank hwritten ih =>
    rwa [List.dropWhile_cons_of_pos (isBlank_of_isAsciiBlank hblank)]
  | token htext hwritten ih =>
    obtain ⟨c, more, rfl, hblank, hparen⟩ := htext.exists_cons
    rw [List.cons_append, List.dropWhile_cons_of_neg (by simp [hblank])]
    simpa using hparen

variable {name : String}

/-- A name stands called in a text exactly if the token for it comes first and
    is called. -/
theorem standsCalled_iff {token : Token} {chunk : List Char}
    (hname : leadingName name.toList = some name.toList) (htext : TokenText cs token chunk)
    (hwritten : Written words cs) :
    StandsCalled name.toList (chunk ++ cs) ↔ IsCalled name (token :: words) := by
  rw [isCalled_cons, ← hwritten.head?_dropWhile]
  constructor
  · intro hcalled
    obtain ⟨rfl, rfl⟩ := htext.eq_name hname hcalled
    obtain ⟨behind, hafter, hhead⟩ := hcalled
    rw [after?_append] at hafter
    cases hafter
    exact ⟨rfl, hhead⟩
  · rintro ⟨rfl, hhead⟩
    refine ⟨cs, ?_, hhead⟩
    generalize hword : Token.name name = token at htext
    cases htext with
    | numeral hnumber =>
      rw [← hword] at hnumber
      cases hnumber
    | name =>
      cases hword
      rw [String.toList_ofList, after?_append]
    | _ => cases hword

/-- Where a name stands called, its token comes first. -/
theorem exists_cons_of_called (hname : leadingName name.toList = some name.toList)
    (hwritten : Written words cs) (hcalled : StandsCalled name.toList cs) :
    ∃ later, words = .name name :: later := by
  obtain ⟨c, rest, behind, hcons, -, -, hstart, -⟩ :=
    exists_of_standsCalled hname hcalled
  cases hwritten with
  | done => cases hcons
  | blank hblank =>
    cases hcons
    rw [isAsciiBlank_eq_false hstart] at hblank
    cases hblank
  | token htext => exact ⟨_, by rw [(htext.eq_name hname hcalled).1]⟩

/-- The scanner finds a call in a text that sets the name apart exactly where
    the tokens show one. The two may disagree on whether a name at the start is
    free, as long as none stands there. -/
theorem isSome_callOffset?_iff {isFree free : Bool}
    (hname : leadingName name.toList = some name.toList) (hwritten : Written words cs)
    (hapart : SetsApart name cs) (hnumbers : AvoidsNumbers name words)
    (hfree : free = true → StandsCalled name.toList cs → isFree = true)
    (hbound : free = false → StandsCalled name.toList (cs.dropWhile isBlank) →
      isFree = false ∧ cs.dropWhile isBlank = cs) :
    (callOffset? name.toList isFree cs).isSome = true ↔ ShowsCall name free words := by
  induction hwritten generalizing isFree free with
  | done =>
    have hsome : name.toList ≠ [] := by
      intro hnil
      rw [hnil] at hname
      cases hname
    simp [isSome_callOffset?_nil hsome, ShowsCall]
  | @blank words c cs hblank hwritten ih =>
    have hnot : ¬StandsCalled name.toList (c :: cs) := fun hcalled => by
      obtain ⟨d, rest, behind, hcons, -, -, hstart, -⟩ :=
        exists_of_standsCalled hname hcalled
      cases hcons
      rw [isAsciiBlank_eq_false hstart] at hblank
      cases hblank
    rw [isSome_callOffset?_cons, or_iff_right fun hhere => hnot hhere.2,
      freesAfter_of_isAsciiBlank hblank]
    refine ih (hapart.suffix (List.suffix_cons c cs)) hnumbers (fun _ _ => rfl) ?_
    intro hfalse hcalled
    rw [List.dropWhile_cons_of_pos (isBlank_of_isAsciiBlank hblank)] at hbound
    have hlength := (List.dropWhile_suffix isBlank (l := cs)).length_le
    rw [(hbound hfalse hcalled).2, List.length_cons] at hlength
    omega
  | @token words token chunk cs htext hwritten ih =>
    have hcalled := hwritten.standsCalled_iff hname htext
    obtain ⟨c, more, hcons, hblank, -⟩ := htext.exists_cons
    have hdrop : (chunk ++ cs).dropWhile isBlank = chunk ++ cs := by
      rw [hcons, List.cons_append, List.dropWhile_cons_of_neg (by simp [hblank])]
    rw [hdrop] at hbound
    have hhere : isFree = true ∧ StandsCalled name.toList (chunk ++ cs) ↔
        free = true ∧ IsCalled name (token :: words) := by
      rw [← hcalled]
      refine and_congr_left fun hstands => ⟨fun htrue => ?_, fun htrue => hfree htrue hstands⟩
      cases free with
      | true => rfl
      | false =>
        rw [(hbound rfl hstands).1] at htrue
        cases htrue
    have hlater := hapart.suffix (List.suffix_append chunk cs)
    have hothers := hnumbers.part (List.suffix_cons token words).isInfix
    have hframe : token.frees free = (token != .symbol .dot) := by
      rw [Token.frees, if_pos htext.isSeen]
    rw [htext.isSome_callOffset? hname hapart.exponent, ShowsCall, hhere, hframe]
    refine or_congr_right (ih hlater hothers (fun hnext hstands => ?_) fun hpoint hstands => ?_)
    · refine htext.freesBehind_eq_true hname hstands (bne_iff_ne.1 hnext) ?_
      obtain ⟨later, rfl⟩ := hwritten.exists_cons_of_called hname hstands
      rw [← Bool.not_eq_true]
      exact fun hnumber => hnumbers token List.mem_cons_self hnumber ⟨[], later, rfl⟩
    · obtain rfl : token = .symbol .dot := by simpa using hpoint
      obtain rfl := htext.eq_point
      exact ⟨rfl, hapart.point cs (List.suffix_refl _) hstands⟩

end Written

end PromptPacks.Template
