import PromptPacks.Template.StmtParser

namespace PromptPacks.Template

/-- The tokens that are left, without their places. -/
def Cursor.words (cursor : Cursor) : List Token :=
  cursor.tokens.map (·.value)

namespace Parser

variable {α β : Type}

/-- What a reader makes of the tokens that are left wherever it does not stop at
    a fault. -/
def Reads (before : List Token → Prop) (parser : Parser α) (after : α → List Token → Prop) : Prop :=
  ∀ cursor answer rest, parser cursor = .ok (answer, rest) → before cursor.words →
    after answer rest.words

variable {before : List Token → Prop} {after : β → List Token → Prop}

/-- A reader may be run on fewer texts than it is known for. -/
theorem Reads.weaken {stronger : List Token → Prop} {parser : Parser β}
    (hreads : Reads before parser after) (hbefore : ∀ words, stronger words → before words) :
    Reads stronger parser after :=
  fun cursor answer rest hrun hwords => hreads cursor answer rest hrun (hbefore _ hwords)

/-- Of what a reader is known to leave, a part may be enough. -/
theorem Reads.imp {weaker : β → List Token → Prop} {parser : Parser β}
    (hreads : Reads before parser after)
    (hafter : ∀ answer words, after answer words → weaker answer words) :
    Reads before parser weaker :=
  fun cursor answer rest hrun hwords =>
    hafter _ _ (hreads cursor answer rest hrun hwords)

/-- Nothing has to be shown of a reader that is never reached. -/
theorem reads_absurd {parser : Parser β} (hbefore : ∀ words, ¬before words) :
    Reads before parser after :=
  fun cursor _ _ _ hwords => absurd hwords (hbefore cursor.words)

/-- A reader that reads nothing leaves the tokens as they are. -/
theorem reads_pure {answer : β} (hafter : ∀ words, before words → after answer words) :
    Reads before (pure answer) after := by
  rintro cursor _ _ ⟨⟩ hwords
  exact hafter _ hwords

/-- A reader that stops at a fault leaves nothing to be shown. -/
theorem reads_fail {fault : ParseFault} : Reads before (fail fault) after := by
  rintro cursor _ _ ⟨⟩

/-- The second reader starts where the first one ends. What holds there may
    speak of the answer of the first one. -/
theorem reads_bind {middle : α → List Token → Prop} {first : Parser α} {second : α → Parser β}
    (hfirst : Reads before first middle)
    (hsecond : ∀ answer, Reads (middle answer) (second answer) after) :
    Reads before (first >>= second) after := by
  intro cursor answer rest hrun hwords
  cases hstart : first cursor with
  | error fault => simp [bind, StateT.bind, Except.bind, hstart] at hrun
  | ok result =>
    simp only [bind, StateT.bind, Except.bind, hstart] at hrun
    exact hsecond result.1 result.2 answer rest hrun (hfirst cursor _ _ hstart hwords)

/-- A known answer goes straight to the second reader. -/
theorem reads_pure_bind {answer : α} {second : α → Parser β}
    (hsecond : Reads before (second answer) after) :
    Reads before (pure answer >>= second) after := by
  rwa [pure_bind]

/-- A change of the answer alone leaves the tokens as the reader has left them. -/
theorem reads_map {middle : α → List Token → Prop} {parser : Parser α} {f : α → β}
    (hparser : Reads before parser middle)
    (hafter : ∀ answer words, middle answer words → after (f answer) words) :
    Reads before (f <$> parser) after := by
  rw [map_eq_pure_bind]
  exact reads_bind hparser fun answer => reads_pure (hafter answer)

/-- Of two readers one is run, and what decides between them may be used for
    it. -/
theorem reads_ite {condition : Prop} [Decidable condition] {yes no : Parser β}
    (hyes : condition → Reads before yes after) (hno : ¬condition → Reads before no after) :
    Reads before (if condition then yes else no) after := by
  by_cases hcondition : condition
  · rw [if_pos hcondition]
    exact hyes hcondition
  · rw [if_neg hcondition]
    exact hno hcondition

/-- The other branch may also come at the end of the first one. It is looked at
    only once, although the reader has it in two places. -/
theorem reads_ite_join {condition : Prop} [Decidable condition] {yes no : Parser β}
    (hno : Reads before no after) (hyes : Reads before no after → Reads before yes after) :
    Reads before (if condition then yes else no) after :=
  reads_ite (fun _ => hyes hno) fun _ => hno

/-- What a reader looks up of its state tells nothing about the tokens. -/
theorem reads_get_bind {second : Cursor → Parser β}
    (hsecond : ∀ cursor, Reads before (second cursor) after) :
    Reads before (get >>= second) after :=
  fun cursor answer rest hrun hwords => hsecond cursor cursor answer rest hrun hwords

/-- A change of what a cursor keeps besides the tokens is not seen. -/
theorem reads_modify_bind {update : Cursor → Cursor}
    (hupdate : ∀ cursor, (update cursor).words = cursor.words) {second : PUnit → Parser β}
    (hsecond : Reads before (second ⟨⟩) after) :
    Reads before (modify update >>= second) after :=
  fun cursor answer rest hrun hwords =>
    hsecond (update cursor) answer rest hrun ((hupdate cursor).symm ▸ hwords)

/-- A look at the next token tells what it is, and leaves it where it is. At the
    end of the text there is none, unless the text has a fault. -/
theorem reads_peek_bind {second : Option Token → Parser β}
    (hsecond : ∀ token,
      Reads (fun words => before words ∧ words.head? = token) (second token) after) :
    Reads before (peek >>= second) after := by
  intro cursor answer rest hrun hwords
  simp only [bind, StateT.bind, Except.bind, peek] at hrun
  cases htokens : cursor.tokens with
  | nil =>
    cases hfault : cursor.fault with
    | none =>
      simp only [htokens, hfault] at hrun
      exact hsecond none cursor answer rest hrun ⟨hwords, by simp [Cursor.words, htokens]⟩
    | some fault => simp [htokens, hfault] at hrun
  | cons token tokens =>
    simp only [htokens] at hrun
    exact hsecond _ cursor answer rest hrun ⟨hwords, by simp [Cursor.words, htokens]⟩

/-- The next token is passed. At the end of the text there is none, and the text
    stays empty. -/
theorem reads_next_bind {second : Option Token → Parser β}
    (hnone : Reads (fun words => before words ∧ words = []) (second none) after)
    (hsome : ∀ token, Reads (fun words => before (token :: words)) (second (some token)) after) :
    Reads before (next >>= second) after := by
  intro cursor answer rest hrun hwords
  simp only [bind, StateT.bind, Except.bind, next] at hrun
  cases htokens : cursor.tokens with
  | nil =>
    cases hfault : cursor.fault with
    | none =>
      simp only [htokens, hfault] at hrun
      exact hnone cursor answer rest hrun ⟨hwords, by simp [Cursor.words, htokens]⟩
    | some fault => simp [htokens, hfault] at hrun
  | cons token tokens =>
    simp only [htokens] at hrun
    simp only [Cursor.words, htokens, List.map_cons] at hwords
    exact hsome token.value _ answer rest hrun hwords

/-- Behind a fault nothing is read. -/
theorem reads_fail_bind {fault : ParseFault} {second : α → Parser β} :
    Reads before (fail fault >>= second) after := by
  rintro cursor _ _ ⟨⟩

/-- A token that has to be there is passed, without a case for the end of the
    text. -/
theorem reads_take_bind {expected : String} {second : Token → Parser β}
    (hsecond : ∀ token, Reads (fun words => before (token :: words)) (second token) after) :
    Reads before (take expected >>= second) after := by
  rw [take, bind_assoc]
  exact reads_next_bind reads_fail_bind hsecond

/-- Whether a certain token comes next is known in both branches, and it has not
    been passed in either. -/
theorem reads_isNext_ite {token : Token} {yes no : Parser β}
    (hyes : Reads (fun words => before words ∧ words.head? = some token) yes after)
    (hno : Reads (fun words => before words ∧ words.head? ≠ some token) no after) :
    Reads before (isNext token >>= fun found => if found = true then yes else no) after := by
  rw [isNext, bind_assoc]
  refine reads_peek_bind fun found => ?_
  rw [pure_bind]
  refine reads_ite (fun hfound => hyes.weaken ?_) fun hfound => hno.weaken ?_
  · rintro words ⟨hwords, rfl⟩
    exact ⟨hwords, by simpa using hfound⟩
  · rintro words ⟨hwords, rfl⟩
    exact ⟨hwords, by simpa using hfound⟩

/-- A token that has been looked at is passed. There is no case for the end of
    the text, as it is known which token comes. -/
theorem reads_head_next_bind {token : Token} {second : Option Token → Parser β}
    (hsecond : Reads (fun words => before (token :: words)) (second (some token)) after) :
    Reads (fun words => before words ∧ words.head? = some token) (next >>= second) after := by
  refine reads_next_bind ?_ fun found => ?_
  · rintro cursor answer rest - ⟨⟨-, hhead⟩, hempty⟩
    rw [hempty] at hhead
    cases hhead
  · by_cases hfound : found = token
    · subst hfound
      exact hsecond.weaken fun words => And.left
    · rintro cursor answer rest - ⟨-, hhead⟩
      exact absurd (Option.some.inj hhead) hfound

/-- A certain token is passed if it comes next, and is known not to come next
    otherwise. -/
theorem reads_skip_ite {token : Token} {yes no : Parser β}
    (hyes : Reads (fun words => before (token :: words)) yes after)
    (hno : Reads (fun words => before words ∧ words.head? ≠ some token) no after) :
    Reads before (skip token >>= fun found => if found = true then yes else no) after := by
  have hskip : (skip token >>= fun found => if found = true then yes else no) =
      isNext token >>= fun found => if found = true then next >>= fun _ => yes else no := by
    rw [skip, bind_assoc]
    congr 1
    funext found
    cases found <;> simp
  rw [hskip]
  exact reads_isNext_ite (reads_head_next_bind hyes) hno

/-- A token that may be there is passed if it is. The answer tells which of the
    two has happened. -/
theorem reads_skip (token : Token) :
    Reads before (skip token) fun found words =>
      if found = true then before (token :: words)
      else before words ∧ words.head? ≠ some token := by
  have hskip : skip token =
      skip token >>= fun found => if found = true then pure true else pure false := by
    have hpure : (fun found => if found = true then (pure true : Parser Bool) else pure false) =
        pure := by
      funext found
      cases found <;> rfl
    rw [hpure, bind_pure]
  rw [hskip]
  exact reads_skip_ite (reads_pure fun _ => id) (reads_pure fun _ => id)

/-- A certain token that has to be there is passed, and nothing else can have
    stood there. -/
theorem reads_expect_bind {token : Token} {second : Unit → Parser β}
    (hsecond : Reads (fun words => before (token :: words)) (second ()) after) :
    Reads before (expect token >>= second) after := by
  rw [expect, bind_assoc]
  refine reads_take_bind fun found => ?_
  by_cases hfound : found = token
  · simpa [hfound] using hsecond
  · simpa [hfound] using reads_fail_bind

/-- A word of the language that has to be there is passed. -/
theorem reads_expectWord_bind {word : String} {second : Unit → Parser β}
    (hsecond : Reads (fun words => before (.name word :: words)) (second ()) after) :
    Reads before (expectWord word >>= second) after := by
  rw [expectWord, bind_assoc]
  refine reads_take_bind fun found => ?_
  by_cases hfound : found = .name word
  · simpa [hfound] using hsecond
  · simpa [hfound] using reads_fail_bind

/-- A name that has to be there is passed and is the answer. -/
theorem reads_expectName_bind {second : String → Parser β}
    (hsecond : ∀ word, Reads (fun words => before (.name word :: words)) (second word) after) :
    Reads before (expectName >>= second) after := by
  rw [expectName, bind_assoc]
  refine reads_take_bind fun found => ?_
  cases found with
  | name word => simpa using hsecond word
  | _ => exact reads_fail_bind

/-- What a step of a loop leads to: a state that keeps the invariant, or the
    result. -/
def Progress.Meets (invariant : α → List Token → Prop) (after : β → List Token → Prop) :
    Progress α β → List Token → Prop
  | .again state => invariant state
  | .done result => after result

/-- What every step keeps, any number of steps keeps. Running out of steps
    counts as a fault, so it needs no case. -/
theorem reads_rounds {invariant : α → List Token → Prop} {step : α → Parser (Progress α β)}
    (hstep : ∀ state, Reads (invariant state) (step state) (Progress.Meets invariant after))
    (n : Nat) (state : α) : Reads (invariant state) (rounds step n state) after := by
  induction n generalizing state with
  | zero => exact reads_fail
  | succ n ih =>
    rw [rounds]
    refine reads_bind (hstep state) fun progress => ?_
    cases progress with
    | again state => exact ih state
    | done result => exact reads_pure fun _ => id

/-- What every step of a loop keeps, the loop keeps. The number of steps it may
    take does not matter. -/
theorem reads_loop (invariant : α → List Token → Prop) {step : α → Parser (Progress α β)}
    (hstep : ∀ state, Reads (invariant state) (step state) (Progress.Meets invariant after))
    (state : α) : Reads (invariant state) (loop step state) after := by
  rw [loop]
  exact reads_get_bind fun cursor => reads_rounds hstep _ state

/-- What comes behind a loop starts with what the loop keeps. The invariant is
    given first, since it can not be found from the goal. -/
theorem reads_loop_bind {γ : Type} (invariant : α → List Token → Prop)
    (result : β → List Token → Prop) {step : α → Parser (Progress α β)} {second : β → Parser γ}
    {after : γ → List Token → Prop} {state : α}
    (hstep : ∀ state, Reads (invariant state) (step state) (Progress.Meets invariant result))
    (hsecond : ∀ answer, Reads (result answer) (second answer) after) :
    Reads (invariant state) (loop step state >>= second) after :=
  reads_bind (reads_loop invariant hstep state) hsecond

/-- Items between commas: what holds of the items read so far is kept by commas
    and by further items, and gives what is to hold at the closing sign. -/
theorem reads_commaSeparated (invariant : List α → List Token → Prop) {closing : Symbol}
    {item : List α → Parser α} {after : List α → List Token → Prop}
    (hclosing : ∀ items words, invariant items (.symbol closing :: words) →
      after items.reverse words)
    (hcomma : ∀ items words, invariant items (.symbol .comma :: words) → invariant items words)
    (hitem : ∀ items,
      Reads (invariant items) (item items) fun found => invariant (found :: items)) :
    Reads (invariant []) (commaSeparated closing item) after := by
  refine reads_loop invariant (fun items => ?_) []
  have hagain : Reads (invariant items) (item items >>= fun found => pure (.again (found :: items)))
      (Progress.Meets invariant after) :=
    reads_bind (hitem items) fun found => reads_pure fun _ => id
  refine reads_skip_ite (reads_pure (hclosing items)) ?_
  refine reads_ite (fun _ => ?_) fun _ => ?_
  · refine reads_expect_bind (reads_skip_ite (reads_pure ?_) (hagain.weaken ?_))
    · exact fun words hwords => hclosing items words (hcomma items _ hwords.1)
    · exact fun words hwords => hcomma items words hwords.1.1
  · exact hagain.weaken fun words => And.left

end Parser

namespace Inner

open PromptPacks.Template.Parser

variable {inner : Inner} {stops : List String} {after : List Stmt → List Token → Prop}

/-- Pieces of a body: what holds of the pieces read so far is kept by texts and
    by what stands between delimiters, and gives what is to hold at the end of
    the body. The word for the end is left to what is around the body. -/
theorem reads_pieces (invariant : List Stmt → List Token → Prop)
    (hend : ∀ earlier, invariant earlier [] → after earlier.reverse [])
    (hstop : ∀ earlier, ∀ word ∈ stops, ∀ words,
      invariant earlier (.tagStart :: .name word :: words) →
        after earlier.reverse (.name word :: words))
    (htext : ∀ earlier content words, invariant earlier (.text content :: words) →
      invariant (.text content :: earlier) words)
    (hvalue : ∀ earlier, Reads (fun words => invariant earlier (.exprStart :: words)) inner.expr
      fun value => invariant (.output value :: earlier))
    (hvalueEnd : ∀ earlier words, invariant earlier (.exprEnd :: words) → invariant earlier words)
    (hstmt : ∀ earlier, Reads (fun words => invariant earlier (.tagStart :: words)) inner.stmt
      fun stmt => invariant (stmt :: earlier))
    (hstmtEnd : ∀ earlier words, invariant earlier (.tagEnd :: words) → invariant earlier words) :
    Reads (invariant []) (inner.bodyUntil stops) after := by
  refine reads_loop invariant (fun earlier => reads_next_bind ?_ fun token => ?_) []
  · refine reads_pure ?_
    rintro words ⟨hwords, rfl⟩
    exact hend earlier hwords
  cases token with
  | text content => exact reads_pure (htext earlier content)
  | exprStart =>
    refine reads_bind (hvalue earlier) fun value => reads_expect_bind ?_
    exact reads_pure (hvalueEnd _)
  | tagStart =>
    have hnested : Reads (fun words => invariant earlier (.tagStart :: words))
        (do
          let stmt ← inner.stmt
          expect .tagEnd
          return .again (stmt :: earlier))
        (Progress.Meets invariant after) :=
      reads_bind (hstmt earlier) fun stmt => reads_expect_bind (reads_pure (hstmtEnd _))
    refine reads_peek_bind fun found => ?_
    split
    · exact reads_fail_bind
    · next word =>
      refine reads_ite (fun hword => reads_pure ?_) fun _ => hnested.weaken fun words => And.left
      rintro words ⟨hwords, hhead⟩
      obtain ⟨rest, rfl⟩ := List.head?_eq_some_iff.1 hhead
      exact hstop earlier word (by simpa using hword) rest hwords
    · exact hnested.weaken fun words => And.left
  | _ => exact reads_fail

end Inner

end PromptPacks.Template
