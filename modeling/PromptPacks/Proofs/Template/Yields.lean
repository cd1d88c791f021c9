import PromptPacks.Proofs.Template.Reading

namespace PromptPacks.Template

/-- Whether all names among some tokens satisfy a condition. -/
def HaveNames (p : String → Prop) (words : List Token) : Prop :=
  ∀ word, .name word ∈ words → p word

namespace Parser

variable {α β : Type} {p : String → Prop}

/-- What holds of the answer of a reader if a condition holds of all names that
    it comes across. -/
def Yields (p : String → Prop) (parser : Parser α) (holds : α → Prop) : Prop :=
  Reads (HaveNames p) parser fun answer words => holds answer ∧ HaveNames p words

variable {holds : β → Prop}

/-- What is known of the first answer may be used for the second reader. -/
theorem Yields.bind {middle : α → Prop} {first : Parser α} {second : α → Parser β}
    (hfirst : Yields p first middle)
    (hsecond : ∀ answer, middle answer → Yields p (second answer) holds) :
    Yields p (first >>= second) holds :=
  reads_bind hfirst fun answer cursor result rest hrun hwords =>
    hsecond answer hwords.1 cursor result rest hrun hwords.2

/-- A reader that reads nothing comes across no names. -/
theorem yields_pure {answer : β} (hholds : holds answer) : Yields p (pure answer) holds :=
  reads_pure fun _ hwords => ⟨hholds, hwords⟩

/-- What is known of an answer is carried over to what is made of it. -/
theorem Yields.map {middle : α → Prop} {parser : Parser α} {f : α → β}
    (hparser : Yields p parser middle) (hholds : ∀ answer, middle answer → holds (f answer)) :
    Yields p (f <$> parser) holds :=
  reads_map hparser fun answer _ => And.imp_left (hholds answer)

/-- Nothing has to be shown of a reader that stops at a fault. -/
theorem yields_fail {fault : ParseFault} : Yields p (fail fault) holds :=
  reads_fail

theorem yields_fail_bind {fault : ParseFault} {second : α → Parser β} :
    Yields p (fail fault >>= second) holds :=
  reads_fail_bind

/-- What decides between two readers does not matter for the names. -/
theorem yields_ite {condition : Prop} [Decidable condition] {yes no : Parser β}
    (hyes : Yields p yes holds) (hno : Yields p no holds) :
    Yields p (if condition then yes else no) holds :=
  reads_ite (fun _ => hyes) fun _ => hno

/-- The state of a reader tells nothing about names. -/
theorem yields_get : Yields p get fun _ => True := by
  rintro cursor _ _ ⟨⟩ hwords
  exact ⟨trivial, hwords⟩

theorem yields_modify_bind {update : Cursor → Cursor}
    (hupdate : ∀ cursor, (update cursor).words = cursor.words) {second : PUnit → Parser β}
    (hsecond : Yields p (second ⟨⟩) holds) : Yields p (modify update >>= second) holds :=
  reads_modify_bind hupdate hsecond

/-- The next token satisfies the condition if it is a name. -/
def NextNamed (p : String → Prop) (token : Option Token) : Prop :=
  ∀ word, token = some (.name word) → p word

/-- The token that is looked at has the property if it is a name. -/
theorem yields_peek : Yields p peek (NextNamed p) := by
  rw [← bind_pure peek]
  refine reads_peek_bind fun token => reads_pure ?_
  rintro words ⟨hwords, hhead⟩
  refine ⟨fun word hword => ?_, hwords⟩
  rw [hword] at hhead
  exact hwords word (List.mem_of_mem_head? hhead)

/-- The token that is passed has the property if it is a name. -/
theorem yields_next : Yields p next (NextNamed p) := by
  rw [← bind_pure next]
  refine reads_next_bind (reads_pure ?_) fun token => reads_pure fun words hwords => ?_
  · rintro words ⟨hwords, -⟩
    exact ⟨nofun, hwords⟩
  · refine ⟨?_, fun word hword => hwords word (List.mem_cons_of_mem _ hword)⟩
    rintro word ⟨⟩
    exact hwords word List.mem_cons_self

/-- A token that has to be there has the property if it is a name. -/
theorem yields_take (expected : String) :
    Yields p (take expected) fun token => NextNamed p (some token) := by
  refine yields_next.bind fun token htoken => ?_
  cases token with
  | none => exact yields_fail
  | some token => exact yields_pure htoken

theorem yields_isNext (token : Token) : Yields p (isNext token) fun _ => True :=
  yields_peek.bind fun _ _ => yields_pure trivial

theorem yields_skip (token : Token) : Yields p (skip token) fun _ => True :=
  (yields_isNext token).bind fun _ _ =>
    yields_ite (yields_next.bind fun _ _ => yields_pure trivial) (yields_pure trivial)

theorem yields_expect (token : Token) : Yields p (expect token) fun _ => True :=
  (yields_take _).bind fun _ _ => yields_ite (yields_pure trivial) yields_fail

theorem yields_expectWord (word : String) : Yields p (expectWord word) fun _ => True :=
  (yields_take _).bind fun _ _ => yields_ite (yields_pure trivial) yields_fail

/-- A name that has to be there has the property, as it is one of the words. -/
theorem yields_expectName : Yields p expectName p := by
  refine (yields_take _).bind fun token htoken => ?_
  cases token with
  | name word => exact yields_pure (htoken word rfl)
  | _ => exact yields_fail

/-- What a step of a loop leads to: a state or a result for which something
    holds. -/
def Progress.Holds (invariant : α → Prop) (holds : β → Prop) : Progress α β → Prop
  | .again state => invariant state
  | .done result => holds result

/-- What every step of a loop keeps, the loop keeps. -/
theorem yields_loop (invariant : α → Prop) {step : α → Parser (Progress α β)}
    (hstep : ∀ state, invariant state → Yields p (step state) (Progress.Holds invariant holds))
    {state : α} (hstate : invariant state) : Yields p (loop step state) holds := by
  refine Reads.weaken (reads_loop (fun state words => invariant state ∧ HaveNames p words)
    (fun state => ?_) state) fun words hwords => ⟨hstate, hwords⟩
  intro cursor progress rest hrun hwords
  have hprogress := hstep state hwords.1 cursor progress rest hrun hwords.2
  cases progress with
  | again state => exact hprogress
  | done result => exact hprogress

/-- What comes behind a loop starts with what is known of its result. -/
theorem yields_loop_bind (invariant : α → Prop) (middle : β → Prop) {γ : Type}
    {step : α → Parser (Progress α β)} {second : β → Parser γ} {holds : γ → Prop}
    (hstep : ∀ state, invariant state → Yields p (step state) (Progress.Holds invariant middle))
    {state : α} (hstate : invariant state)
    (hsecond : ∀ answer, middle answer → Yields p (second answer) holds) :
    Yields p (loop step state >>= second) holds :=
  (yields_loop invariant hstep hstate).bind hsecond

theorem yields_countSkipped (token : Token) : Yields p (countSkipped token) fun _ => True :=
  yields_loop (fun _ => True) (fun n _ => (yields_skip token).bind fun _ _ =>
    yields_ite (yields_pure (show Progress.Holds _ _ (.again (n + 1)) from trivial))
      (yields_pure (show Progress.Holds _ _ (.done n) from trivial))) trivial

/-- A part behind a token, and something else in its place where the token is
    missing. -/
theorem yields_default {token : Token} {part : Parser α} {absent : α} {middle : α → Prop}
    (hpart : Yields p part middle) (habsent : middle absent) {second : α → Parser β}
    (hsecond : ∀ found, middle found → Yields p (second found) holds) :
    Yields p (skip token >>= fun found =>
      if found = true then part >>= second else pure absent >>= second) holds :=
  (yields_skip token).bind fun _ _ =>
    yields_ite (hpart.bind hsecond) ((yields_pure habsent).bind hsecond)

/-- Items between commas have the property if each of them has it. -/
theorem yields_commaSeparated {closing : Symbol} {item : List β → Parser β}
    (hitem : ∀ items, Yields p (item items) holds) :
    Yields p (commaSeparated closing item) fun items => ∀ item ∈ items, holds item := by
  let all (items : List β) := ∀ item ∈ items, holds item
  refine yields_loop all (fun items hitems => ?_) nofun
  have hdone : Yields p (pure (Progress.done items.reverse)) (Progress.Holds all all) :=
    yields_pure fun item hmem => hitems item (List.mem_reverse.1 hmem)
  have hagain : Yields p (item items >>= fun found => pure (.again (found :: items)))
      (Progress.Holds all all) :=
    (hitem items).bind fun found hfound => yields_pure (List.forall_mem_cons.2 ⟨hfound, hitems⟩)
  refine (yields_skip _).bind fun _ _ => yields_ite hdone (yields_ite ?_ hagain)
  exact (yields_expect _).bind fun _ _ => (yields_skip _).bind fun _ _ => yields_ite hdone hagain

end Parser

end PromptPacks.Template
