import PromptPacks.Proofs.Template.Reading
import PromptPacks.Template.StmtParser

namespace PromptPacks.Template.Parser

variable {α β : Type} {first parser : Parser α} {second : α → Parser β} {words left : List Token}
  {token : Token} {answer : α} {result : β}

/-- The answer that a reader gives wherever some tokens are all that is left,
    and what is left of them then. -/
def Runs (parser : Parser α) (words : List Token) (answer : α) (left : List Token) : Prop :=
  ∀ cursor, cursor.words = words → cursor.fault = none →
    ∃ rest, parser cursor = .ok (answer, rest) ∧ rest.words = left ∧ rest.fault = none

/-- A reader that reads nothing leaves all tokens. -/
theorem runs_pure : Runs (pure answer) words answer words :=
  fun cursor hwords hfault => ⟨cursor, rfl, hwords, hfault⟩

/-- The second reader goes on with what the first one leaves. No fault comes up
    between them, since none is left by the first. -/
theorem Runs.bind {middle : List Token} (hfirst : Runs first words answer middle)
    (hsecond : Runs (second answer) middle result left) :
    Runs (first >>= second) words result left := by
  intro cursor hwords hfault
  obtain ⟨between, hrun, hmiddle, hnone⟩ := hfirst cursor hwords hfault
  obtain ⟨rest, hrest, hleft⟩ := hsecond between hmiddle hnone
  refine ⟨rest, ?_, hleft⟩
  simp only [Bind.bind, StateT.bind, Except.bind, hrun, hrest]

/-- A reader may look up its state. All that it can learn of the tokens are the
    tokens themselves. -/
theorem runs_get_bind {second : Cursor → Parser β}
    (hsecond : ∀ cursor, cursor.words = words → Runs (second cursor) words result left) :
    Runs (get >>= second) words result left :=
  fun cursor hwords hfault => hsecond cursor hwords cursor hwords hfault

/-- A look at the next token leaves it where it is, and the end of the text is
    no fault. -/
theorem runs_peek : Runs peek words words.head? words := by
  intro cursor hwords hfault
  refine ⟨cursor, ?_, hwords, hfault⟩
  subst hwords
  cases htokens : cursor.tokens with
  | nil => simp [peek, Cursor.words, htokens, hfault]
  | cons token tokens => simp [peek, Cursor.words, htokens]

/-- The next token is passed. This and its absence are the two cases that all
    readers come down to. -/
theorem runs_next : Runs next (token :: words) (some token) words := by
  intro cursor hwords hfault
  cases htokens : cursor.tokens with
  | nil => simp [Cursor.words, htokens] at hwords
  | cons found tokens =>
    simp only [Cursor.words, htokens, List.map_cons, List.cons.injEq] at hwords
    obtain ⟨rfl, rfl⟩ := hwords
    exact ⟨{ cursor with tokens, last := found.offset }, by simp [next, htokens], rfl, hfault⟩

/-- At the end of the text there is no next token, which alone is no fault. -/
theorem runs_next_nil : Runs next [] none [] := by
  intro cursor hwords hfault
  have htokens : cursor.tokens = [] := List.map_eq_nil_iff.1 hwords
  exact ⟨cursor, by simp [next, htokens, hfault], hwords, hfault⟩

/-- A token that has to be there is passed. The text for the fault does not
    matter where it is. -/
theorem runs_take (expected : String) : Runs (take expected) (token :: words) token words :=
  runs_next.bind runs_pure

/-- Whether a token comes next is told without passing it. -/
theorem runs_isNext : Runs (isNext token) words (words.head? == some token) words :=
  runs_peek.bind runs_pure

/-- A token that is not the next one is not passed. -/
theorem runs_skip_of_ne (hne : words.head? ≠ some token) : Runs (skip token) words false words := by
  have hnext : (words.head? == some token) = false := beq_false_of_ne hne
  refine runs_isNext.bind ?_
  rw [hnext]
  exact runs_pure

/-- A token that comes next is passed where it has to come. -/
theorem runs_expect : Runs (expect token) (token :: words) ⟨⟩ words := by
  refine (runs_take _).bind ?_
  rw [if_pos (beq_self_eq_true token)]
  exact runs_pure

section Loop

variable {step : α → Parser (Progress α β)} {state : α}

/-- A loop that is done after one step gives the result of the step. -/
theorem runs_rounds_done (hstep : Runs (step state) words (.done result) left) (n : Nat) :
    Runs (rounds step (n + 1) state) words result left :=
  hstep.bind runs_pure

/-- A loop goes on from the state to which its first step has come, with one
    step less. -/
theorem runs_rounds_again {after : α} {middle : List Token} {n : Nat}
    (hstep : Runs (step state) words (.again after) middle)
    (hrounds : Runs (rounds step n after) middle result left) :
    Runs (rounds step (n + 1) state) words result left :=
  hstep.bind hrounds

/-- A loop has one round more than there are tokens. So it is enough for every
    round to pass a token, except for the last one. -/
theorem runs_loop (hrounds : Runs (rounds step (words.length + 1) state) words result left) :
    Runs (loop step state) words result left := by
  refine runs_get_bind fun cursor hwords => ?_
  rwa [show cursor.tokens.length = words.length by simp [← hwords, Cursor.words]]

/-- A loop may be done after its first step, which is how all loops of an
    expression without operators end. -/
theorem runs_loop_done (hstep : Runs (step state) words (.done result) left) :
    Runs (loop step state) words result left :=
  runs_loop (runs_rounds_done hstep words.length)

end Loop

/-- Nothing is counted where some other token comes next. -/
theorem runs_countSkipped_of_ne (hne : words.head? ≠ some token) :
    Runs (countSkipped token) words 0 words :=
  runs_loop_done ((runs_skip_of_ne hne).bind runs_pure)

/-- A reader that has an answer for the tokens of a text has it for the text.
    What it leaves is not looked at. -/
theorem Runs.run_eq {source : Tokens}
    (hruns : Runs parser (source.tokens.map (·.value)) answer left) (hfault : source.fault = none) :
    parser.run source = .ok answer := by
  obtain ⟨rest, hrun, -⟩ := hruns ⟨source.tokens, source.fault, 0, [], false⟩ rfl hfault
  rw [run, hrun]

end PromptPacks.Template.Parser

namespace PromptPacks.Template.Nested

open PromptPacks.Template.Parser

variable {nested : Nested} {keywordValue operand : Parser Expr} {words left : List Token}
  {subject : Expr}

/-- At the end of an expression nothing is looked up in a value or called. -/
theorem runs_postfixed_exprEnd :
    Runs (nested.postfixed keywordValue subject) (.exprEnd :: words) subject (.exprEnd :: words) :=
  runs_loop_done (runs_peek.bind runs_pure)

/-- At the end of an expression there are no filters and no tests. -/
theorem runs_filtered_exprEnd :
    Runs (nested.filtered keywordValue subject) (.exprEnd :: words)
      subject (.exprEnd :: words) := by
  refine runs_loop_done ((runs_skip_of_ne (by simp)).bind ?_)
  exact (runs_skip_of_ne (by simp)).bind runs_pure

/-- Where an operand ends the expression there are no operators. It is the same
    argument at every level of precedence, so the operators are a parameter. -/
theorem runs_leftGrouped {operator? : Token → Option (Expr → Expr → Expr)}
    (hoperand : Runs operand words subject (.exprEnd :: left))
    (hoperator : operator? .exprEnd = none) :
    Runs (leftGrouped operand operator?) words subject (.exprEnd :: left) := by
  refine hoperand.bind (runs_loop_done (runs_peek.bind ?_))
  rw [List.head?_cons, Option.bind_some, hoperator]
  exact runs_pure

/-- At the end of an expression nothing is compared. -/
theorem runs_nextCompareOp_exprEnd :
    Runs nextCompareOp (.exprEnd :: words) none (.exprEnd :: words) :=
  runs_peek.bind ((runs_skip_of_ne (by simp)).bind runs_pure)

/-- Where an operand ends the expression it is not compared with another one. -/
theorem runs_comparison (hoperand : Runs operand words subject (.exprEnd :: left)) :
    Runs (comparison operand) words subject (.exprEnd :: left) := by
  refine hoperand.bind ?_
  refine Runs.bind (runs_loop_done (runs_nextCompareOp_exprEnd.bind runs_pure)) ?_
  exact runs_pure

/-- An operand that ends the expression is the whole of it, if no negation is
    before it. -/
theorem runs_operators (hoperand : Runs operand words subject (.exprEnd :: left))
    (hnot : words.head? ≠ some (.name "not")) :
    Runs (operators operand) words subject (.exprEnd :: left) := by
  refine runs_leftGrouped (runs_leftGrouped ?_ rfl) rfl
  refine (runs_countSkipped_of_ne hnot).bind (Runs.bind (runs_comparison ?_) runs_pure)
  exact runs_leftGrouped
    (runs_leftGrouped (runs_leftGrouped (runs_leftGrouped hoperand rfl) rfl) rfl) rfl

/-- The words that are no names where an operand is expected. -/
def constantWords : List String :=
  ["true", "True", "false", "False", "none", "None"]

variable {name : String}

/-- A name is a variable unless it is the word for a constant. -/
theorem runs_innermost_name (hname : name ∉ constantWords) :
    Runs nested.innermost (.name name :: words) (.variable name) words := by
  simp only [constantWords, List.mem_cons, List.not_mem_nil, not_or, or_false] at hname
  refine (runs_take _).bind ?_
  simp only [beq_iff_eq, Bool.or_eq_true, hname, or_self, if_false]
  exact runs_pure

section Primary

variable (hprimary : Runs nested.primary words subject (.exprEnd :: left))
  (hminus : words.head? ≠ some (.symbol .minus)) (hnot : words.head? ≠ some (.name "not"))

include hprimary hminus

/-- Nothing is applied to a value that ends the expression. The premise about
    the sign is needed, as it comes before the value. -/
theorem runs_operandWith :
    Runs (nested.operandWith keywordValue) words subject (.exprEnd :: left) := by
  have hsigned : Runs nested.signed words subject (.exprEnd :: left) :=
    (runs_countSkipped_of_ne hminus).bind (hprimary.bind runs_pure)
  exact hsigned.bind (runs_postfixed_exprEnd.bind runs_filtered_exprEnd)

include hnot

/-- A value that ends the expression is an expression without a condition. -/
theorem runs_unconditional : Runs nested.unconditional words subject (.exprEnd :: left) :=
  runs_get_bind fun _ _ => runs_operators (runs_operandWith hprimary hminus) hnot

/-- An expression is its innermost part if nothing else stands in it, neither
    before nor behind it. -/
theorem runs_conditional : Runs nested.conditional words subject (.exprEnd :: left) := by
  refine (runs_unconditional hprimary hminus hnot).bind (runs_loop_done ?_)
  exact (runs_skip_of_ne (by simp)).bind runs_pure

end Primary

end PromptPacks.Template.Nested

namespace PromptPacks.Template.Inner

open PromptPacks.Template.Parser

variable {inner : Inner} {stops : List String} {earlier : List Stmt} {words left : List Token}

/-- The end of a template ends its body. -/
theorem runs_piece_nil : Runs (inner.piece stops earlier) [] (.done earlier.reverse) [] :=
  runs_next_nil.bind runs_pure

/-- A text is one piece of a body. -/
theorem runs_piece_text {content : List Char} :
    Runs (inner.piece stops earlier) (.text content :: words) (.again (.text content :: earlier))
      words :=
  runs_next.bind runs_pure

/-- An expression in delimiters is one piece of a body. -/
theorem runs_piece_output {value : Expr} (hvalue : Runs inner.expr words value (.exprEnd :: left)) :
    Runs (inner.piece stops earlier) (.exprStart :: words) (.again (.output value :: earlier))
      left :=
  runs_next.bind (hvalue.bind (runs_expect.bind runs_pure))

end PromptPacks.Template.Inner
