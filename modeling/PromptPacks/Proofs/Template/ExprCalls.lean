import PromptPacks.Proofs.Template.CallTally
import PromptPacks.Template.ExprParser

namespace PromptPacks.Template

open PromptPacks.Template.Parser

/-- Readers of nested expressions whose answers hold exactly the calls that
    their tokens show. What an innermost part is called with comes after it. -/
structure Nested.Counts (name : String) (nested : Nested) : Prop where
  expr : CountsExpr name nested.expr
  primary : ∀ whole read, Reads (CallTally name true whole read) nested.primary
    (OpenTally name whole read)

namespace Nested

variable {name : String} {whole : Prop} {read : List String} {nested : Nested}
  {keywordValue : Parser Expr}

/-- An argument calls what its expression calls. The name of a named one is not
    called. -/
theorem counts_argument (hnested : nested.Counts name) (hvalue : CountsExpr name keywordValue)
    (earlier : List Argument) :
    Parser.Counts name (nested.argument earlier keywordValue) Argument.calls := by
  intro whole read
  refine counts_skip_ite (.of_isMute rfl) ?_ (counts_skip_ite (.of_isMute rfl) ?_ ?_)
  · exact hnested.expr.counts.bind fun values => counts_pure rfl
  · exact hnested.expr.counts.bind fun values => counts_pure rfl
  · refine hnested.expr.counts.bind fun value => ?_
    cases value with
    | «variable» word =>
      refine counts_skip_ite (.of_isMute rfl) ?_ (reads_ite (fun _ => reads_fail) fun _ => ?_)
      · exact hvalue.counts.bind fun value => counts_pure (by simp [Argument.calls, Expr.calls])
      · exact counts_pure rfl
    | _ => exact reads_ite (fun _ => reads_fail) fun _ => counts_pure rfl

/-- The arguments of a call call what each of them calls. -/
theorem counts_arguments (hnested : nested.Counts name) (hvalue : CountsExpr name keywordValue) :
    Parser.Counts name (nested.arguments keywordValue) callsOfArguments := by
  intro whole read
  refine counts_expect_bind (.of_isMute rfl) ?_
  simp only [funext callsOfArguments_eq_flatMap]
  refine counts_commaSeparated (.of_isMute rfl) (fun earlier whole read => ?_) whole read
  refine (counts_argument hnested hvalue earlier).bind fun argument => ?_
  exact reads_ite (fun _ => reads_fail) fun _ => counts_pure rfl

/-- A bound of a slice calls what its expression calls, if there is one. -/
theorem counts_sliceBound (hnested : nested.Counts name) (stops : List Symbol) :
    Parser.Counts name (nested.sliceBound stops) callsOfOption := by
  intro whole read
  refine reads_peek_bind fun token => Reads.weaken ?_ fun _ => And.left
  split
  · refine reads_ite (fun _ => counts_pure ?_) fun _ => hnested.expr.some whole read
    simp [callsOfOption]
  · exact hnested.expr.some whole read

/-- Behind a subject its index or slice is read, and the whole may be called
    again. -/
theorem reads_subscript_calls (hnested : nested.Counts name) (subject : Expr) :
    Reads (CallTally name true whole (read ++ subject.calls)) (nested.subscript subject)
      (OpenTally name whole read) := by
  have hopen {earlier : List String} {found : Expr} (hread : earlier = read ++ found.calls)
      (hnone : found.signedName? = none) :
      Reads (CallTally name true whole earlier) (pure found) (OpenTally name whole read) :=
    reads_pure fun _ htally => .of_none (hread ▸ htally) hnone
  refine (counts_sliceBound hnested _).bind fun start => counts_skip_ite (.of_isMute rfl) ?_ ?_
  · refine (counts_sliceBound hnested _).bind fun stop => ?_
    refine counts_default_bind (.of_isMute rfl) (counts_sliceBound hnested _) rfl fun step => ?_
    exact counts_expect_bind (.of_isMute rfl) (hopen (by simp [Expr.calls]) rfl)
  · refine counts_expect_bind (.of_isMute rfl) ?_
    cases start with
    | none => exact reads_fail
    | some index => exact hopen (by simp [Expr.calls, callsOfOption]) rfl

/-- The name of a property is not called, even if it is the given one. -/
theorem reads_property_calls (subject : Expr) :
    Reads (CallTally name false whole (read ++ subject.calls)) (property subject)
      (OpenTally name whole read) := by
  refine reads_take_bind fun token => ?_
  cases token with
  | name word =>
    refine reads_pure fun words htally => .of_none ?_ rfl
    simpa [Expr.calls] using htally.skip_property rfl (by simp)
  | integer n =>
    refine reads_pure fun words htally => .of_none ?_ rfl
    simpa [Expr.calls] using htally.skip_property rfl (by simp)
  | _ => exact reads_fail

/-- Properties, subscripts and calls are read until none comes next. Where no
    parentheses come next, the expression is not called, and so its calls are
    settled. -/
theorem reads_postfixed_calls (hnested : nested.Counts name)
    (hvalue : CountsExpr name keywordValue) (subject : Expr) :
    Reads (OpenTally name whole read subject) (nested.postfixed keywordValue subject)
      (ExprTally name whole read) := by
  refine reads_loop (OpenTally name whole read) (fun subject => ?_) subject
  refine reads_peek_bind fun token => ?_
  have hnext {sign : Symbol} {words : List Token}
      (htally : OpenTally name whole read subject (.symbol sign :: words))
      (hsign : sign ≠ .parenOpen) :
      CallTally name true whole (read ++ subject.calls) (.symbol sign :: words) :=
    (htally.settle fun _ => by simpa using hsign).toCallTally
  split
  · refine reads_head_next_bind (Reads.weaken ?_ fun words htally => (hnext htally nofun).of_dot)
    exact reads_bind (reads_property_calls subject) fun _ => reads_pure fun _ => id
  · refine reads_head_next_bind (Reads.weaken ?_ fun words htally =>
      (hnext htally nofun).skip (.of_isMute rfl))
    exact reads_bind (reads_subscript_calls hnested subject) fun _ => reads_pure fun _ => id
  · refine Reads.weaken ?_ fun words htally => htally.1.of_head htally.2
    refine (counts_arguments hnested hvalue).bind fun arguments => ?_
    refine reads_pure fun words htally => .of_none ?_ rfl
    simpa [Expr.calls] using htally
  · next hother =>
    refine reads_pure fun words htally => htally.1.settle fun _ hhead => ?_
    exact hother (htally.2.symm.trans hhead)

/-- Signs in front of an expression add no calls. -/
theorem reads_signed_calls (hnested : nested.Counts name) :
    Reads (CallTally name true whole read) nested.signed (OpenTally name whole read) := by
  refine (idles_countSkipped (.of_isMute rfl)).bind fun signs => ?_
  refine reads_bind (hnested.primary whole read) fun operand => reads_pure fun words htally => ?_
  have hcalls : (Nat.repeat .negate signs operand).calls = operand.calls :=
    calls_repeat (fun _ => by rw [Expr.calls]) signs operand
  exact ⟨by rw [hcalls, signedName?_repeat]; exact htally.whole_iff, htally.clear,
    htally.supported, by rw [signedName?_repeat]; exact htally.settled⟩

/-- Arguments that may be missing call nothing where they are. -/
theorem counts_optionalArguments (hnested : nested.Counts name)
    (hvalue : CountsExpr name keywordValue) :
    Parser.Counts name (nested.optionalArguments keywordValue) callsOfArguments := by
  intro whole read
  exact counts_isNext_ite (counts_arguments hnested hvalue whole read)
    (counts_pure (by simp [callsOfArguments]))

/-- The name of a filter or a test does not count where it has no arguments.
    Where it has, the name would have to be clear of this. -/
theorem reads_dottedName_calls (whole : Prop) (read : List String) :
    Reads (fun words => CallTally name true whole read words ∧ ¬IsCalled name words) dottedName
      fun _ => CallTally name true whole read := by
  refine reads_expectName_bind fun first => ?_
  refine Reads.weaken (reads_loop (fun _ => CallTally name true whole read) (fun part => ?_) first)
    fun words htally => htally.1.skip_name htally.2
  refine reads_skip_ite (reads_expectName_bind fun word => ?_) (reads_pure fun _ => And.left)
  exact reads_pure fun words htally => htally.of_dot.skip_property rfl nofun

/-- A test takes arguments in parentheses or a single one without them. Whether
    a single one follows is told from the next token alone. -/
theorem counts_testArguments (hnested : nested.Counts name)
    (hvalue : CountsExpr name keywordValue) :
    Parser.Counts name (nested.testArguments keywordValue) callsOfArguments := by
  intro whole read
  have hnone : Reads (CallTally name true whole read) (pure [])
      fun arguments => CallTally name true whole (read ++ callsOfArguments arguments) :=
    counts_pure (by simp [callsOfArguments])
  refine reads_peek_bind fun token => Reads.weaken ?_ fun _ => And.left
  split
  · exact counts_arguments hnested hvalue whole read
  · refine reads_ite (fun _ => ?_) fun _ => hnone
    refine reads_bind (reads_signed_calls hnested) fun subject => ?_
    refine reads_bind (reads_postfixed_calls hnested hvalue subject) fun value => ?_
    refine reads_pure fun words htally => ?_
    simpa [callsOfArguments, Argument.calls] using htally.toCallTally
  · exact hnone

/-- Operators that are no names, and call nothing themselves. -/
def CallsNothing (name : String) (operator? : Token → Option (Expr → Expr → Expr)) : Prop :=
  ∀ token combine, operator? token = some combine → token.IsIdle name ∧ ∀ left right,
    (combine left right).calls = left.calls ++ right.calls ∧
      (combine left right).signedName? = none

/-- Operands with operators between them call what each operand calls. It holds
    for all operators that are passed without a call, which is every level of
    precedence. -/
theorem counts_leftGrouped {operand : Parser Expr}
    {operator? : Token → Option (Expr → Expr → Expr)} (hoperand : CountsExpr name operand)
    (hnothing : CallsNothing name operator?) :
    CountsExpr name (leftGrouped operand operator?) := by
  intro whole read
  refine hoperand.bind fun first => ?_
  refine reads_loop (ExprTally name whole read) (fun left => ?_) first
  refine reads_peek_bind fun token => ?_
  split
  · next combine hcombine =>
    obtain ⟨token, rfl, hoperator⟩ := Option.bind_eq_some_iff.1 hcombine
    obtain ⟨hidle, hcalls⟩ := hnothing token combine hoperator
    refine reads_head_next_bind (Reads.weaken ?_ fun words htally => htally.skip hidle)
    refine hoperand.counts.bind fun right => reads_pure fun words htally => ?_
    refine CallTally.settle ?_ (hcalls left right).2
    simpa [(hcalls left right).1] using htally
  · exact reads_pure fun _ => And.left

/-- The rest of a list in parentheses calls what its items call. It may end in a
    comma, so there are two ways to be done. -/
theorem reads_tupleRest_calls (hnested : nested.Counts name) (first : Expr) :
    Reads (CallTally name true whole (read ++ first.calls)) (nested.tupleRest first)
      (OpenTally name whole read) := by
  have hdone (items : List Expr) :
      Reads (CallTally name true whole (read ++ callsOfItems items.reverse))
        (pure (Progress.done (Expr.list items.reverse))) (Progress.Meets
          (fun items : List Expr => CallTally name true whole
            (read ++ callsOfItems items.reverse))
          (OpenTally name whole read)) :=
    reads_pure fun words htally => .of_none (by simpa [Expr.calls] using htally) rfl
  refine Reads.weaken (reads_loop
    (fun items => CallTally name true whole (read ++ callsOfItems items.reverse))
    (fun items => ?_) [first]) fun words htally => ?_
  · refine counts_skip_ite (.of_isMute rfl) (hdone items) (counts_expect_bind (.of_isMute rfl) ?_)
    refine counts_skip_ite (.of_isMute rfl) (hdone items)
      (hnested.expr.counts.bind fun item => reads_pure fun words htally => ?_)
    simpa [Progress.Meets, callsOfItems_eq_flatMap] using htally
  · simpa [callsOfItems] using htally

/-- Parentheses around an expression leave it as it is, also as something to be
    called. -/
theorem reads_parenthesized_calls (hnested : nested.Counts name) :
    Reads (CallTally name true whole read) nested.parenthesized (OpenTally name whole read) := by
  refine counts_skip_ite (.of_isMute rfl) (reads_pure fun words htally => .of_none ?_ rfl) ?_
  · simpa [Expr.calls, callsOfItems] using htally
  · refine hnested.expr.bind fun first => reads_isNext_ite ?_ ?_
    · exact (reads_tupleRest_calls hnested first).weaken fun words htally => htally.1.toCallTally
    · refine reads_expect_bind (reads_pure fun words htally => ?_)
      exact .of_close htally.1

/-- An entry of a map calls what its two parts call. -/
theorem counts_mapEntry (hnested : nested.Counts name) :
    Parser.Counts name nested.mapEntry fun entry => entry.1.calls ++ entry.2.calls := by
  intro whole read
  refine hnested.expr.counts.bind fun key => counts_expect_bind (.of_isMute rfl) ?_
  exact hnested.expr.counts.bind fun value => counts_pure (by simp)

/-- Strings one after the other call nothing. -/
theorem idles_joinedString (first : String) : Idles name (joinedString first) := by
  intro whole read
  refine reads_loop (fun _ => CallTally name true whole read) (fun content => ?_) first
  refine reads_peek_bind fun token => ?_
  split
  · exact reads_head_next_bind (reads_pure fun _ => CallTally.skip (.of_isMute rfl))
  · exact reads_pure fun _ => And.left

variable (hname : name ∉ languageWords)

include hname

/-- Filters and tests behind an expression, in any number. For each turn of the
    loop there are three cases: a filter, a test, which may be negated, or the
    end. -/
theorem reads_filtered_calls (hnested : nested.Counts name) (hvalue : CountsExpr name keywordValue)
    (subject : Expr) :
    Reads (ExprTally name whole read subject) (nested.filtered keywordValue subject)
      (ExprTally name whole read) := by
  have hidle {word : String} (hword : word ∈ languageWords) : (Token.name word).IsIdle name :=
    .of_word hname hword
  refine reads_loop (ExprTally name whole read) (fun subject => ?_) subject
  refine reads_skip_ite ?_ (reads_skip_ite (Reads.weaken ?_ fun words => And.left) ?_)
  · refine Reads.weaken (reads_bind (reads_dottedName_calls _ (read ++ subject.calls))
      fun filter => ?_) fun words htally =>
        ⟨htally.skip (.of_isMute rfl), htally.clear.not_isCalled_of_pipe⟩
    refine (counts_optionalArguments hnested hvalue).bind fun arguments => ?_
    refine reads_pure fun words htally => CallTally.settle ?_ rfl
    simpa [Expr.calls, callsOfOption] using htally
  · have hnamed (negated : Bool) (words : List Token)
        (htally : if negated = true then
            ExprTally name whole read subject (.name "is" :: .name "not" :: words)
          else ExprTally name whole read subject (.name "is" :: words) ∧
            words.head? ≠ some (.name "not")) :
        CallTally name true whole (read ++ subject.calls) words ∧ ¬IsCalled name words := by
      cases negated with
      | true => exact ⟨(htally.skip (hidle (by decide))).skip (hidle (by decide)),
          htally.clear.not_isCalled_of_is_not⟩
      | false => exact ⟨htally.1.skip (hidle (by decide)), htally.1.clear.not_isCalled_of_is⟩
    refine reads_bind (reads_skip (.name "not")) fun negated => ?_
    refine Reads.weaken (reads_bind (reads_dottedName_calls _ (read ++ subject.calls))
      fun test => ?_) (hnamed negated)
    refine (counts_testArguments hnested hvalue).bind fun arguments => ?_
    refine reads_pure fun words htally => CallTally.settle ?_ (by cases negated <;> rfl)
    cases negated <;> simpa [Expr.calls] using htally
  · exact reads_pure fun words htally => htally.1.1

/-- None of the operators is the name of anything that could be called. -/
theorem callsNothing_operators : CallsNothing name powerOp? ∧ CallsNothing name productOp? ∧
    CallsNothing name joinOp? ∧ CallsNothing name sumOp? ∧ CallsNothing name andOp? ∧
    CallsNothing name orOp? := by
  refine ⟨?_, ?_, ?_, ?_, ?_, ?_⟩
  all_goals
    intro token combine hcombine
    simp only [powerOp?, productOp?, joinOp?, sumOp?, andOp?, orOp?] at hcombine
    split at hcombine <;> cases hcombine
    all_goals
      refine ⟨?_, fun _ _ => ⟨by rw [Expr.calls], rfl⟩⟩
      first
      | exact .of_isMute rfl
      | exact .of_word hname (by decide)

/-- No comparison is the name of anything that could be called. -/
theorem isIdle_of_compareOp {token : Token} {op : CompareOp} (hop : compareOp? token = some op) :
    token.IsIdle name := by
  unfold compareOp? at hop
  split at hop <;> cases hop
  all_goals first
    | exact .of_isMute rfl
    | exact .of_word hname (by decide)

/-- Where no operator follows, no token is passed, so all that was known of the
    next token stays known. -/
theorem reads_nextCompareOp_calls (before : List Token → Prop) :
    Reads (fun words => CallTally name true whole read words ∧ before words) nextCompareOp
      fun op words => CallTally name true whole read words ∧ (op = none → before words) := by
  refine reads_peek_bind fun token => ?_
  cases token with
  | none => exact reads_pure fun words hwords => ⟨hwords.1.1, fun _ => hwords.1.2⟩
  | some token =>
    cases hop : compareOp? token with
    | some op =>
      simp only [hop]
      refine reads_head_next_bind (reads_pure fun words htally => ?_)
      exact ⟨htally.1.skip (isIdle_of_compareOp hname hop), nofun⟩
    | none =>
      simp only [hop]
      refine reads_skip_ite (reads_expectWord_bind (reads_pure fun words htally => ?_)) ?_
      · have hnot := htally.1.1.skip (.of_word hname (by decide))
        exact ⟨hnot.skip (.of_word hname (by decide)), nofun⟩
      · exact reads_pure fun words hwords => ⟨hwords.1.1.1, fun _ => hwords.1.1.2⟩

/-- A chain of comparisons calls what its operands call. A chain of one operand
    is the operand itself, which may still turn out to be called. -/
theorem counts_comparison {operand : Parser Expr} (hoperand : CountsExpr name operand) :
    CountsExpr name (comparison operand) := by
  intro whole read
  refine hoperand.bind fun first => ?_
  refine Reads.weaken (reads_loop_bind
    (fun rest words => CallTally name true whole
      (read ++ first.calls ++ callsOfOperands rest.reverse) words ∧
        (rest = [] → ExprTally name whole read first words))
    (fun rest words => CallTally name true whole
      (read ++ first.calls ++ callsOfOperands rest) words ∧
        (rest = [] → ExprTally name whole read first words))
    (fun rest => reads_bind (reads_nextCompareOp_calls hname _) fun op => ?_) fun rest => ?_)
    fun words htally => ?_
  · cases op with
    | none =>
      refine reads_pure fun words htally => ⟨htally.1, fun hrest => htally.2 rfl ?_⟩
      simpa using hrest
    | some op =>
      refine Reads.weaken (hoperand.counts.bind fun operand => reads_pure fun words htally => ?_)
        fun words => And.left
      refine ⟨?_, nofun⟩
      simpa [callsOfOperands_eq_flatMap] using htally
  · refine reads_pure fun words htally => ?_
    cases rest with
    | nil => exact htally.2 rfl
    | cons next rest =>
      refine CallTally.settle ?_ rfl
      simpa [Expr.calls] using htally.1
  · refine ⟨?_, fun _ => htally⟩
    simpa [callsOfOperands] using htally.toCallTally

/-- The levels of operators, from the tightest to the loosest, add no calls of
    their own. -/
theorem counts_operators {operand : Parser Expr} (hoperand : CountsExpr name operand) :
    CountsExpr name (operators operand) := by
  obtain ⟨hpower, hproduct, hjoin, hsum, hand, hor⟩ := callsNothing_operators hname
  have hpowers := counts_leftGrouped hoperand hpower
  have hproducts := counts_leftGrouped hpowers hproduct
  have hjoins := counts_leftGrouped hproducts hjoin
  have hsums := counts_leftGrouped hjoins hsum
  refine counts_leftGrouped (counts_leftGrouped (fun whole read => ?_) hand) hor
  refine (idles_countSkipped (.of_word hname (by decide))).bind fun count => ?_
  refine (counts_comparison hname hsums).bind fun value => reads_pure fun words htally => ?_
  cases count with
  | zero => exact htally
  | succ count =>
    refine CallTally.settle ?_ rfl
    rw [calls_repeat fun _ => by rw [Expr.calls]]
    exact htally.toCallTally

/-- An operand with its signs, its postfix parts and its filters. -/
theorem counts_operandWith (hnested : nested.Counts name) (hvalue : CountsExpr name keywordValue) :
    CountsExpr name (nested.operandWith keywordValue) := by
  intro whole read
  refine reads_bind (reads_signed_calls hnested) fun subject => ?_
  exact reads_bind (reads_postfixed_calls hnested hvalue subject) fun value =>
    reads_filtered_calls hname hnested hvalue value

/-- The values of named arguments are one level nearer to the bound. The
    induction is on the bound. -/
theorem counts_unconditionalWithin (hnested : nested.Counts name) (bound : Nat) :
    CountsExpr name (nested.unconditionalWithin bound) := by
  induction bound with
  | zero => exact CountsExpr.of_fail
  | succ bound ih => exact counts_operators hname (counts_operandWith hname hnested ih)

/-- An expression without an inline condition, with the bound that its tokens
    give. -/
theorem counts_unconditional (hnested : nested.Counts name) :
    CountsExpr name nested.unconditional := by
  intro whole read
  exact reads_get_bind fun cursor => counts_unconditionalWithin hname hnested _ whole read

/-- The innermost parts: names, literals, lists, maps and what stands in
    parentheses. -/
theorem reads_innermost_calls (hnested : nested.Counts name) :
    Reads (CallTally name true whole read) nested.innermost (OpenTally name whole read) := by
  have hplain {value : Expr} (hvalue : value.calls = []) (hnone : value.signedName? = none) :
      Reads (CallTally name true whole read) (pure value) (OpenTally name whole read) :=
    reads_pure fun words htally => .of_none (by simpa [hvalue] using htally) hnone
  refine reads_take_bind fun token => ?_
  split
  · next word =>
    have hconstant {lower upper : String} (hword : (word == lower || word == upper) = true)
        (hlower : lower ∈ languageWords) (hupper : upper ∈ languageWords) (literal : Literal) :
        Reads (fun words => CallTally name true whole read (.name word :: words))
          (pure (.literal literal)) (OpenTally name whole read) := by
      have hmem : word ∈ languageWords := by
        obtain heq | heq := Bool.or_eq_true_iff.1 hword <;> rwa [eq_of_beq heq]
      exact (hplain (by rw [Expr.calls]) rfl).weaken fun words =>
        CallTally.skip (.of_word hname hmem)
    refine reads_ite (fun hword => hconstant hword (by decide) (by decide) _) fun _ => ?_
    refine reads_ite (fun hword => hconstant hword (by decide) (by decide) _) fun _ => ?_
    refine reads_ite (fun hword => hconstant hword (by decide) (by decide) _) fun _ => ?_
    exact reads_pure fun words => OpenTally.of_name
  · refine Reads.weaken ((idles_joinedString _).bind fun _ => ?_) fun _ =>
      CallTally.skip (.of_isMute rfl)
    exact hplain (by rw [Expr.calls]) rfl
  · exact (hplain (by rw [Expr.calls]) rfl).weaken fun _ => CallTally.skip (.of_isMute rfl)
  · exact (hplain (by rw [Expr.calls]) rfl).weaken fun _ => CallTally.skip (.of_isMute rfl)
  · exact (reads_parenthesized_calls hnested).weaken fun _ => CallTally.skip (.of_isMute rfl)
  · refine Reads.weaken ?_ fun _ => CallTally.skip (.of_isMute rfl)
    refine (counts_commaSeparated (.of_isMute rfl) fun _ => hnested.expr.counts).bind
      fun items => reads_pure fun words htally => .of_none ?_ rfl
    rwa [Expr.calls, callsOfItems_eq_flatMap]
  · refine Reads.weaken ?_ fun _ => CallTally.skip (.of_isMute rfl)
    refine (counts_commaSeparated (.of_isMute rfl) fun _ => counts_mapEntry hnested).bind
      fun entries => reads_pure fun words htally => .of_none ?_ rfl
    rwa [Expr.calls, callsOfEntries_eq_flatMap]
  · exact reads_fail

/-- An expression with inline conditions calls what its parts call, in the order
    of the text. -/
theorem counts_conditional (hnested : nested.Counts name) :
    CountsExpr name nested.conditional := by
  intro whole read
  refine (counts_unconditional hname hnested).bind fun value => ?_
  refine reads_loop (ExprTally name whole read) (fun value => ?_) value
  refine reads_skip_ite ?_ (reads_pure fun _ => And.left)
  refine Reads.weaken ((counts_unconditional hname hnested).counts.bind fun test => ?_)
    fun words htally => htally.skip (.of_word hname (by decide))
  refine counts_default_bind (.of_word hname (by decide)) hnested.expr.some rfl
    fun otherwise => reads_pure fun words htally => CallTally.settle ?_ rfl
  simpa [Expr.calls] using htally

end Nested

end PromptPacks.Template
