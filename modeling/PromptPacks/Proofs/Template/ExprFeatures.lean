import PromptPacks.Proofs.Template.Tally

namespace PromptPacks.Template

open PromptPacks.Template.Parser

/-- Readers of nested expressions that use what their tokens show. -/
structure Nested.Shows (nested : Nested) : Prop where
  expr : Parser.Shows nested.expr Expr.features
  primary : Parser.Shows nested.primary Expr.features

namespace Nested

variable {nested : Nested} {keywordValue : Parser Expr}

/-- An argument shows the filters of its expression. -/
theorem shows_argument (hnested : nested.Shows)
    (hvalue : Parser.Shows keywordValue Expr.features) (earlier : List Argument) :
    Parser.Shows (nested.argument earlier keywordValue) Argument.features := by
  intro whole read
  refine tally_skip_ite rfl ?_ (tally_skip_ite rfl ?_ ?_)
  · exact hnested.expr.bind fun values => tally_pure rfl
  · exact hnested.expr.bind fun values => tally_pure rfl
  · refine hnested.expr.bind fun value => ?_
    cases value with
    | «variable» name =>
      refine tally_skip_ite rfl ?_ (reads_ite (fun _ => reads_fail) fun _ => tally_pure rfl)
      exact hvalue.bind fun value => tally_pure (by simp [Argument.features, Expr.features])
    | _ => exact reads_ite (fun _ => reads_fail) fun _ => tally_pure rfl

/-- Arguments show the filters of each. -/
theorem shows_arguments (hnested : nested.Shows)
    (hvalue : Parser.Shows keywordValue Expr.features) :
    Parser.Shows (nested.arguments keywordValue) featuresOfArguments := by
  intro whole read
  refine tally_expect_bind rfl ?_
  simp only [funext featuresOfArguments_eq_flatMap]
  refine shows_commaSeparated rfl (fun earlier whole read => ?_) whole read
  refine (shows_argument hnested hvalue earlier).bind fun argument => ?_
  exact reads_ite (fun _ => reads_fail) fun _ => tally_pure rfl

/-- A bound of a slice shows the filters of its expression. -/
theorem shows_sliceBound (hnested : nested.Shows) (stops : List Symbol) :
    Parser.Shows (nested.sliceBound stops) featuresOfOption := by
  intro whole read
  refine reads_peek_bind fun token => Reads.weaken ?_ fun _ => And.left
  split
  · refine reads_ite (fun _ => tally_pure ?_) fun _ => hnested.expr.some whole read
    simp [featuresOfOption]
  · exact hnested.expr.some whole read

/-- An index or a slice adds its own filters behind those of its subject. -/
theorem reads_subscript (hnested : nested.Shows) (subject : Expr) {whole read : List Feature} :
    Reads (Tally whole (read ++ subject.features)) (nested.subscript subject)
      fun item => Tally whole (read ++ item.features) := by
  refine (shows_sliceBound hnested _).bind fun start => tally_skip_ite rfl ?_ ?_
  · refine (shows_sliceBound hnested _).bind fun stop => ?_
    refine tally_default_bind rfl (shows_sliceBound hnested _) rfl fun step => ?_
    exact tally_expect_bind rfl (tally_pure (by simp [Expr.features]))
  · refine tally_expect_bind rfl ?_
    cases start with
    | none => exact reads_fail
    | some index => exact tally_pure (by simp [Expr.features, featuresOfOption])

/-- A property adds none. -/
theorem reads_property (subject : Expr) {whole read : List Feature} :
    Reads (Tally whole (read ++ subject.features)) (property subject)
      fun found => Tally whole (read ++ found.features) := by
  refine reads_take_bind fun token => ?_
  cases token with
  | name word => exact (tally_pure (by simp [Expr.features])).weaken fun _ => Tally.skip rfl
  | integer n => exact (tally_pure (by simp [Expr.features])).weaken fun _ => Tally.skip rfl
  | _ => exact reads_fail

/-- Properties, subscripts and calls add the filters of their parts, in the
    order of the text. -/
theorem reads_postfixed (hnested : nested.Shows)
    (hvalue : Parser.Shows keywordValue Expr.features) (subject : Expr)
    {whole read : List Feature} :
    Reads (Tally whole (read ++ subject.features)) (nested.postfixed keywordValue subject)
      fun found => Tally whole (read ++ found.features) := by
  refine reads_loop (fun subject => Tally whole (read ++ subject.features)) (fun subject => ?_)
    subject
  refine reads_peek_bind fun token => ?_
  split
  · exact tally_next_bind rfl (reads_bind (reads_property subject) fun _ => reads_pure fun _ => id)
  · exact tally_next_bind rfl
      (reads_bind (reads_subscript hnested subject) fun _ => reads_pure fun _ => id)
  · refine Reads.weaken ?_ fun _ => And.left
    refine (shows_arguments hnested hvalue).bind fun arguments => ?_
    exact reads_pure fun words htally => by simpa [Progress.Meets, Expr.features] using htally
  · exact reads_pure fun _ => And.left

/-- Signs in front of an expression show nothing. -/
theorem shows_signed (hnested : nested.Shows) : Parser.Shows nested.signed Expr.features := by
  intro whole read
  refine (silent_countSkipped rfl).bind fun signs => hnested.primary.bind fun operand => ?_
  exact tally_pure (by rw [features_repeat fun _ => by rw [Expr.features]])

/-- Arguments that may be missing show nothing where they are. -/
theorem shows_optionalArguments (hnested : nested.Shows)
    (hvalue : Parser.Shows keywordValue Expr.features) :
    Parser.Shows (nested.optionalArguments keywordValue) featuresOfArguments := by
  intro whole read
  exact tally_isNext_ite (shows_arguments hnested hvalue whole read)
    (tally_pure (by simp [featuresOfArguments]))

/-- A name with points is passed without showing anything, unless a bar stands
    before it. -/
theorem silent_dottedName : Silent dottedName := by
  intro whole read
  refine tally_expectName_bind fun first => ?_
  refine reads_loop (fun _ => Tally whole read) (fun name => ?_) first
  exact tally_skip_ite rfl (tally_expectName_bind fun _ => reads_pure fun _ => id)
    (reads_pure fun _ => id)

/-- The name of a filter is the one that the tokens show, with its points. Each
    part is added as soon as it has been read, so the name in between is the
    invariant. -/
theorem reads_dottedName {whole read : List Feature} :
    Reads (FilterTally whole read) dottedName fun name => Tally whole (read ++ [.filter name]) := by
  refine reads_expectName_bind fun first => ?_
  refine Reads.weaken (reads_loop
    (fun name words => Tally whole (read ++ [Feature.filter (dottedFrom name words)]) words)
    (fun name => reads_skip_ite ?_ ?_) first) fun words htally => ?_
  · refine reads_expectName_bind fun part => reads_pure fun words htally => ?_
    exact (htally.skip rfl).skip rfl
  · refine reads_pure fun words ⟨htally, hhead⟩ => ?_
    have hdotted : dottedFrom name words = name := by
      rw [dottedFrom]
      rintro part rest rfl
      exact hhead rfl
    rwa [hdotted] at htally
  · exact Tally.skip rfl htally

/-- A test shows the filters of its arguments. Its own name is no feature. -/
theorem shows_testArguments (hnested : nested.Shows)
    (hvalue : Parser.Shows keywordValue Expr.features) :
    Parser.Shows (nested.testArguments keywordValue) featuresOfArguments := by
  intro whole read
  have hnone : Reads (Tally whole read) (pure [])
      fun arguments => Tally whole (read ++ featuresOfArguments arguments) :=
    tally_pure (by simp [featuresOfArguments])
  refine reads_peek_bind fun token => Reads.weaken ?_ fun _ => And.left
  split
  · exact shows_arguments hnested hvalue whole read
  · refine reads_ite (fun _ => ?_) fun _ => hnone
    refine (shows_signed hnested).bind fun subject => ?_
    refine reads_bind (reads_postfixed hnested hvalue subject) fun value => tally_pure ?_
    simp [featuresOfArguments, Argument.features]
  · exact hnone

/-- Filters and tests behind an expression, in any number. A filter shows itself
    and then its arguments. A test, which may be negated, shows its arguments
    only. -/
theorem reads_filtered (hnested : nested.Shows)
    (hvalue : Parser.Shows keywordValue Expr.features) (subject : Expr)
    {whole read : List Feature} :
    Reads (Tally whole (read ++ subject.features)) (nested.filtered keywordValue subject)
      fun found => Tally whole (read ++ found.features) := by
  refine reads_loop (fun subject => Tally whole (read ++ subject.features)) (fun subject => ?_)
    subject
  refine reads_skip_ite ?_ (Reads.weaken (tally_skip_ite rfl ?_ ?_) fun _ => And.left)
  · refine Reads.weaken (reads_bind reads_dottedName fun name => ?_) fun _ => Tally.of_pipe
    refine (shows_optionalArguments hnested hvalue).bind fun arguments => ?_
    refine reads_pure fun words htally => ?_
    simpa [Progress.Meets, Expr.features, featuresOfOption] using htally
  · refine (silent_skip rfl).bind fun negated => silent_dottedName.bind fun name => ?_
    refine (shows_testArguments hnested hvalue).bind fun arguments => ?_
    refine reads_pure fun words htally => ?_
    cases negated <;> simpa [Progress.Meets, Expr.features] using htally
  · exact reads_pure fun _ => id

/-- Operators that use nothing themselves. -/
def IsPlain (operator? : Token → Option (Expr → Expr → Expr)) : Prop :=
  ∀ token combine, operator? token = some combine → token.marks = false ∧
    ∀ left right, (combine left right).features = left.features ++ right.features

/-- Operands with operators between them show the filters of each operand, as
    long as no operator is a bar. -/
theorem shows_leftGrouped {operand : Parser Expr}
    {operator? : Token → Option (Expr → Expr → Expr)}
    (hoperand : Parser.Shows operand Expr.features) (hplain : IsPlain operator?) :
    Parser.Shows (leftGrouped operand operator?) Expr.features := by
  intro whole read
  refine hoperand.bind fun first => ?_
  refine reads_loop (fun left => Tally whole (read ++ left.features)) (fun left => ?_) first
  refine reads_peek_bind fun token => ?_
  split
  · next combine hcombine =>
    obtain ⟨token, rfl, hoperator⟩ := Option.bind_eq_some_iff.1 hcombine
    obtain ⟨hmarks, hfeatures⟩ := hplain token combine hoperator
    refine tally_next_bind hmarks (hoperand.bind fun right => reads_pure fun words htally => ?_)
    simpa [Progress.Meets, hfeatures] using htally
  · exact reads_pure fun _ => And.left

/-- No operator is a bar, so operators show no filter. -/
theorem isPlain_operators : IsPlain powerOp? ∧ IsPlain productOp? ∧ IsPlain joinOp? ∧
    IsPlain sumOp? ∧ IsPlain andOp? ∧ IsPlain orOp? := by
  refine ⟨?_, ?_, ?_, ?_, ?_, ?_⟩
  all_goals
    intro token combine hcombine
    simp only [powerOp?, productOp?, joinOp?, sumOp?, andOp?, orOp?] at hcombine
    split at hcombine <;> cases hcombine
    all_goals exact ⟨rfl, fun _ _ => by rw [Expr.features]⟩

/-- No comparison shows a filter. -/
theorem marks_of_compareOp {token : Token} {op : CompareOp} (hop : compareOp? token = some op) :
    token.marks = false := by
  unfold compareOp? at hop
  split at hop <;> cases hop <;> rfl

/-- A comparison is passed without showing anything. It is a symbol, or one or
    two words. -/
theorem silent_nextCompareOp : Silent nextCompareOp := by
  intro whole read
  refine reads_peek_bind fun token => ?_
  cases token with
  | none => exact reads_pure fun _ => And.left
  | some token =>
    cases hop : compareOp? token with
    | some op =>
      simp only [hop]
      exact tally_next_bind (marks_of_compareOp hop) (reads_pure fun _ => id)
    | none =>
      simp only [hop]
      refine Reads.weaken (tally_skip_ite rfl ?_ ?_) fun _ => And.left
      · exact tally_expectWord_bind (reads_pure fun _ => id)
      · exact reads_pure fun _ => id

/-- A chain of comparisons shows the filters of its operands. The operands
    behind the first one are collected in reverse, which the invariant of the
    loop has to say. -/
theorem shows_comparison {operand : Parser Expr} (hoperand : Parser.Shows operand Expr.features) :
    Parser.Shows (comparison operand) Expr.features := by
  intro whole read
  refine hoperand.bind fun first => ?_
  refine Reads.weaken (reads_loop_bind
    (fun rest => Tally whole (read ++ first.features ++ featuresOfOperands rest.reverse))
    (fun rest => Tally whole (read ++ first.features ++ featuresOfOperands rest))
    (fun rest => silent_nextCompareOp.bind fun op => ?_) fun rest => ?_) fun words htally => ?_
  · cases op with
    | none => exact reads_pure fun _ => id
    | some op =>
      refine hoperand.bind fun operand => reads_pure fun words htally => ?_
      simpa [Progress.Meets, featuresOfOperands_eq_flatMap] using htally
  · refine reads_pure fun words htally => ?_
    cases rest with
    | nil => simpa [featuresOfOperands] using htally
    | cons next rest => simpa [Expr.features] using htally
  · simpa [featuresOfOperands] using htally

/-- The levels of operators show nothing of their own. -/
theorem shows_operators {operand : Parser Expr} (hoperand : Parser.Shows operand Expr.features) :
    Parser.Shows (operators operand) Expr.features := by
  obtain ⟨hpower, hproduct, hjoin, hsum, hand, hor⟩ := isPlain_operators
  have hpowers := shows_leftGrouped hoperand hpower
  have hproducts := shows_leftGrouped hpowers hproduct
  have hjoins := shows_leftGrouped hproducts hjoin
  have hsums := shows_leftGrouped hjoins hsum
  refine shows_leftGrouped (shows_leftGrouped (fun whole read => ?_) hand) hor
  refine (silent_countSkipped rfl).bind fun count => (shows_comparison hsums).bind fun value => ?_
  exact tally_pure (by rw [features_repeat fun _ => by rw [Expr.features]])

/-- An operand with its signs, its postfix parts and its filters. -/
theorem shows_operandWith (hnested : nested.Shows)
    (hvalue : Parser.Shows keywordValue Expr.features) :
    Parser.Shows (nested.operandWith keywordValue) Expr.features := by
  intro whole read
  refine (shows_signed hnested).bind fun subject => ?_
  exact reads_bind (reads_postfixed hnested hvalue subject) fun _ => reads_filtered hnested hvalue _

/-- The values of named arguments are one level nearer to the bound. The
    induction is on the bound. -/
theorem shows_unconditionalWithin (hnested : nested.Shows) (bound : Nat) :
    Parser.Shows (nested.unconditionalWithin bound) Expr.features := by
  induction bound with
  | zero => exact Shows.of_fail
  | succ bound ih => exact shows_operators (shows_operandWith hnested ih)

/-- An expression without an inline condition, with the bound that its tokens
    give. -/
theorem shows_unconditional (hnested : nested.Shows) :
    Parser.Shows nested.unconditional Expr.features := by
  intro whole read
  exact reads_get_bind fun cursor => shows_unconditionalWithin hnested _ whole read

/-- The rest of a list in parentheses adds the filters of its items. It may end
    in a comma, so there are two ways to be done. -/
theorem reads_tupleRest (hnested : nested.Shows) (first : Expr) {whole read : List Feature} :
    Reads (Tally whole (read ++ first.features)) (nested.tupleRest first)
      fun tuple => Tally whole (read ++ tuple.features) := by
  have hdone (items : List Expr) : Reads (Tally whole (read ++ featuresOfItems items.reverse))
      (pure (Progress.done (Expr.list items.reverse))) (Progress.Meets
        (fun items : List Expr => Tally whole (read ++ featuresOfItems items.reverse))
        fun tuple => Tally whole (read ++ tuple.features)) :=
    reads_pure fun words htally => by simpa [Progress.Meets, Expr.features] using htally
  refine Reads.weaken (reads_loop
    (fun items => Tally whole (read ++ featuresOfItems items.reverse))
    (fun items => ?_) [first]) fun words htally => ?_
  · refine tally_skip_ite rfl (hdone items) (tally_expect_bind rfl ?_)
    refine tally_skip_ite rfl (hdone items) (hnested.expr.bind fun item => ?_)
    refine reads_pure fun words htally => ?_
    simpa [Progress.Meets, featuresOfItems_eq_flatMap] using htally
  · simpa [featuresOfItems] using htally

/-- What stands in parentheses shows the filters of its items. -/
theorem shows_parenthesized (hnested : nested.Shows) :
    Parser.Shows nested.parenthesized Expr.features := by
  intro whole read
  refine tally_skip_ite rfl (tally_pure (by simp [Expr.features, featuresOfItems])) ?_
  refine hnested.expr.bind fun first => tally_isNext_ite (reads_tupleRest hnested first) ?_
  exact tally_expect_bind rfl (tally_pure rfl)

/-- An entry of a map shows the filters of its two parts. -/
theorem shows_mapEntry (hnested : nested.Shows) :
    Parser.Shows nested.mapEntry fun entry => entry.1.features ++ entry.2.features := by
  intro whole read
  refine hnested.expr.bind fun key => tally_expect_bind rfl (hnested.expr.bind fun value => ?_)
  exact tally_pure (by simp)

/-- Strings one after the other show nothing. -/
theorem silent_joinedString (first : String) : Silent (joinedString first) := by
  intro whole read
  refine reads_loop (fun _ => Tally whole read) (fun content => ?_) first
  refine reads_peek_bind fun token => ?_
  split
  · exact tally_next_bind rfl (reads_pure fun _ => id)
  · exact reads_pure fun _ => And.left

/-- The innermost parts show the filters of what is nested in them. Only
    brackets nest anything; names, strings and numbers show nothing. -/
theorem shows_innermost (hnested : nested.Shows) :
    Parser.Shows nested.innermost Expr.features := by
  intro whole read
  have hplain {value : Expr} (hvalue : value.features = []) :
      Reads (Tally whole read) (pure value) fun value => Tally whole (read ++ value.features) :=
    tally_pure (by rw [hvalue, List.append_nil])
  refine reads_take_bind fun token => ?_
  split
  · next word =>
    refine Reads.weaken ?_ fun _ => Tally.skip rfl
    refine reads_ite (fun _ => hplain (by rw [Expr.features])) fun _ => ?_
    refine reads_ite (fun _ => hplain (by rw [Expr.features])) fun _ => ?_
    refine reads_ite (fun _ => hplain (by rw [Expr.features])) fun _ => ?_
    exact hplain (by rw [Expr.features])
  · refine Reads.weaken ((silent_joinedString _).bind fun _ => ?_) fun _ => Tally.skip rfl
    exact hplain (by rw [Expr.features])
  · exact (hplain (by rw [Expr.features])).weaken fun _ => Tally.skip rfl
  · exact (hplain (by rw [Expr.features])).weaken fun _ => Tally.skip rfl
  · exact (shows_parenthesized hnested whole read).weaken fun _ => Tally.skip rfl
  · refine Reads.weaken ?_ fun _ => Tally.skip rfl
    refine (shows_commaSeparated rfl fun _ => hnested.expr).bind fun items => tally_pure ?_
    rw [Expr.features, featuresOfItems_eq_flatMap]
  · refine Reads.weaken ?_ fun _ => Tally.skip rfl
    refine (shows_commaSeparated rfl fun _ => shows_mapEntry hnested).bind fun entries => ?_
    exact tally_pure (by rw [Expr.features, featuresOfEntries_eq_flatMap])
  · exact reads_fail

/-- An expression with inline conditions shows the filters of its parts, in the
    order of the text. -/
theorem shows_conditional (hnested : nested.Shows) :
    Parser.Shows nested.conditional Expr.features := by
  intro whole read
  refine (shows_unconditional hnested).bind fun value => ?_
  refine reads_loop (fun value => Tally whole (read ++ value.features)) (fun value => ?_) value
  refine tally_skip_ite rfl ?_ (reads_pure fun _ => id)
  refine (shows_unconditional hnested).bind fun test => ?_
  refine tally_default_bind rfl hnested.expr.some rfl fun otherwise => ?_
  exact reads_pure fun words htally => by simpa [Progress.Meets, Expr.features] using htally

end Nested

end PromptPacks.Template
