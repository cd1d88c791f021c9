import PromptPacks.Proofs.Template.Yields
import PromptPacks.Template.ExprParser
import PromptPacks.Template.FreeNames

namespace PromptPacks.Template

open PromptPacks.Template.Parser

variable {p : String → Prop}

/-- Whether all names that an expression reads satisfy a condition. -/
def Expr.HaveNames (p : String → Prop) (value : Expr) : Prop :=
  ∀ name ∈ value.names, p name

def Argument.HaveNames (p : String → Prop) (argument : Argument) : Prop :=
  ∀ name ∈ argument.names, p name

/-- Signs in front of an expression read nothing. -/
theorem haveNames_repeat {f : Expr → Expr} (hf : ∀ value, (f value).names = value.names)
    (n : Nat) (value : Expr) : (Nat.repeat f n value).names = value.names := by
  induction n with
  | zero => rfl
  | succ n ih => rw [Nat.repeat, hf, ih]

/-- All names of some items are as said if those of each item are. -/
theorem forall_namesOfItems {items : List Expr} :
    (∀ name ∈ namesOfItems items, p name) ↔ ∀ item ∈ items, item.HaveNames p := by
  induction items with
  | nil => simp [namesOfItems]
  | cons item rest ih =>
    rw [namesOfItems, List.forall_mem_append, ih, List.forall_mem_cons]
    rfl

/-- The same for arguments. -/
theorem forall_namesOfArguments {arguments : List Argument} :
    (∀ name ∈ namesOfArguments arguments, p name) ↔
      ∀ argument ∈ arguments, argument.HaveNames p := by
  induction arguments with
  | nil => simp [namesOfArguments]
  | cons argument rest ih =>
    rw [namesOfArguments, List.forall_mem_append, ih, List.forall_mem_cons]
    rfl

/-- The same for the entries of a map, with both of their parts. -/
theorem forall_namesOfEntries {entries : List (Expr × Expr)} :
    (∀ name ∈ namesOfEntries entries, p name) ↔
      ∀ entry ∈ entries, entry.1.HaveNames p ∧ entry.2.HaveNames p := by
  induction entries with
  | nil => simp [namesOfEntries]
  | cons entry rest ih =>
    rw [namesOfEntries, List.forall_mem_append, List.forall_mem_append, ih, List.forall_mem_cons]
    rfl

/-- The same for the operands of comparisons. -/
theorem forall_namesOfOperands {operands : List (CompareOp × Expr)} :
    (∀ name ∈ namesOfOperands operands, p name) ↔
      ∀ operand ∈ operands, operand.2.HaveNames p := by
  induction operands with
  | nil => simp [namesOfOperands]
  | cons operand rest ih =>
    rw [namesOfOperands, List.forall_mem_append, ih, List.forall_mem_cons]
    rfl

/-- The same for an expression that may be missing. -/
theorem forall_namesOfOption {value : Option Expr} :
    (∀ name ∈ namesOfOption value, p name) ↔ ∀ found, value = some found → found.HaveNames p := by
  cases value with
  | none => simp [namesOfOption]
  | some value =>
    rw [namesOfOption]
    exact ⟨fun hvalue found hfound => Option.some.inj hfound ▸ hvalue, fun hvalue => hvalue _ rfl⟩

/-- An expression where there is one. -/
def OptionNames (p : String → Prop) (value : Option Expr) : Prop :=
  ∀ found, value = some found → found.HaveNames p

theorem optionNames_none : OptionNames p none :=
  nofun

/-- A part that may be missing, where it is there. -/
theorem yields_some {parser : Parser Expr} (hparser : Parser.Yields p parser (Expr.HaveNames p)) :
    Parser.Yields p (some <$> parser) (OptionNames p) :=
  hparser.map fun _ hvalue _ hfound => Option.some.inj hfound ▸ hvalue

/-- A call reads what its callee and its arguments read. -/
theorem haveNames_call {callee : Expr} (hcallee : callee.HaveNames p) {arguments : List Argument}
    (harguments : ∀ argument ∈ arguments, argument.HaveNames p) :
    (Expr.call callee arguments).HaveNames p := by
  rw [Expr.HaveNames, Expr.names, List.forall_mem_append]
  exact ⟨hcallee, forall_namesOfArguments.2 harguments⟩

/-- A filter reads what its subject and its arguments read, and its own name is
    no variable. -/
theorem haveNames_filter {subject : Option Expr} (hsubject : OptionNames p subject) (name : String)
    {arguments : List Argument} (harguments : ∀ argument ∈ arguments, argument.HaveNames p) :
    (Expr.filter subject name arguments).HaveNames p := by
  rw [Expr.HaveNames, Expr.names, List.forall_mem_append]
  exact ⟨forall_namesOfOption.2 hsubject, forall_namesOfArguments.2 harguments⟩

namespace Nested

/-- Readers for nested parts that come across names with some property only. -/
structure Yields (p : String → Prop) (nested : Nested) : Prop where
  expr : Parser.Yields p nested.expr (Expr.HaveNames p)
  primary : Parser.Yields p nested.primary (Expr.HaveNames p)

variable {nested : Nested} {keywordValue : Parser Expr}

/-- An argument reads names that the tokens show. This and what follows is for
    any property of names that the name tokens have. -/
theorem yields_argument (hnested : nested.Yields p)
    (hvalue : Parser.Yields p keywordValue (Expr.HaveNames p)) (earlier : List Argument) :
    Parser.Yields p (nested.argument earlier keywordValue) (Argument.HaveNames p) := by
  refine (yields_skip _).bind fun _ _ => yields_ite ?_ ?_
  · exact hnested.expr.bind fun _ hvalues => yields_pure hvalues
  refine (yields_skip _).bind fun _ _ => yields_ite ?_ ?_
  · exact hnested.expr.bind fun _ hvalues => yields_pure hvalues
  refine hnested.expr.bind fun value hpositional => ?_
  cases value with
  | «variable» name =>
    refine (yields_skip _).bind fun _ _ => yields_ite ?_ (yields_ite yields_fail ?_)
    · exact hvalue.bind fun _ hnamed => yields_pure hnamed
    · exact yields_pure hpositional
  | _ => exact yields_ite yields_fail (yields_pure hpositional)

/-- Arguments read such names each. -/
theorem yields_arguments (hnested : nested.Yields p)
    (hvalue : Parser.Yields p keywordValue (Expr.HaveNames p)) :
    Parser.Yields p (nested.arguments keywordValue)
      fun arguments => ∀ argument ∈ arguments, argument.HaveNames p := by
  refine (yields_expect _).bind fun _ _ => yields_commaSeparated fun earlier => ?_
  exact (yields_argument hnested hvalue earlier).bind fun argument hargument =>
    yields_ite yields_fail (yields_pure hargument)

/-- A bound of a slice reads such names. -/
theorem yields_sliceBound (hnested : nested.Yields p) (stops : List Symbol) :
    Parser.Yields p (nested.sliceBound stops) (OptionNames p) := by
  refine yields_peek.bind fun token _ => ?_
  split
  · exact yields_ite (yields_pure optionNames_none) (yields_some hnested.expr)
  · exact yields_some hnested.expr

/-- An index or a slice reads such names, besides those of its subject. A slice
    does not count its subject at all. -/
theorem yields_subscript (hnested : nested.Yields p) {subject : Expr}
    (hsubject : subject.HaveNames p) :
    Parser.Yields p (nested.subscript subject) (Expr.HaveNames p) := by
  refine (yields_sliceBound hnested _).bind fun start hstart => ?_
  refine (yields_skip _).bind fun _ _ => yields_ite ?_ ?_
  · refine (yields_sliceBound hnested _).bind fun stop hstop => ?_
    refine yields_default (yields_sliceBound hnested _) optionNames_none fun step hstep => ?_
    refine (yields_expect _).bind fun _ _ => yields_pure ?_
    rw [Expr.HaveNames, Expr.names, List.forall_mem_append, List.forall_mem_append]
    exact ⟨⟨forall_namesOfOption.2 hstart, forall_namesOfOption.2 hstop⟩,
      forall_namesOfOption.2 hstep⟩
  · refine (yields_expect _).bind fun _ _ => ?_
    cases start with
    | none => exact yields_fail
    | some index =>
      refine yields_pure ?_
      rw [Expr.HaveNames, Expr.names, List.forall_mem_append]
      exact ⟨hsubject, hstart index rfl⟩

/-- The name of a property is no variable, so nothing has to be known of it. -/
theorem yields_property {subject : Expr} (hsubject : subject.HaveNames p) :
    Parser.Yields p (property subject) (Expr.HaveNames p) := by
  refine (yields_take _).bind fun token _ => ?_
  cases token with
  | name word => exact yields_pure hsubject
  | integer n => exact yields_pure (by simpa [Expr.HaveNames, Expr.names] using hsubject)
  | _ => exact yields_fail

/-- Properties, subscripts and calls read such names. Each takes what has been
    read for its subject, so this is what the loop keeps. -/
theorem yields_postfixed (hnested : nested.Yields p)
    (hvalue : Parser.Yields p keywordValue (Expr.HaveNames p)) {subject : Expr}
    (hsubject : subject.HaveNames p) :
    Parser.Yields p (nested.postfixed keywordValue subject) (Expr.HaveNames p) := by
  refine yields_loop (Expr.HaveNames p) (fun subject hsubject => ?_) hsubject
  refine yields_peek.bind fun token _ => ?_
  split
  · exact yields_next.bind fun _ _ => (yields_property hsubject).bind fun _ hfound =>
      yields_pure hfound
  · exact yields_next.bind fun _ _ => (yields_subscript hnested hsubject).bind fun _ hfound =>
      yields_pure hfound
  · exact (yields_arguments hnested hvalue).bind fun _ harguments =>
      yields_pure (haveNames_call hsubject harguments)
  · exact yields_pure hsubject

/-- Signs in front of an expression read nothing. -/
theorem yields_signed (hnested : nested.Yields p) :
    Parser.Yields p nested.signed (Expr.HaveNames p) := by
  refine (yields_countSkipped _).bind fun signs _ => ?_
  refine hnested.primary.bind fun operand hoperand => yields_pure ?_
  rwa [Expr.HaveNames, haveNames_repeat fun _ => by rw [Expr.names]]

/-- Arguments that may be missing read nothing where they are. -/
theorem yields_optionalArguments (hnested : nested.Yields p)
    (hvalue : Parser.Yields p keywordValue (Expr.HaveNames p)) :
    Parser.Yields p (nested.optionalArguments keywordValue)
      fun arguments => ∀ argument ∈ arguments, argument.HaveNames p :=
  (yields_isNext _).bind fun _ _ =>
    yields_ite (yields_arguments hnested hvalue) (yields_pure nofun)

/-- A name with points in it is no variable. -/
theorem yields_dottedName : Parser.Yields p dottedName fun _ => True := by
  refine yields_expectName.bind fun first _ => ?_
  refine yields_loop (fun _ => True) (fun name _ => ?_) trivial
  refine (yields_skip _).bind fun _ _ => yields_ite ?_ (yields_pure trivial)
  exact yields_expectName.bind fun _ _ => yields_pure trivial

/-- The arguments of a test read such names. -/
theorem yields_testArguments (hnested : nested.Yields p)
    (hvalue : Parser.Yields p keywordValue (Expr.HaveNames p)) :
    Parser.Yields p (nested.testArguments keywordValue)
      fun arguments => ∀ argument ∈ arguments, argument.HaveNames p := by
  refine yields_peek.bind fun token _ => ?_
  split
  · exact yields_arguments hnested hvalue
  · refine yields_ite ?_ (yields_pure nofun)
    refine (yields_signed hnested).bind fun subject hsubject => ?_
    refine (yields_postfixed hnested hvalue hsubject).bind fun value hfound => yields_pure ?_
    exact List.forall_mem_singleton.2 hfound
  · exact yields_pure nofun

/-- Filters and tests behind an expression, in any number. Both, and the
    negation of a test, add only the names of their arguments. -/
theorem yields_filtered (hnested : nested.Yields p)
    (hvalue : Parser.Yields p keywordValue (Expr.HaveNames p)) {subject : Expr}
    (hsubject : subject.HaveNames p) :
    Parser.Yields p (nested.filtered keywordValue subject) (Expr.HaveNames p) := by
  refine yields_loop (Expr.HaveNames p) (fun subject hsubject => ?_) hsubject
  refine (yields_skip _).bind fun _ _ => yields_ite ?_ ?_
  · refine yields_dottedName.bind fun name _ => ?_
    refine (yields_optionalArguments hnested hvalue).bind fun arguments harguments => ?_
    exact yields_pure (haveNames_filter (fun _ hfound => Option.some.inj hfound ▸ hsubject) name
      harguments)
  refine (yields_skip _).bind fun _ _ => yields_ite ?_ (yields_pure hsubject)
  refine (yields_skip _).bind fun negated _ => yields_dottedName.bind fun name _ => ?_
  refine (yields_testArguments hnested hvalue).bind fun arguments harguments => yields_pure ?_
  have htest : (Expr.test subject name arguments).HaveNames p := by
    rw [Expr.HaveNames, Expr.names, List.forall_mem_append]
    exact ⟨hsubject, forall_namesOfArguments.2 harguments⟩
  cases negated with
  | true => exact (show (Expr.not _).HaveNames p by rwa [Expr.HaveNames, Expr.names])
  | false => exact htest

/-- Operators that read what their operands read. -/
def ReadsBoth (operator? : Token → Option (Expr → Expr → Expr)) : Prop :=
  ∀ token combine, operator? token = some combine →
    ∀ left right, (combine left right).names = left.names ++ right.names

/-- Each operator reads what its two operands read. -/
theorem readsBoth_operators : ReadsBoth powerOp? ∧ ReadsBoth productOp? ∧ ReadsBoth joinOp? ∧
    ReadsBoth sumOp? ∧ ReadsBoth andOp? ∧ ReadsBoth orOp? := by
  refine ⟨?_, ?_, ?_, ?_, ?_, ?_⟩
  all_goals
    intro token combine hcombine
    simp only [powerOp?, productOp?, joinOp?, sumOp?, andOp?, orOp?] at hcombine
    split at hcombine <;> cases hcombine
    all_goals exact fun _ _ => by rw [Expr.names]

/-- Operands with operators between them read such names. Nothing is asked of an
    operator but that it combines the names of its operands. -/
theorem yields_leftGrouped {operand : Parser Expr}
    {operator? : Token → Option (Expr → Expr → Expr)}
    (hoperand : Parser.Yields p operand (Expr.HaveNames p)) (hboth : ReadsBoth operator?) :
    Parser.Yields p (leftGrouped operand operator?) (Expr.HaveNames p) := by
  refine hoperand.bind fun first hfirst => ?_
  refine yields_loop (Expr.HaveNames p) (fun left hleft => ?_) hfirst
  refine yields_peek.bind fun token _ => ?_
  split
  · next combine hcombine =>
    obtain ⟨token, rfl, hoperator⟩ := Option.bind_eq_some_iff.1 hcombine
    refine yields_next.bind fun _ _ => hoperand.bind fun right hright => yields_pure ?_
    rw [Progress.Holds, Expr.HaveNames, hboth token combine hoperator, List.forall_mem_append]
    exact ⟨hleft, hright⟩
  · exact yields_pure hleft

theorem yields_nextCompareOp : Parser.Yields p nextCompareOp fun _ => True := by
  refine yields_peek.bind fun token _ => ?_
  cases token with
  | none => exact yields_pure trivial
  | some token =>
    dsimp only
    split
    · exact yields_next.bind fun _ _ => yields_pure trivial
    · refine (yields_skip _).bind fun _ _ => yields_ite ?_ (yields_pure trivial)
      exact (yields_expectWord _).bind fun _ _ => yields_pure trivial

/-- A chain of comparisons reads such names, the first operand and all others
    alike. -/
theorem yields_comparison {operand : Parser Expr}
    (hoperand : Parser.Yields p operand (Expr.HaveNames p)) :
    Parser.Yields p (comparison operand) (Expr.HaveNames p) := by
  let all (rest : List (CompareOp × Expr)) := ∀ operand ∈ rest, operand.2.HaveNames p
  refine hoperand.bind fun first hfirst => ?_
  refine yields_loop_bind all all (fun rest hrest => ?_) nofun fun rest hrest => yields_pure ?_
  · refine yields_nextCompareOp.bind fun op _ => ?_
    cases op with
    | none => exact yields_pure fun operand hmem => hrest operand (List.mem_reverse.1 hmem)
    | some op =>
      exact hoperand.bind fun found hfound => yields_pure (List.forall_mem_cons.2 ⟨hfound, hrest⟩)
  · cases rest with
    | nil => exact hfirst
    | cons next rest =>
      rw [if_neg (by simp), Expr.HaveNames, Expr.names, List.forall_mem_append]
      exact ⟨hfirst, forall_namesOfOperands.2 hrest⟩

/-- The levels of operators read nothing of their own. -/
theorem yields_operators {operand : Parser Expr}
    (hoperand : Parser.Yields p operand (Expr.HaveNames p)) :
    Parser.Yields p (operators operand) (Expr.HaveNames p) := by
  obtain ⟨hpower, hproduct, hjoin, hsum, hand, hor⟩ := readsBoth_operators
  have hpowers := yields_leftGrouped hoperand hpower
  have hproducts := yields_leftGrouped hpowers hproduct
  have hjoins := yields_leftGrouped hproducts hjoin
  have hsums := yields_leftGrouped hjoins hsum
  refine yields_leftGrouped (yields_leftGrouped ?_ hand) hor
  refine (yields_countSkipped _).bind fun count _ => ?_
  refine (yields_comparison hsums).bind fun value hfound => yields_pure ?_
  rwa [Expr.HaveNames, haveNames_repeat fun _ => by rw [Expr.names]]

/-- An operand with its signs, its postfix parts and its filters. -/
theorem yields_operandWith (hnested : nested.Yields p)
    (hvalue : Parser.Yields p keywordValue (Expr.HaveNames p)) :
    Parser.Yields p (nested.operandWith keywordValue) (Expr.HaveNames p) :=
  (yields_signed hnested).bind fun _ hsubject =>
    (yields_postfixed hnested hvalue hsubject).bind fun _ hsubject =>
      yields_filtered hnested hvalue hsubject

/-- The values of named arguments are one level nearer to the bound. The
    induction is on the bound. -/
theorem yields_unconditionalWithin (hnested : nested.Yields p) (bound : Nat) :
    Parser.Yields p (nested.unconditionalWithin bound) (Expr.HaveNames p) := by
  induction bound with
  | zero => exact yields_fail
  | succ bound ih => exact yields_operators (yields_operandWith hnested ih)

/-- An expression without an inline condition, with the bound that its tokens
    give. -/
theorem yields_unconditional (hnested : nested.Yields p) :
    Parser.Yields p nested.unconditional (Expr.HaveNames p) :=
  yields_get.bind fun _ _ => yields_unconditionalWithin hnested _

/-- The rest of a list in parentheses reads such names. -/
theorem yields_tupleRest (hnested : nested.Yields p) {first : Expr} (hfirst : first.HaveNames p) :
    Parser.Yields p (nested.tupleRest first) (Expr.HaveNames p) := by
  let all (items : List Expr) := ∀ item ∈ items, item.HaveNames p
  refine yields_loop all (fun items hitems => ?_) (List.forall_mem_singleton.2 hfirst)
  have hdone : Parser.Yields p (pure (Progress.done (.list items.reverse)))
      (Progress.Holds all (Expr.HaveNames p)) := by
    refine yields_pure ?_
    rw [Progress.Holds, Expr.HaveNames, Expr.names, forall_namesOfItems]
    exact fun item hmem => hitems item (List.mem_reverse.1 hmem)
  refine (yields_skip _).bind fun _ _ => yields_ite hdone ((yields_expect _).bind fun _ _ => ?_)
  refine (yields_skip _).bind fun _ _ => yields_ite hdone (hnested.expr.bind fun item hitem => ?_)
  exact yields_pure (List.forall_mem_cons.2 ⟨hitem, hitems⟩)

/-- What stands in parentheses reads such names. -/
theorem yields_parenthesized (hnested : nested.Yields p) :
    Parser.Yields p nested.parenthesized (Expr.HaveNames p) := by
  refine (yields_skip _).bind fun _ _ => yields_ite (yields_pure ?_) ?_
  · simp [Expr.HaveNames, Expr.names, namesOfItems]
  refine hnested.expr.bind fun first hfirst => (yields_isNext _).bind fun _ _ => ?_
  refine yields_ite (yields_tupleRest hnested hfirst) ?_
  exact (yields_expect _).bind fun _ _ => yields_pure hfirst

/-- An entry of a map reads such names in both of its parts. -/
theorem yields_mapEntry (hnested : nested.Yields p) :
    Parser.Yields p nested.mapEntry fun entry => entry.1.HaveNames p ∧ entry.2.HaveNames p :=
  hnested.expr.bind fun _ hkey => (yields_expect _).bind fun _ _ =>
    hnested.expr.bind fun _ hfound => yields_pure ⟨hkey, hfound⟩

theorem yields_joinedString (first : String) :
    Parser.Yields p (joinedString first) fun _ => True := by
  refine yields_loop (fun _ => True) (fun content _ => ?_) trivial
  refine yields_peek.bind fun token _ => ?_
  split
  · exact yields_next.bind fun _ _ => yields_pure trivial
  · exact yields_pure trivial

/-- A literal reads nothing. -/
theorem haveNames_literal (value : Literal) : (Expr.literal value).HaveNames p := by
  simp [Expr.HaveNames, Expr.names]

/-- The innermost parts: a name is one of the tokens, and all others are made of
    expressions. -/
theorem yields_innermost (hnested : nested.Yields p) :
    Parser.Yields p nested.innermost (Expr.HaveNames p) := by
  refine (yields_take _).bind fun token htoken => ?_
  split
  · next word =>
    refine yields_ite (yields_pure (haveNames_literal _)) ?_
    refine yields_ite (yields_pure (haveNames_literal _)) ?_
    refine yields_ite (yields_pure (haveNames_literal _)) (yields_pure ?_)
    rw [Expr.HaveNames, Expr.names]
    exact List.forall_mem_singleton.2 (htoken word rfl)
  · exact (yields_joinedString _).bind fun _ _ => yields_pure (haveNames_literal _)
  · exact yields_pure (haveNames_literal _)
  · exact yields_pure (haveNames_literal _)
  · exact yields_parenthesized hnested
  · refine (yields_commaSeparated fun _ => hnested.expr).bind fun items hitems => yields_pure ?_
    rw [Expr.HaveNames, Expr.names]
    exact forall_namesOfItems.2 hitems
  · refine (yields_commaSeparated fun _ => yields_mapEntry hnested).bind fun entries hentries => ?_
    refine yields_pure ?_
    rw [Expr.HaveNames, Expr.names]
    exact forall_namesOfEntries.2 hentries
  · exact yields_fail

/-- An expression with inline conditions reads such names, whichever branch is
    taken. -/
theorem yields_conditional (hnested : nested.Yields p) :
    Parser.Yields p nested.conditional (Expr.HaveNames p) := by
  refine (yields_unconditional hnested).bind fun value hfirst => ?_
  refine yields_loop (Expr.HaveNames p) (fun value hfound => ?_) hfirst
  refine (yields_skip _).bind fun _ _ => yields_ite ?_ (yields_pure hfound)
  refine (yields_unconditional hnested).bind fun test htest => ?_
  refine yields_default (yields_some hnested.expr) optionNames_none fun otherwise hotherwise => ?_
  refine yields_pure ?_
  rw [Progress.Holds, Expr.HaveNames, Expr.names, List.forall_mem_append, List.forall_mem_append]
  exact ⟨⟨htest, hfound⟩, forall_namesOfOption.2 hotherwise⟩

end Nested

end PromptPacks.Template
