import PromptPacks.Proofs.Template.ExprCalls
import PromptPacks.Template.StmtParser

namespace PromptPacks.Template

open PromptPacks.Template.Parser

/-- Readers for what stands inside a statement whose answers hold exactly the
    calls that their tokens show. The word that a statement begins with comes
    after the start of its tag. -/
structure Inner.Counts (name : String) (inner : Inner) : Prop where
  nested : inner.toNested.Counts name
  stmt : ∀ whole read,
    Reads (fun words => CallTally name true whole read (.tagStart :: words)) inner.stmt
      fun stmt => CallTally name true whole (read ++ stmt.calls)

/-- The end of a body: the end of the template, or a tag with one of the given
    words. -/
def StopCallTally (name : String) (stops : List String) (whole : Prop) (read : List String)
    (words : List Token) : Prop :=
  (words = [] ∧ (whole ↔ name ∈ read)) ∨
    (∃ word ∈ stops, words.head? = some (.name word)) ∧
      CallTally name true whole read (.tagStart :: words)

/-- After a name that gets a value. Where parentheses come next, the reading
    stops at a fault. -/
def TargetTally (name : String) (whole : Prop) (read : List String) (words : List Token) : Prop :=
  words.head? = some (.symbol .parenOpen) ∨ CallTally name true whole read words

section

variable {name : String} {stops : List String} {whole : Prop} {read : List String}
  {words : List Token}

/-- Without tokens that are left, what has been read decides whether a name is
    called. -/
theorem callTally_nil : CallTally name true whole read [] ↔ (whole ↔ name ∈ read) := by
  refine ⟨fun htally => by simpa [ShowsCall] using htally.whole_iff, fun hwhole => ?_⟩
  exact ⟨by simpa [ShowsCall] using hwhole, by simp [isClear_nil], by simp [AreSupported]⟩

/-- At the end of a template a body ends without a tag of its own. -/
theorem StopCallTally.nil (hstop : StopCallTally name stops whole read []) :
    CallTally name true whole read [] := by
  obtain ⟨-, hread⟩ | ⟨⟨word, -, hhead⟩, -⟩ := hstop
  · exact callTally_nil.2 hread
  · cases hhead

/-- Where tokens are left, a body ends with a tag of one of its words. -/
theorem StopCallTally.cons {token : Token}
    (hstop : StopCallTally name stops whole read (token :: words)) :
    ∃ word ∈ stops, token = .name word ∧
      CallTally name true whole read (.tagStart :: .name word :: words) := by
  obtain ⟨hempty, -⟩ | ⟨⟨word, hword, hhead⟩, htally⟩ := hstop
  · cases hempty
  · rw [List.head?_cons, Option.some.injEq] at hhead
    exact ⟨word, hword, hhead, hhead ▸ htally⟩

/-- The word that ends a body is passed without a call, as words of the language
    are not looked for. -/
theorem StopCallTally.of_cons {token : Token} (hname : name ∉ languageWords)
    (hstops : ∀ word ∈ stops, word ∈ languageWords)
    (hstop : StopCallTally name stops whole read (token :: words)) :
    CallTally name true whole read words := by
  obtain ⟨word, hword, -, htally⟩ := hstop.cons
  exact (htally.skip (.of_isMute rfl)).skip (.of_word hname (hstops word hword))

/-- Behind a name that gets a value, a token that calls nothing is passed. -/
theorem TargetTally.skip {token : Token} (htarget : TargetTally name whole read (token :: words))
    (hidle : token.IsIdle name) (hopen : token ≠ .symbol .parenOpen) :
    CallTally name true whole read words :=
  (htarget.resolve_left fun hhead => hopen (Option.some.inj hhead)).skip hidle

/-- After a name only what comes next tells whether it is called. -/
theorem CallTally.target {word : String}
    (htally : CallTally name true whole read (.name word :: words)) :
    TargetTally name whole read words := by
  by_cases hcalled : IsCalled name (.name word :: words)
  · exact .inl (isCalled_cons.1 hcalled).2
  · exact .inr (htally.skip_name hcalled)

/-- The word that ends a body is passed, or the end of the template. Both
    readers go on alike. -/
theorem reads_stop_next_bind_calls {α : Type} (hname : name ∉ languageWords)
    (hstops : ∀ word ∈ stops, word ∈ languageWords) {second : Option Token → Parser α}
    {after : α → List Token → Prop}
    (hsecond : ∀ found, Reads (CallTally name true whole read) (second found) after) :
    Reads (StopCallTally name stops whole read) (next >>= second) after := by
  refine reads_next_bind ((hsecond none).weaken ?_) fun token => (hsecond (some token)).weaken ?_
  · rintro words ⟨hstop, rfl⟩
    exact hstop.nil
  · exact fun words hstop => hstop.of_cons hname hstops

/-- A name that gets a value is no call, and whether one follows is left open. -/
theorem reads_targetName_calls :
    Reads (CallTally name true whole read) targetName fun _ => TargetTally name whole read := by
  refine reads_expectName_bind fun word => reads_ite (fun _ => reads_fail) fun _ => ?_
  exact reads_pure fun words => CallTally.target

/-- A property that gets a value is no call, either. -/
theorem reads_propertyTarget_calls :
    Reads (CallTally name true whole read) propertyTarget
      fun _ => TargetTally name whole read := by
  refine reads_bind reads_targetName_calls fun word => ?_
  refine reads_loop (fun _ => TargetTally name whole read) (fun target => ?_)
    (Target.variable word)
  refine reads_skip_ite ?_ (reads_pure fun words => And.left)
  refine reads_expectName_bind fun property => reads_pure fun words htarget => .inr ?_
  exact (htarget.resolve_left nofun).of_dot.skip_property rfl nofun

/-- Several names between parentheses call nothing, in whatever way they are
    nested. -/
theorem reads_targetsOf_calls {item : Parser Target}
    (hitem : Reads (CallTally name true whole read) item fun _ => TargetTally name whole read) :
    Reads (CallTally name true whole read) (targetsOf item)
      fun _ => TargetTally name whole read := by
  refine reads_loop (fun _ => CallTally name true whole read) (fun earlier => ?_) []
  have hnext : Reads (CallTally name true whole read) (do
      if ((← peek).map endsTargets).getD false then return .done (.tuple earlier.reverse)
      let target ← item
      if ← isNext (.symbol .comma) then return .again (target :: earlier)
      return .done (if earlier.isEmpty then target else .tuple (target :: earlier).reverse))
      (Progress.Meets (fun _ : List Target => CallTally name true whole read)
        fun _ => TargetTally name whole read) := by
    refine reads_peek_bind fun token => Reads.weaken ?_ fun _ => And.left
    refine reads_ite (fun _ => reads_pure fun _ => .inr) fun _ => ?_
    refine reads_bind hitem fun target => reads_isNext_ite ?_ (reads_pure fun _ => And.left)
    refine reads_pure fun words htarget => htarget.1.resolve_left fun hhead => ?_
    rw [hhead] at htarget
    cases htarget.2
  exact reads_ite (fun _ => counts_expect_bind (.of_isMute rfl) hnext) fun _ => hnext

/-- The names that a loop binds call nothing. -/
theorem reads_loopTarget_calls :
    Reads (CallTally name true whole read) loopTarget fun _ => TargetTally name whole read := by
  have hwithin (bound : Nat) : Reads (CallTally name true whole read) (targetWithin bound)
      fun _ => TargetTally name whole read := by
    induction bound with
    | zero => exact reads_fail
    | succ bound ih =>
      refine reads_targetsOf_calls (counts_skip_ite (.of_isMute rfl) ?_ ?_)
      · refine reads_bind ih fun target => reads_expect_bind (reads_pure fun words htarget => ?_)
        exact .inr (htarget.skip (.of_isMute rfl) nofun)
      · exact reads_map reads_targetName_calls fun _ _ => id
  exact reads_get_bind fun cursor => hwithin _

end

/-- What the branches of a condition call that another branch comes after. -/
def callsOfBranches (earlier : List (Expr × List Stmt)) : List String :=
  earlier.reverse.flatMap fun branch => branch.1.calls ++ callsOfBody branch.2

/-- Each branch goes into the other case of the one before it, so the calls of
    all branches come in the order of the branches. -/
theorem calls_foldl_conditional (earlier : List (Expr × List Stmt)) (stmt : Stmt) :
    (earlier.foldl (fun stmt (test, body) => .conditional test body [stmt]) stmt).calls =
      callsOfBranches earlier ++ stmt.calls := by
  induction earlier generalizing stmt with
  | nil => rfl
  | cons branch earlier ih =>
    rw [List.foldl_cons, ih]
    simp [callsOfBranches, Stmt.calls, callsOfBody]

namespace Inner

variable {name : String} {whole : Prop} {read : List String} {inner : Inner}

/-- A body adds the calls of its pieces, and the end of the body belongs to what
    is around. The word for it calls nothing. -/
theorem reads_bodyUntil_calls (hinner : inner.Counts name) (stops : List String) :
    Reads (CallTally name true whole read) (inner.bodyUntil stops)
      fun body => StopCallTally name stops whole (read ++ callsOfBody body) := by
  refine Reads.weaken (reads_pieces
    (fun earlier => CallTally name true whole (read ++ callsOfBody earlier.reverse))
    (fun earlier htally => .inl ⟨rfl, callTally_nil.1 htally⟩)
    (fun earlier word hword words htally => .inr ⟨⟨word, hword, rfl⟩, htally⟩)
    (fun earlier content words htally => ?_) (fun earlier => ?_)
    (fun _ _ => CallTally.skip (.of_isMute rfl)) (fun earlier => ?_)
    (fun _ _ => CallTally.skip (.of_isMute rfl))) fun words htally => ?_
  · simpa [callsOfBody_eq_flatMap, Stmt.calls] using htally.skip (.of_isMute rfl)
  · refine ((hinner.nested.expr.counts whole _).imp fun value words htally => ?_).weaken
      fun words => CallTally.skip (.of_isMute rfl)
    simpa [callsOfBody_eq_flatMap, Stmt.calls] using htally
  · refine (hinner.stmt whole _).imp fun stmt words htally => ?_
    simpa [callsOfBody_eq_flatMap] using htally
  · simpa [callsOfBody] using htally

/-- A value that is assigned adds its own calls. Where it is a list without
    brackets, those of its items. -/
theorem counts_assignedValue (hinner : inner.Counts name) :
    Parser.Counts name inner.assignedValue Expr.calls := by
  intro whole read
  refine hinner.nested.expr.counts.bind fun first => counts_isNext_ite ?_ (counts_pure rfl)
  rw [map_eq_pure_bind]
  refine Reads.weaken (reads_loop_bind
    (fun items => CallTally name true whole (read ++ callsOfItems items.reverse))
    (fun items => CallTally name true whole (read ++ callsOfItems items)) (fun items => ?_)
    fun items => ?_) fun words htally => ?_
  · refine counts_skip_ite (.of_isMute rfl) ?_ (reads_pure fun _ => id)
    refine counts_isNext_ite (reads_pure fun _ => id)
      (hinner.nested.expr.counts.bind fun item => reads_pure fun words htally => ?_)
    simpa [Progress.Meets, callsOfItems_eq_flatMap] using htally
  · exact counts_pure (by rw [Expr.calls])
  · simpa [callsOfItems] using htally

/-- What is assigned to calls nothing by itself. It may be a name, a property of
    one or several names. -/
theorem reads_assignedTarget_calls :
    Reads (CallTally name true whole read) assignedTarget
      fun _ => TargetTally name whole read := by
  refine reads_bind reads_propertyTarget_calls fun first => ?_
  refine reads_isNext_ite ?_ ?_
  · rw [map_eq_pure_bind]
    refine Reads.weaken (reads_loop_bind (fun _ => TargetTally name whole read)
      (fun _ => TargetTally name whole read) (fun items => ?_) fun items => reads_pure fun _ => id)
      fun words => And.left
    refine reads_skip_ite ?_ (reads_pure fun _ => And.left)
    refine Reads.weaken (counts_isNext_ite (reads_pure fun _ => .inr) ?_) fun words htarget =>
      htarget.skip (.of_isMute rfl) nofun
    exact reads_bind reads_propertyTarget_calls fun _ => reads_pure fun _ => id
  · exact reads_pure fun _ => And.left

/-- An assignment to a name adds the calls of its value, its filters or its
    body. -/
theorem reads_assignTo_calls (hinner : inner.Counts name) (target : Target) :
    Reads (TargetTally name whole read) (inner.assignTo target)
      fun stmt => CallTally name true whole (read ++ stmt.calls) := by
  refine reads_expect_bind (Reads.weaken ?_ fun words htarget =>
    htarget.skip (.of_isMute rfl) nofun)
  exact (counts_assignedValue hinner).bind fun value => counts_pure (by rw [Stmt.calls])

variable (hname : name ∉ languageWords)

include hname

/-- A body that is read with the tag behind it adds the same calls. -/
theorem counts_bodyThrough (hinner : inner.Counts name) {stop : String}
    (hstop : stop ∈ languageWords) :
    Parser.Counts name (inner.bodyThrough stop) callsOfBody := by
  intro whole read
  refine counts_expect_bind (.of_isMute rfl)
    (reads_bind (reads_bodyUntil_calls hinner [stop]) fun body => ?_)
  exact reads_stop_next_bind_calls hname (by simpa using hstop) fun _ => counts_pure rfl

/-- A loop adds the calls of what it goes over, of its condition and of its
    bodies. -/
theorem counts_forLoop (hinner : inner.Counts name) :
    Parser.Counts name inner.forLoop Stmt.calls := by
  intro whole read
  refine reads_bind reads_loopTarget_calls fun target => reads_expectWord_bind ?_
  refine Reads.weaken ?_ fun words htarget => htarget.skip (.of_word hname (by decide)) nofun
  refine (Nested.counts_unconditional hname hinner.nested).counts.bind fun source => ?_
  refine counts_default_bind (.of_word hname (by decide)) hinner.nested.expr.some rfl
    fun condition => ?_
  refine (idles_skip (.of_word hname (by decide))).bind fun recursive => ?_
  refine counts_expect_bind (.of_isMute rfl) ?_
  refine reads_bind (reads_bodyUntil_calls hinner _) fun body => reads_skip_ite ?_ ?_
  · refine Reads.weaken ?_ fun words hstop => hstop.of_cons hname (by decide)
    refine (counts_bodyThrough hname hinner (by decide)).bind fun otherwise => counts_pure ?_
    simp [Stmt.calls]
  · refine Reads.weaken (reads_stop_next_bind_calls hname ?_ fun _ => counts_pure ?_)
      fun words => And.left
    · decide
    · simp [Stmt.calls, callsOfBody]

/-- A condition is read branch by branch. After one branch comes the other case,
    a further branch or the end. -/
theorem reads_branches_calls (hinner : inner.Counts name) (earlier : List (Expr × List Stmt)) :
    Reads (CallTally name true whole (read ++ callsOfBranches earlier)) (inner.branches earlier)
      (Progress.Meets (fun earlier => CallTally name true whole (read ++ callsOfBranches earlier))
        fun result => CallTally name true whole
          (read ++ callsOfBranches result.1 ++ callsOfBody result.2)) := by
  refine (Nested.counts_unconditional hname hinner.nested).counts.bind fun test => ?_
  refine counts_expect_bind (.of_isMute rfl) ?_
  refine reads_bind (reads_bodyUntil_calls hinner _) fun body => ?_
  have hdone {otherwise : List Stmt} {words : List Token}
      (htally : CallTally name true whole (read ++ callsOfBranches earlier ++ test.calls ++
        callsOfBody body ++ callsOfBody otherwise) words) :
      CallTally name true whole (read ++ callsOfBranches ((test, body) :: earlier) ++
        callsOfBody otherwise) words := by
    simpa [callsOfBranches] using htally
  have hstops : ∀ word ∈ ["endif", "else", "elif"], word ∈ languageWords := by decide
  refine reads_next_bind (reads_pure ?_) fun token => ?_
  · rintro words ⟨hstop, rfl⟩
    exact hdone (by simpa [callsOfBody] using hstop.nil)
  split
  · refine Reads.weaken ?_ fun words hstop => hstop.of_cons hname hstops
    refine (counts_bodyThrough hname hinner (by decide)).bind fun otherwise => ?_
    exact reads_pure fun words => hdone
  · refine reads_pure fun words hstop => ?_
    simpa [Progress.Meets, callsOfBranches] using hstop.of_cons hname hstops
  · refine reads_pure fun words hstop => hdone ?_
    simpa [callsOfBody] using hstop.of_cons hname hstops

/-- A condition adds the calls of its tests and of all its branches. The
    branches are nested in the statement, each in the other case of the one
    before it. -/
theorem counts_conditional (hinner : inner.Counts name) :
    Parser.Counts name inner.conditional Stmt.calls := by
  intro whole read
  refine Reads.weaken (reads_loop_bind
    (fun earlier => CallTally name true whole (read ++ callsOfBranches earlier))
    (fun result => CallTally name true whole
      (read ++ callsOfBranches result.1 ++ callsOfBody result.2))
    (fun earlier => reads_branches_calls hname hinner earlier) ?_) fun words htally => ?_
  · rintro ⟨reversed, otherwise⟩
    cases reversed with
    | nil => exact reads_fail
    | cons branch earlier =>
      refine counts_pure ?_
      simp [calls_foldl_conditional, callsOfBranches, Stmt.calls]
  · simpa [callsOfBranches] using htally

/-- Between the filters of a chain. Before the first one its name comes next. -/
def ChainCallTally (name : String) (whole : Prop) (read : List String) :
    Option Expr → List Token → Prop
  | none => fun words => CallTally name true whole read words ∧ ¬IsCalled name words
  | some filter => CallTally name true whole (read ++ filter.calls)

/-- A chain of filters adds the calls in the arguments. The names of the filters
    are not called, though parentheses may follow them. -/
theorem reads_filterChain_calls (hinner : inner.Counts name) :
    Reads (fun words => CallTally name true whole read words ∧ ¬IsCalled name words)
      inner.filterChain fun filter => CallTally name true whole (read ++ filter.calls) := by
  have harguments := Nested.counts_optionalArguments hinner.nested
    (Nested.counts_unconditional hname hinner.nested)
  have hstep (chain : Option Expr) : Reads
      (fun words => CallTally name true whole (read ++ callsOfOption chain) words ∧
        ¬IsCalled name words)
      (do
        let filter ← Nested.dottedName
        let filter := Expr.filter chain filter
          (← inner.optionalArguments inner.unconditional)
        return .again (some filter))
      (Progress.Meets (ChainCallTally name whole read) (ChainCallTally name whole read)) := by
    refine reads_bind (Nested.reads_dottedName_calls _ _) fun filter => ?_
    refine harguments.bind fun arguments => reads_pure fun words htally => ?_
    simpa [Progress.Meets, ChainCallTally, Expr.calls] using htally
  refine reads_loop_bind (ChainCallTally name whole read) (ChainCallTally name whole read)
    (fun chain => ?_) fun chain => ?_
  · refine reads_isNext_ite (reads_pure fun words => And.left) ?_
    refine Reads.weaken ?_ fun words => And.left
    cases chain with
    | none => simpa [callsOfOption, ChainCallTally] using hstep none
    | some filter =>
      refine reads_expect_bind ((hstep (some filter)).weaken fun words htally => ?_)
      exact ⟨htally.skip (.of_isMute rfl), htally.clear.not_isCalled_of_pipe⟩
  · cases chain with
    | none => exact reads_fail
    | some filter => exact reads_pure fun _ => id

/-- An assignment adds the calls on its right side. What is assigned to may end
    in a name, and a parenthesis behind it would be a fault. -/
theorem counts_assignment (hinner : inner.Counts name) :
    Parser.Counts name inner.assignment Stmt.calls := by
  intro whole read
  have hfiltered (target : Target) :
      Reads (fun words => CallTally name true whole read words ∧ ¬IsCalled name words)
        (do
          let filter ← inner.filterChain
          return Stmt.capture target (some filter) (← inner.bodyThrough "endset"))
        fun stmt => CallTally name true whole (read ++ stmt.calls) := by
    refine reads_bind (reads_filterChain_calls hname hinner) fun filter => ?_
    refine (counts_bodyThrough hname hinner (by decide)).bind fun body => counts_pure ?_
    simp [Stmt.calls, callsOfOption]
  refine counts_skip_ite (.of_isMute rfl) ?_ ?_
  · refine reads_bind reads_loopTarget_calls fun target => reads_expect_bind ?_
    refine (reads_assignTo_calls hinner target).weaken fun words htarget => .inr ?_
    exact htarget.skip (.of_isMute rfl) (by simp)
  · refine reads_bind reads_assignedTarget_calls fun target => reads_isNext_ite ?_ ?_
    · refine Reads.weaken ((counts_bodyThrough hname hinner (by decide)).bind fun body =>
        counts_pure ?_) fun words htarget => htarget.1.resolve_left fun hhead => ?_
      · simp [Stmt.calls, callsOfOption]
      · rw [hhead] at htarget
        cases htarget.2
    · refine reads_skip_ite ?_ ((reads_assignTo_calls hinner target).weaken ?_)
      · refine (hfiltered target).weaken fun words htarget => ?_
        have htally := htarget.1.resolve_left (by simp)
        exact ⟨htally.skip (.of_isMute rfl), htally.clear.not_isCalled_of_pipe⟩
      · exact fun words htarget => htarget.1.1

/-- A filter block adds the calls of its filters and of its body. -/
theorem reads_filterBlock_calls (hinner : inner.Counts name) :
    Reads (fun words => CallTally name true whole read words ∧ ¬IsCalled name words)
      inner.filterBlock fun stmt => CallTally name true whole (read ++ stmt.calls) := by
  refine reads_bind (reads_filterChain_calls hname hinner) fun filter => ?_
  refine (counts_bodyThrough hname hinner (by decide)).bind fun body => counts_pure ?_
  simp [Stmt.calls]

/-- Every statement that templates may use adds its calls. The remaining ones
    are statements that templates may not use, and by the tally none of them
    comes up. -/
theorem reads_statement_calls (hinner : inner.Counts name) :
    Reads (fun words => CallTally name true whole read (.tagStart :: words)) inner.statement
      fun stmt => CallTally name true whole (read ++ stmt.calls) := by
  have hskip {word : String} (hword : word ∈ languageWords) (words : List Token)
      (htally : CallTally name true whole read (.tagStart :: .name word :: words)) :
      CallTally name true whole read words :=
    (htally.skip (.of_isMute rfl)).skip (.of_word hname hword)
  refine reads_take_bind fun token => ?_
  cases token with
  | name word =>
    dsimp only
    split
    · exact (counts_forLoop hname hinner whole read).weaken (hskip (by decide))
    · exact (counts_conditional hname hinner whole read).weaken (hskip (by decide))
    · exact (counts_assignment hname hinner whole read).weaken (hskip (by decide))
    · refine (reads_filterBlock_calls hname hinner).weaken fun words htally => ?_
      exact ⟨hskip (by decide) words htally, htally.clear.not_isCalled_of_block⟩
    case h_15 => exact reads_fail
    all_goals
      refine reads_absurd fun words htally => ?_
      exact absurd (htally.supported _ ⟨[], words, rfl⟩) (by decide)
  | _ => exact reads_fail

end Inner

/-- By induction on the levels of nesting, templates of any depth are read with
    exactly the calls that they show. -/
theorem counts_innerWithin {name : String} (hname : name ∉ languageWords) (levels : Nat) :
    (innerWithin levels).Counts name := by
  induction levels with
  | zero => exact ⟨⟨CountsExpr.of_fail, fun _ _ => reads_fail⟩, fun _ _ => reads_fail⟩
  | succ levels ih =>
    exact ⟨⟨Nested.counts_conditional hname ih.nested,
      fun _ _ => Nested.reads_innermost_calls hname ih.nested⟩,
      fun _ _ => Inner.reads_statement_calls hname ih⟩

/-- A template calls a name exactly if its tokens show this, where the name is
    clear among them. -/
theorem mem_calls_of_parse {name : String} (hname : name ∉ languageWords) {source : List Char}
    {template : List Stmt} (hparse : parse source = .ok template)
    (hclear : IsClear name ((tokensOf source).tokens.map (·.value)))
    (hsupported : AreSupported ((tokensOf source).tokens.map (·.value))) :
    name ∈ callsOfBody template ↔
      ShowsCall name true ((tokensOf source).tokens.map (·.value)) := by
  unfold parse Parser.run at hparse
  split at hparse
  · next result rest hrun =>
    cases hparse
    have hstart : CallTally name true
        (ShowsCall name true ((tokensOf source).tokens.map (·.value))) []
        ((tokensOf source).tokens.map (·.value)) :=
      ⟨by simp, hclear, hsupported⟩
    obtain ⟨-, hread⟩ | ⟨⟨_, hmem, -⟩, -⟩ := Inner.reads_bodyUntil_calls
      (counts_innerWithin hname maxDepth) [] _ _ _ hrun hstart
    · exact hread.symm
    · cases hmem
  · cases hparse

end PromptPacks.Template
