import PromptPacks.Proofs.Template.ExprFeatures

namespace PromptPacks.Template

open PromptPacks.Template.Parser

/-- Readers for what stands inside a statement that use what their tokens show.
    The word that a statement begins with comes after the start of its tag. -/
structure Inner.Shows (inner : Inner) : Prop where
  nested : inner.toNested.Shows
  stmt : ∀ whole read, Reads (fun words => Tally whole read (.tagStart :: words)) inner.stmt
    fun stmt => Tally whole (read ++ stmt.features)

/-- The end of a body: the end of the template, or a tag with one of the given
    words. -/
def StopTally (stops : List String) (whole read : List Feature) (words : List Token) : Prop :=
  (words = [] ∧ whole = read) ∨
    (∃ word ∈ stops, words.head? = some (.name word)) ∧ Tally whole read (.tagStart :: words)

section

variable {stops : List String} {whole read : List Feature} {words : List Token}

/-- At the end of a template a body ends without a tag of its own, so everything
    has been read. -/
theorem StopTally.nil (htally : StopTally stops whole read []) : Tally whole read [] := by
  obtain ⟨-, hread⟩ | ⟨⟨word, -, hhead⟩, -⟩ := htally
  · rw [Tally, hread, shownIn, List.append_nil]
  · cases hhead

/-- Where tokens are left, a body ends with a tag of one of its words. -/
theorem StopTally.cons {token : Token} (hstop : StopTally stops whole read (token :: words)) :
    ∃ word ∈ stops, token = .name word ∧ Tally whole read (.tagStart :: .name word :: words) := by
  obtain ⟨hempty, -⟩ | ⟨⟨word, hword, hhead⟩, htally⟩ := hstop
  · cases hempty
  · rw [List.head?_cons, Option.some.injEq] at hhead
    exact ⟨word, hword, hhead, hhead ▸ htally⟩

/-- A word that ends a body uses nothing by itself. -/
theorem StopTally.of_name {word : String} (hclosing : word ∈ closingWords)
    (hstop : StopTally stops whole read (.name word :: words)) : Tally whole read words := by
  obtain ⟨_, -, hword, htally⟩ := hstop.cons
  cases hword
  exact htally.of_closing hclosing

/-- The word for a further branch ends a body and uses a condition of its own. -/
theorem StopTally.of_elif (hstop : StopTally stops whole read (.name "elif" :: words)) :
    Tally whole (read ++ [.statement "if"]) words := by
  obtain ⟨_, -, hword, htally⟩ := hstop.cons
  cases hword
  exact Tally.of_elif htally

/-- The word that ends a body is passed, or the end of the template. Both
    readers go on alike. -/
theorem reads_stop_next_bind {α : Type} (hstops : ∀ word ∈ stops, word ∈ closingWords)
    {second : Option Token → Parser α} {after : α → List Token → Prop}
    (hsecond : ∀ found, Reads (Tally whole read) (second found) after) :
    Reads (StopTally stops whole read) (next >>= second) after := by
  refine reads_next_bind ?_ fun token => ?_
  · refine (hsecond none).weaken ?_
    rintro words ⟨htally, rfl⟩
    exact htally.nil
  · refine (hsecond (some token)).weaken fun words hstop => ?_
    obtain ⟨word, hword, -, htally⟩ := hstop.cons
    exact htally.of_closing (hstops word hword)

end

/-- A name that gets a value uses nothing. -/
theorem silent_targetName : Silent targetName := by
  intro whole read
  refine tally_expectName_bind fun name => ?_
  exact reads_ite (fun _ => reads_fail) fun _ => reads_pure fun _ => id

/-- A property that gets a value uses nothing. -/
theorem silent_propertyTarget : Silent propertyTarget := by
  intro whole read
  refine silent_targetName.bind fun name => ?_
  refine reads_loop (fun _ => Tally whole read) (fun target => ?_) (Target.variable name)
  exact tally_skip_ite rfl (tally_expectName_bind fun _ => reads_pure fun _ => id)
    (reads_pure fun _ => id)

/-- Several names between parentheses use nothing if each of them does not. -/
theorem silent_targetsOf {item : Parser Target} (hitem : Silent item) :
    Silent (targetsOf item) := by
  intro whole read
  refine reads_loop (fun _ => Tally whole read) (fun earlier => tally_expect_ite rfl ?_) []
  refine reads_peek_bind fun token => Reads.weaken ?_ fun _ => And.left
  refine reads_ite (fun _ => reads_pure fun _ => id) fun _ => hitem.bind fun target => ?_
  exact tally_isNext_ite (reads_pure fun _ => id) (reads_pure fun _ => id)

/-- The names that a loop binds use nothing. -/
theorem silent_loopTarget : Silent loopTarget := by
  have hwithin (bound : Nat) : Silent (targetWithin bound) := by
    induction bound with
    | zero => exact fun _ _ => reads_fail
    | succ bound ih =>
      refine silent_targetsOf fun whole read => tally_skip_ite rfl ?_ ?_
      · exact ih.bind fun target => tally_expect_bind rfl (reads_pure fun _ => id)
      · exact reads_map (silent_targetName whole read) fun _ _ => id
  intro whole read
  exact reads_get_bind fun cursor => hwithin _ whole read

namespace Inner

variable {inner : Inner}

/-- A body adds what its pieces use, and the end of the body belongs to what is
    around. A text, an output and a statement are the three kinds of pieces. -/
theorem reads_bodyUntil (hinner : inner.Shows) (stops : List String) {whole read : List Feature} :
    Reads (Tally whole read) (inner.bodyUntil stops)
      fun body => StopTally stops whole (read ++ featuresOfBody body) := by
  refine Reads.weaken (reads_pieces
    (fun earlier => Tally whole (read ++ featuresOfBody earlier.reverse))
    (fun earlier htally => .inl ⟨rfl, ?_⟩)
    (fun earlier word hword words htally => .inr ⟨⟨word, hword, rfl⟩, htally⟩)
    (fun earlier content words htally => ?_) (fun earlier => ?_) (fun _ _ => Tally.skip rfl)
    (fun earlier => ?_) (fun _ _ => Tally.skip rfl)) fun words htally => ?_
  · simpa [Tally, shownIn] using htally
  · simpa [featuresOfBody_eq_flatMap, Stmt.features] using htally.skip rfl
  · refine ((hinner.nested.expr whole _).imp fun value words htally => ?_).weaken fun words =>
      Tally.skip rfl
    simpa [featuresOfBody_eq_flatMap, Stmt.features] using htally
  · refine (hinner.stmt whole _).imp fun stmt words htally => ?_
    simpa [featuresOfBody_eq_flatMap] using htally
  · simpa [featuresOfBody] using htally

/-- A body that is read with the tag behind it adds nothing for the tag. -/
theorem shows_bodyThrough (hinner : inner.Shows) {stop : String} (hstop : stop ∈ closingWords) :
    Parser.Shows (inner.bodyThrough stop) featuresOfBody := by
  intro whole read
  refine tally_expect_bind rfl (reads_bind (reads_bodyUntil hinner [stop]) fun body => ?_)
  exact reads_stop_next_bind (by simpa using hstop) fun _ => tally_pure rfl

/-- A reader for the rest of a statement, of which the first word has been
    read. -/
def Completes (keyword : String) (parser : Parser Stmt) : Prop :=
  ∀ whole read, Reads (Tally whole (read ++ [.statement keyword])) parser
    fun stmt => Tally whole (read ++ stmt.features)

/-- A loop uses what its parts use, in the order in which they are written. -/
theorem completes_forLoop (hinner : inner.Shows) : Completes "for" inner.forLoop := by
  intro whole read
  refine silent_loopTarget.bind fun target => tally_expectWord_bind ?_
  refine (Nested.shows_unconditional hinner.nested).bind fun source => ?_
  refine tally_default_bind rfl hinner.nested.expr.some rfl fun condition => ?_
  refine (silent_skip rfl).bind fun recursive => tally_expect_bind rfl ?_
  refine reads_bind (reads_bodyUntil hinner _) fun body => reads_skip_ite ?_ ?_
  · refine Reads.weaken ?_ fun words => StopTally.of_name (by decide)
    refine (shows_bodyThrough hinner (by decide)).bind fun otherwise => tally_pure ?_
    simp [Stmt.features]
  · refine Reads.weaken (reads_stop_next_bind ?_ fun _ => tally_pure ?_) fun words => And.left
    · decide
    · simp [Stmt.features, featuresOfBody]

/-- What the branches of a condition use that another branch comes after. -/
def featuresOfBranches (earlier : List (Expr × List Stmt)) : List Feature :=
  earlier.reverse.flatMap fun branch =>
    .statement "if" :: (branch.1.features ++ featuresOfBody branch.2)

/-- A branch stands behind all earlier ones, because they are collected in
    reverse. -/
theorem featuresOfBranches_cons (test : Expr) (body : List Stmt)
    (earlier : List (Expr × List Stmt)) :
    featuresOfBranches ((test, body) :: earlier) =
      featuresOfBranches earlier ++ [.statement "if"] ++ test.features ++ featuresOfBody body := by
  simp [featuresOfBranches]

/-- Each branch goes into the other case of the one before it. -/
theorem features_foldl_conditional (earlier : List (Expr × List Stmt)) (stmt : Stmt) :
    (earlier.foldl (fun stmt (test, body) => .conditional test body [stmt]) stmt).features =
      featuresOfBranches earlier ++ stmt.features := by
  induction earlier generalizing stmt with
  | nil => rfl
  | cons branch earlier ih =>
    rw [List.foldl_cons, ih, featuresOfBranches_cons]
    simp [Stmt.features, featuresOfBody]

/-- A condition is read branch by branch. After one branch comes the other case,
    a further branch or the end. -/
theorem reads_branches (hinner : inner.Shows) (earlier : List (Expr × List Stmt))
    {whole read : List Feature} :
    Reads (Tally whole (read ++ featuresOfBranches earlier ++ [.statement "if"]))
      (inner.branches earlier)
      (Progress.Meets
        (fun earlier => Tally whole (read ++ featuresOfBranches earlier ++ [.statement "if"]))
        fun result => Tally whole
          (read ++ featuresOfBranches result.1 ++ featuresOfBody result.2)) := by
  refine (Nested.shows_unconditional hinner.nested).bind fun test => tally_expect_bind rfl ?_
  refine reads_bind (reads_bodyUntil hinner _) fun body => ?_
  have hdone {otherwise : List Stmt} {words : List Token}
      (htally : Tally whole (read ++ featuresOfBranches earlier ++ [.statement "if"] ++
        test.features ++ featuresOfBody body ++ featuresOfBody otherwise) words) :
      Tally whole (read ++ featuresOfBranches ((test, body) :: earlier) ++
        featuresOfBody otherwise) words := by
    simpa [featuresOfBranches_cons] using htally
  refine reads_next_bind (reads_pure ?_) fun token => ?_
  · rintro words ⟨hstop, rfl⟩
    exact hdone (by simpa [featuresOfBody] using hstop.nil)
  split
  · next hfound =>
    cases hfound
    refine Reads.weaken ?_ fun words => StopTally.of_name (by decide)
    refine (shows_bodyThrough hinner (by decide)).bind fun otherwise => ?_
    exact reads_pure fun words => hdone
  · next hfound =>
    cases hfound
    refine reads_pure fun words hstop => ?_
    simpa [Progress.Meets, featuresOfBranches_cons] using hstop.of_elif
  · next hnotElse hnotElif =>
    refine reads_pure fun words hstop => hdone ?_
    obtain ⟨word, hword, rfl, htally⟩ := hstop.cons
    have hclosing : word ∈ closingWords := by
      simp only [List.mem_cons, List.not_mem_nil, or_false] at hword
      obtain rfl | rfl | rfl := hword
      · decide
      · decide
      · exact absurd rfl hnotElif
    simpa [featuresOfBody] using htally.of_closing hclosing

/-- A condition uses one statement for each of its branches, since a further
    branch becomes a condition within the other case. -/
theorem completes_conditional (hinner : inner.Shows) : Completes "if" inner.conditional := by
  intro whole read
  refine Reads.weaken (reads_loop_bind
    (fun earlier => Tally whole (read ++ featuresOfBranches earlier ++ [.statement "if"]))
    (fun result => Tally whole (read ++ featuresOfBranches result.1 ++ featuresOfBody result.2))
    (fun earlier => reads_branches hinner earlier) ?_) fun words htally => ?_
  · rintro ⟨reversed, otherwise⟩
    cases reversed with
    | nil => exact reads_fail
    | cons branch earlier =>
      refine tally_pure ?_
      simp [features_foldl_conditional, featuresOfBranches, Stmt.features]
  · simpa [featuresOfBranches] using htally

/-- Between the filters of a chain. Before the first one its name comes next. -/
def ChainTally (whole read : List Feature) : Option Expr → List Token → Prop
  | none => FilterTally whole read
  | some filter => Tally whole (read ++ filter.features)

/-- A chain of filters uses all of them. The first one follows a word of the
    language and no bar. -/
theorem reads_filterChain (hinner : inner.Shows) {whole read : List Feature} :
    Reads (FilterTally whole read) inner.filterChain
      fun filter => Tally whole (read ++ filter.features) := by
  have harguments := Nested.shows_optionalArguments hinner.nested
    (Nested.shows_unconditional hinner.nested)
  have hstep (chain : Option Expr) (name : String) :
      Reads (Tally whole (read ++ featuresOfOption chain ++ [.filter name]))
        (inner.optionalArguments inner.unconditional >>= fun arguments =>
          pure (.again (some (Expr.filter chain name arguments))))
        (Progress.Meets (ChainTally whole read) (ChainTally whole read)) := by
    refine harguments.bind fun arguments => reads_pure fun words htally => ?_
    simpa [Progress.Meets, ChainTally, Expr.features] using htally
  refine reads_loop_bind (ChainTally whole read) (ChainTally whole read) (fun chain => ?_)
    fun chain => ?_
  · refine reads_isNext_ite (reads_pure fun words => And.left) ?_
    refine Reads.weaken ?_ fun words => And.left
    cases chain with
    | none =>
      refine reads_bind Nested.reads_dottedName fun name => ?_
      simpa [featuresOfOption] using hstep none name
    | some filter =>
      refine reads_expect_bind (Reads.weaken (reads_bind Nested.reads_dottedName fun name => ?_)
        fun words => Tally.of_pipe)
      exact hstep (some filter) name
  · cases chain with
    | none => exact reads_fail
    | some filter => exact reads_pure fun _ => id

/-- A value that is assigned uses what it shows, also where it is a list without
    brackets. -/
theorem shows_assignedValue (hinner : inner.Shows) :
    Parser.Shows inner.assignedValue Expr.features := by
  intro whole read
  refine hinner.nested.expr.bind fun first => tally_isNext_ite ?_ (tally_pure rfl)
  rw [map_eq_pure_bind]
  refine Reads.weaken (reads_loop_bind
    (fun items => Tally whole (read ++ featuresOfItems items.reverse))
    (fun items => Tally whole (read ++ featuresOfItems items)) (fun items => ?_) fun items => ?_)
    fun words htally => ?_
  · refine tally_skip_ite rfl ?_ (reads_pure fun _ => id)
    refine tally_isNext_ite (reads_pure fun _ => id) (hinner.nested.expr.bind fun item => ?_)
    refine reads_pure fun words htally => ?_
    simpa [Progress.Meets, featuresOfItems_eq_flatMap] using htally
  · exact tally_pure (by rw [Expr.features])
  · simpa [featuresOfItems] using htally

/-- What is assigned to uses nothing. -/
theorem silent_assignedTarget : Silent assignedTarget := by
  intro whole read
  refine silent_propertyTarget.bind fun first => tally_isNext_ite ?_ (reads_pure fun _ => id)
  rw [map_eq_pure_bind]
  refine reads_loop_bind (fun _ => Tally whole read) (fun _ => Tally whole read) (fun items => ?_)
    fun items => reads_pure fun _ => id
  refine tally_skip_ite rfl ?_ (reads_pure fun _ => id)
  refine tally_isNext_ite (reads_pure fun _ => id) ?_
  exact silent_propertyTarget.bind fun _ => reads_pure fun _ => id

/-- An assignment uses what its value, its filters or its body use. -/
theorem completes_assignTo (hinner : inner.Shows) (target : Target) :
    Completes "set" (inner.assignTo target) := by
  intro whole read
  refine tally_expect_bind rfl ((shows_assignedValue hinner).bind fun value => tally_pure ?_)
  simp [Stmt.features]

/-- An assignment uses what stands on its right side. -/
theorem completes_assignment (hinner : inner.Shows) : Completes "set" inner.assignment := by
  intro whole read
  refine tally_skip_ite rfl ?_ (silent_assignedTarget.bind fun target => tally_isNext_ite ?_ ?_)
  · refine silent_loopTarget.bind fun target => tally_expect_bind rfl ?_
    exact completes_assignTo hinner target whole read
  · refine (shows_bodyThrough hinner (by decide)).bind fun body => tally_pure ?_
    simp [Stmt.features, featuresOfOption]
  · refine reads_skip_ite ?_ ?_
    · refine Reads.weaken (reads_bind (reads_filterChain hinner) fun filter => ?_)
        fun words => Tally.of_pipe
      refine (shows_bodyThrough hinner (by decide)).bind fun body => tally_pure ?_
      simp [Stmt.features, featuresOfOption]
    · exact (completes_assignTo hinner target whole read).weaken fun words => And.left

/-- A filter block uses its filters and what its body uses. Its first filter is
    why this statement is treated apart from all others. -/
theorem reads_filterBlock (hinner : inner.Shows) {whole read : List Feature} :
    Reads (FilterTally whole (read ++ [.statement "filter"])) inner.filterBlock
      fun stmt => Tally whole (read ++ stmt.features) := by
  refine reads_bind (reads_filterChain hinner) fun filter => ?_
  refine (shows_bodyThrough hinner (by decide)).bind fun body => tally_pure ?_
  simp [Stmt.features]

/-- A block with assignments uses what their values and its body use. -/
theorem completes_scopedBlock (hinner : inner.Shows) : Completes "with" inner.scopedBlock := by
  intro whole read
  refine Reads.weaken (reads_loop_bind
    (fun earlier =>
      Tally whole (read ++ [.statement "with"] ++ featuresOfAssignments earlier.reverse))
    (fun assignments =>
      Tally whole (read ++ [.statement "with"] ++ featuresOfAssignments assignments))
    (fun earlier => ?_) fun assignments => ?_) fun words htally => ?_
  · refine tally_isNext_ite (reads_pure fun _ => id) (tally_expect_ite rfl ?_)
    refine tally_skip_join rfl (silent_targetName.map _) (fun target => ?_) fun hassigned => ?_
    · refine tally_expect_bind rfl (hinner.nested.expr.bind fun value => ?_)
      refine reads_pure fun words htally => ?_
      simpa [Progress.Meets, featuresOfAssignments] using htally
    · refine silent_loopTarget.bind fun target => tally_expect_bind rfl ?_
      exact reads_pure_bind (hassigned target)
  · refine (shows_bodyThrough hinner (by decide)).bind fun body => tally_pure ?_
    simp [Stmt.features]
  · simpa [featuresOfAssignments] using htally

theorem completes_autoescapeBlock (hinner : inner.Shows) :
    Completes "autoescape" inner.autoescapeBlock := by
  intro whole read
  refine hinner.nested.expr.bind fun enabled => ?_
  refine (shows_bodyThrough hinner (by decide)).bind fun body => tally_pure ?_
  simp [Stmt.features]

/-- The name of a block may be repeated at its end, where it uses nothing. -/
theorem silent_blockEnd (name : String) : Silent (blockEnd name) := by
  intro whole read
  refine reads_peek_bind fun token => ?_
  split
  · next found =>
    refine reads_ite (fun _ => ?_) fun _ => reads_fail
    exact tally_next_bind rfl (reads_pure fun _ => id)
  · exact reads_pure fun _ => And.left

theorem completes_namedBlock (hinner : inner.Shows) : Completes "block" inner.namedBlock := by
  intro whole read
  refine reads_get_bind fun cursor => reads_ite (fun _ => reads_fail) fun _ => ?_
  refine tally_expectName_bind fun name => reads_get_bind fun cursor => ?_
  refine reads_ite (fun _ => reads_fail) fun _ => ?_
  refine reads_modify_bind ?_ ((shows_bodyThrough hinner (by decide)).bind fun body => ?_)
  · exact fun cursor => rfl
  exact (silent_blockEnd name).bind fun _ => tally_pure (by simp [Stmt.features])

theorem silent_contextWords : Silent contextWords := by
  intro whole read
  refine (silent_skip rfl).bind fun without => ?_
  have hrest (found : Bool) : Reads (Tally whole read)
      (if found = true then expectWord "context" else pure ()) fun _ => Tally whole read := by
    refine reads_ite (fun _ => ?_) fun _ => reads_pure fun _ => id
    rw [← bind_pure (expectWord "context")]
    exact tally_expectWord_bind (reads_pure fun _ => id)
  refine reads_ite (fun _ => reads_pure_bind (hrest true)) fun _ => ?_
  exact (silent_skip rfl).bind hrest

theorem completes_inclusion (hinner : inner.Shows) : Completes "include" inner.inclusion := by
  intro whole read
  refine hinner.nested.expr.bind fun source => silent_contextWords.bind fun _ => ?_
  refine tally_skip_ite rfl ?_ (tally_pure (by simp [Stmt.features]))
  refine tally_expectWord_bind (silent_contextWords.bind fun _ => tally_pure ?_)
  simp [Stmt.features]

theorem completes_importing (hinner : inner.Shows) : Completes "import" inner.importing := by
  intro whole read
  refine hinner.nested.expr.bind fun source => tally_expectWord_bind ?_
  exact hinner.nested.expr.bind fun target => tally_pure (by simp [Stmt.features])

theorem completes_importingFrom (hinner : inner.Shows) : Completes "from" inner.importingFrom := by
  intro whole read
  refine hinner.nested.expr.bind fun source => tally_expectWord_bind ?_
  refine reads_loop_bind (fun _ => Tally whole (read ++ [.statement "from"] ++ source.features))
    (fun _ => Tally whole (read ++ [.statement "from"] ++ source.features)) (fun earlier => ?_)
    fun names => ?_
  · refine tally_isNext_ite (reads_pure fun _ => id) (tally_expect_ite rfl ?_)
    refine tally_isNext_ite (reads_pure fun _ => id) (silent_targetName.bind fun name => ?_)
    refine tally_skip_join rfl Silent.pure (fun renamed => reads_pure fun _ => id) fun hrest => ?_
    exact (silent_targetName.map _).bind hrest
  · exact tally_pure (by simp [Stmt.features])

/-- The parameters of a macro use what their defaults use. Parameters without a
    default come first and use nothing. -/
theorem shows_parameters (hinner : inner.Shows) :
    Parser.Shows inner.parameters fun parameters => featuresOfItems parameters.2 := by
  intro whole read
  refine Reads.weaken (reads_loop
    (fun state => Tally whole (read ++ featuresOfItems state.2.reverse)) ?_ ([], []))
    fun words htally => ?_
  · rintro ⟨names, defaults⟩
    refine tally_skip_ite rfl (reads_pure fun _ => id) (reads_ite_join ?_ fun hname => ?_)
    · refine silent_targetName.bind fun name => tally_skip_ite rfl ?_ ?_
      · refine hinner.nested.expr.bind fun value => reads_pure fun words htally => ?_
        simpa [Progress.Meets, featuresOfItems_eq_flatMap] using htally
      · exact tally_expect_ite rfl (reads_pure fun _ => id)
    · exact tally_expect_bind rfl (tally_skip_ite rfl (reads_pure fun _ => id) hname)
  · simpa [featuresOfItems] using htally

/-- The body of a macro uses what its pieces use. -/
theorem shows_procedureBody (hinner : inner.Shows) {stop : String} (hstop : stop ∈ closingWords) :
    Parser.Shows (inner.procedureBody stop) featuresOfBody := by
  intro whole read
  refine tally_expect_bind rfl (reads_get_bind fun cursor => ?_)
  refine reads_modify_bind ?_ (reads_bind (reads_bodyUntil hinner [stop]) fun body => ?_)
  · exact fun cursor => rfl
  refine reads_modify_bind ?_ (reads_stop_next_bind ?_ fun _ => tally_pure rfl)
  · exact fun cursor => rfl
  · simpa using hstop

theorem completes_procedure (hinner : inner.Shows) : Completes "macro" inner.procedure := by
  intro whole read
  refine tally_expectName_bind fun name => tally_expect_bind rfl ?_
  refine (shows_parameters hinner).bind fun (names, defaults) => ?_
  refine (shows_procedureBody hinner (by decide)).bind fun body => tally_pure ?_
  simp [Stmt.features]

/-- The call of a call block uses what its callee and its arguments use. -/
theorem shows_callExpr (hinner : inner.Shows) : Parser.Shows inner.callExpr Expr.features := by
  intro whole read
  refine hinner.nested.expr.bind fun value => ?_
  cases value with
  | call callee arguments => exact tally_pure rfl
  | _ => exact reads_fail

theorem completes_callBlock (hinner : inner.Shows) : Completes "call" inner.callBlock := by
  intro whole read
  refine tally_default_bind rfl (shows_parameters hinner) rfl fun (names, defaults) => ?_
  refine (shows_callExpr hinner).bind fun call => ?_
  refine (shows_procedureBody hinner (by decide)).bind fun body => tally_pure ?_
  simp [Stmt.features]

/-- A statement whose word comes next uses the word and what the rest of the
    statement uses. -/
theorem Completes.reads {keyword : String} {parser : Parser Stmt}
    (hcompletes : Completes keyword parser) (hkeyword : keyword ∈ openingWords)
    {whole read : List Feature} :
    Reads (fun words => Tally whole read (.tagStart :: .name keyword :: words)) parser
      fun stmt => Tally whole (read ++ stmt.features) :=
  (hcompletes whole read).weaken fun _ => Tally.of_opening hkeyword

/-- Every statement uses what it shows. The cases are those of its first word,
    and each is settled by the reader for the rest of the statement. -/
theorem reads_statement (hinner : inner.Shows) {whole read : List Feature} :
    Reads (fun words => Tally whole read (.tagStart :: words)) inner.statement
      fun stmt => Tally whole (read ++ stmt.features) := by
  have hextends : Completes "extends" (.extending <$> inner.expr) := fun whole read =>
    reads_map (hinner.nested.expr whole _) fun parent words htally => by
      simpa [Stmt.features] using htally
  have hdo : Completes "do" (.perform <$> inner.callExpr) := fun whole read =>
    reads_map (shows_callExpr hinner whole _) fun call words htally => by
      simpa [Stmt.features] using htally
  refine reads_take_bind fun token => ?_
  cases token with
  | name word =>
    dsimp only
    split
    · exact (completes_forLoop hinner).reads (by decide)
    · exact (completes_conditional hinner).reads (by decide)
    · exact (completes_assignment hinner).reads (by decide)
    · exact (reads_filterBlock hinner).weaken fun words => Tally.of_filter
    · exact (completes_scopedBlock hinner).reads (by decide)
    · exact (completes_autoescapeBlock hinner).reads (by decide)
    · exact (completes_namedBlock hinner).reads (by decide)
    · exact hextends.reads (by decide)
    · exact (completes_inclusion hinner).reads (by decide)
    · exact (completes_importing hinner).reads (by decide)
    · exact (completes_importingFrom hinner).reads (by decide)
    · exact (completes_procedure hinner).reads (by decide)
    · exact (completes_callBlock hinner).reads (by decide)
    · exact hdo.reads (by decide)
    · exact reads_fail
  | _ => exact reads_fail

end Inner

/-- By induction on the levels of nesting, templates of any depth use exactly
    what their tokens show. -/
theorem shows_innerWithin (levels : Nat) : (innerWithin levels).Shows := by
  induction levels with
  | zero => exact ⟨⟨Shows.of_fail, Shows.of_fail⟩, fun _ _ => reads_fail⟩
  | succ levels ih =>
    exact ⟨⟨Nested.shows_conditional ih.nested, Nested.shows_innermost ih.nested⟩,
      fun _ _ => Inner.reads_statement ih⟩

/-- A template uses exactly what its tokens show: no filter and no statement
    that is read gets lost, and none is added. -/
theorem features_of_parse {source : List Char} {template : List Stmt}
    (hparse : parse source = .ok template) :
    featuresOfBody template = shownIn ((tokensOf source).tokens.map (·.value)) := by
  unfold parse Parser.run at hparse
  split at hparse
  · next result rest hrun =>
    cases hparse
    have hstart : Tally (shownIn ((tokensOf source).tokens.map (·.value))) []
        ((tokensOf source).tokens.map (·.value)) := rfl
    obtain ⟨-, hread⟩ | ⟨⟨_, hmem, -⟩, -⟩ :=
      Inner.reads_bodyUntil (shows_innerWithin maxDepth) [] _ _ _ hrun hstart
    · exact hread.symm
    · cases hmem
  · cases hparse

end PromptPacks.Template
