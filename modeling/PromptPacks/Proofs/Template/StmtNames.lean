import PromptPacks.Proofs.Template.ExprNames
import PromptPacks.Proofs.Text.Word
import PromptPacks.Template.Check

namespace PromptPacks.Template

open PromptPacks.Template.Parser PromptPacks.Text

variable {p : String → Prop}

/-- Whether all names that a statement reads and that need not be known satisfy
    a condition. -/
def Stmt.HaveNames (p : String → Prop) (stmt : Stmt) : Prop :=
  ∀ known, ∀ name ∈ stmt.freeNames known, p name

def BodyNames (p : String → Prop) (body : List Stmt) : Prop :=
  ∀ known, ∀ name ∈ freeInBody known body, p name

/-- A body reads what its statements read. What one of them binds only takes
    names away for those behind it. -/
theorem bodyNames_of_forall {body : List Stmt} (hbody : ∀ stmt ∈ body, stmt.HaveNames p) :
    BodyNames p body := by
  induction body with
  | nil => simp [BodyNames, freeInBody]
  | cons stmt rest ih =>
    rw [List.forall_mem_cons] at hbody
    intro known
    rw [freeInBody, List.forall_mem_append]
    exact ⟨hbody.1 known, ih hbody.2 _⟩

/-- An empty body reads nothing. -/
theorem bodyNames_nil : BodyNames p [] :=
  bodyNames_of_forall nofun

/-- What is bound around an expression only takes names away from those it
    reads. -/
theorem Expr.HaveNames.filter {value : Expr} (hvalue : value.HaveNames p)
    (isFree : String → Bool) : ∀ name ∈ value.names.filter isFree, p name :=
  fun name hmem => hvalue name (List.mem_filter.1 hmem |>.1)

/-- The names that assignments read are read by their values, whatever is bound
    on the way. -/
theorem forall_freeInAssignments {assignments : List (Target × Expr)}
    (hassignments : ∀ assignment ∈ assignments, assignment.2.HaveNames p) (known : List String) :
    ∀ name ∈ freeInAssignments known assignments, p name := by
  induction assignments generalizing known with
  | nil => simp [freeInAssignments]
  | cons assignment rest ih =>
    rw [List.forall_mem_cons] at hassignments
    rw [freeInAssignments, List.forall_mem_append]
    exact ⟨hassignments.1.filter _, ih hassignments.2 _⟩

section

variable {value : Expr} {body otherwise : List Stmt} {target : Target}

/-- A loop reads what it goes over, its condition and its bodies. -/
theorem haveNames_forLoop (hvalue : value.HaveNames p) {condition : Option Expr}
    (hcondition : OptionNames p condition) (recursive : Bool) (hbody : BodyNames p body)
    (hotherwise : BodyNames p otherwise) :
    (Stmt.forLoop target value condition recursive body otherwise).HaveNames p := by
  intro known
  simp only [Stmt.freeNames, List.forall_mem_append]
  refine ⟨⟨⟨hvalue.filter _, fun name hmem => ?_⟩, hbody _⟩, hotherwise _⟩
  exact forall_namesOfOption.2 hcondition name (List.mem_filter.1 hmem |>.1)

/-- A condition reads its test and both of its bodies. -/
theorem haveNames_conditional (hvalue : value.HaveNames p) (hbody : BodyNames p body)
    (hotherwise : BodyNames p otherwise) :
    (Stmt.conditional value body otherwise).HaveNames p := by
  intro known
  simp only [Stmt.freeNames, List.forall_mem_append]
  exact ⟨⟨hvalue.filter _, hbody _⟩, hotherwise _⟩

/-- A condition with several branches reads what its branches read. -/
theorem haveNames_foldl_conditional {earlier : List (Expr × List Stmt)}
    (hearlier : ∀ branch ∈ earlier, branch.1.HaveNames p ∧ BodyNames p branch.2) {stmt : Stmt}
    (hstmt : stmt.HaveNames p) :
    (earlier.foldl (fun stmt (test, body) => .conditional test body [stmt]) stmt).HaveNames p := by
  induction earlier generalizing stmt with
  | nil => exact hstmt
  | cons branch earlier ih =>
    rw [List.forall_mem_cons] at hearlier
    refine ih hearlier.2 (haveNames_conditional hearlier.1.1 hearlier.1.2 ?_)
    exact bodyNames_of_forall (List.forall_mem_singleton.2 hstmt)

/-- A block with assignments reads their values and its body. -/
theorem haveNames_scoped {assignments : List (Target × Expr)}
    (hassignments : ∀ assignment ∈ assignments, assignment.2.HaveNames p)
    (hbody : BodyNames p body) : (Stmt.scoped assignments body).HaveNames p := by
  intro known
  rw [Stmt.freeNames, List.forall_mem_append]
  exact ⟨forall_freeInAssignments hassignments known, hbody _⟩

/-- A macro reads the defaults of its parameters and its body. -/
theorem haveNames_procedure (name : String) (parameters : List String) {defaults : List Expr}
    (hdefaults : ∀ value ∈ defaults, value.HaveNames p) (hbody : BodyNames p body) :
    (Stmt.procedure name parameters defaults body).HaveNames p := by
  intro known
  simp only [Stmt.freeNames, List.forall_mem_append]
  refine ⟨fun name hmem => ?_, hbody _⟩
  exact forall_namesOfItems.2 hdefaults name (List.mem_filter.1 hmem |>.1)

/-- A call block reads what a macro reads, and the call. -/
theorem haveNames_callBlock (parameters : List String) {defaults : List Expr}
    (hdefaults : ∀ value ∈ defaults, value.HaveNames p) (hvalue : value.HaveNames p)
    (hbody : BodyNames p body) :
    (Stmt.callBlock parameters defaults value body).HaveNames p := by
  intro known
  simp only [Stmt.freeNames, List.forall_mem_append]
  refine ⟨⟨hvalue.filter _, fun name hmem => ?_⟩, hbody _⟩
  exact forall_namesOfItems.2 hdefaults name (List.mem_filter.1 hmem |>.1)

end

theorem yields_targetName : Parser.Yields p targetName fun _ => True :=
  yields_expectName.bind fun _ _ => yields_ite yields_fail (yields_pure trivial)

theorem yields_variable : Parser.Yields p (.variable <$> targetName) fun _ : Target => True :=
  yields_targetName.map fun _ => id

theorem yields_propertyTarget : Parser.Yields p propertyTarget fun _ => True := by
  refine yields_targetName.bind fun name _ => ?_
  refine yields_loop (fun _ => True) (fun target _ => ?_) trivial
  refine (yields_skip _).bind fun _ _ => yields_ite ?_ (yields_pure trivial)
  exact yields_expectName.bind fun _ _ => yields_pure trivial

theorem yields_targetsOf {item : Parser Target} (hitem : Parser.Yields p item fun _ => True) :
    Parser.Yields p (targetsOf item) fun _ => True := by
  refine yields_loop (fun _ => True) (fun earlier _ => ?_) trivial
  have hrest : Parser.Yields p (do
      if ((← peek).map endsTargets).getD false then return .done (.tuple earlier.reverse)
      let target ← item
      if ← isNext (.symbol .comma) then return .again (target :: earlier)
      return .done (if earlier.isEmpty then target else .tuple (target :: earlier).reverse))
      (Progress.Holds (fun _ : List Target => True) fun _ : Target => True) := by
    refine yields_peek.bind fun token _ => yields_ite (yields_pure trivial) ?_
    refine hitem.bind fun target _ => (yields_isNext _).bind fun _ _ => ?_
    exact yields_ite (yields_pure trivial) (yields_pure trivial)
  exact yields_ite ((yields_expect _).bind fun _ _ => hrest) hrest

theorem yields_loopTarget : Parser.Yields p loopTarget fun _ => True := by
  have hwithin (bound : Nat) : Parser.Yields p (targetWithin bound) fun _ => True := by
    induction bound with
    | zero => exact yields_fail
    | succ bound ih =>
      refine yields_targetsOf ((yields_skip _).bind fun _ _ => yields_ite ?_ ?_)
      · exact ih.bind fun target _ => (yields_expect _).bind fun _ _ => yields_pure trivial
      · exact yields_variable
  exact yields_get.bind fun _ _ => hwithin _

namespace Inner

/-- Readers for what stands inside a statement that come across names with some
    property only. -/
structure Yields (p : String → Prop) (inner : Inner) : Prop where
  nested : inner.toNested.Yields p
  stmt : Parser.Yields p inner.stmt (Stmt.HaveNames p)

variable {inner : Inner}

/-- One piece of a body comes across names with the property only, if the
    readers within it do. -/
theorem yields_piece (hinner : inner.Yields p) (stops : List String) {earlier : List Stmt}
    (hearlier : ∀ stmt ∈ earlier, stmt.HaveNames p) :
    Parser.Yields p (inner.piece stops earlier)
      (Progress.Holds (fun earlier => ∀ stmt ∈ earlier, stmt.HaveNames p) (BodyNames p)) := by
  have hdone : BodyNames p earlier.reverse :=
    bodyNames_of_forall fun stmt hmem => hearlier stmt (List.mem_reverse.1 hmem)
  have hagain {stmt : Stmt} (hstmt : stmt.HaveNames p) :
      ∀ found ∈ stmt :: earlier, found.HaveNames p :=
    List.forall_mem_cons.2 ⟨hstmt, hearlier⟩
  refine yields_next.bind fun token _ => ?_
  split
  · exact yields_pure hdone
  · exact yields_pure (hagain (by simp [Stmt.HaveNames, Stmt.freeNames]))
  · refine hinner.nested.expr.bind fun value hvalue => (yields_expect _).bind fun _ _ => ?_
    refine yields_pure (hagain fun known => ?_)
    rw [Stmt.freeNames]
    exact hvalue.filter _
  · have hstmt : Parser.Yields p (do
        let stmt ← inner.stmt
        expect .tagEnd
        return .again (stmt :: earlier))
        (Progress.Holds (fun earlier => ∀ stmt ∈ earlier, stmt.HaveNames p) (BodyNames p)) :=
      hinner.stmt.bind fun stmt hstmt => (yields_expect _).bind fun _ _ =>
        yields_pure (hagain hstmt)
    refine yields_peek.bind fun found _ => ?_
    split
    · exact yields_fail_bind
    · exact yields_ite (yields_pure hdone) hstmt
    · exact hstmt
  · exact yields_fail

/-- A body only has names with the property, which the loop over its pieces
    keeps. -/
theorem yields_bodyUntil (hinner : inner.Yields p) (stops : List String) :
    Parser.Yields p (inner.bodyUntil stops) (BodyNames p) :=
  yields_loop _ (fun _ hearlier => yields_piece hinner stops hearlier) nofun

/-- A body that is read with the tag behind it only has names with the
    property. -/
theorem yields_bodyThrough (hinner : inner.Yields p) (stop : String) :
    Parser.Yields p (inner.bodyThrough stop) (BodyNames p) :=
  (yields_expect _).bind fun _ _ => (yields_bodyUntil hinner _).bind fun _ hbody =>
    yields_next.bind fun _ _ => yields_pure hbody

theorem yields_forLoop (hinner : inner.Yields p) :
    Parser.Yields p inner.forLoop (Stmt.HaveNames p) := by
  refine yields_loopTarget.bind fun target _ => (yields_expectWord _).bind fun _ _ => ?_
  refine (Nested.yields_unconditional hinner.nested).bind fun source hsource => ?_
  refine yields_default (yields_some hinner.nested.expr) optionNames_none
    fun condition hcondition => ?_
  refine (yields_skip _).bind fun recursive _ => (yields_expect _).bind fun _ _ => ?_
  refine (yields_bodyUntil hinner _).bind fun body hbody => ?_
  refine (yields_skip _).bind fun _ _ => yields_ite ?_ ?_
  · exact (yields_bodyThrough hinner _).bind fun otherwise hotherwise =>
      yields_pure (haveNames_forLoop hsource hcondition recursive hbody hotherwise)
  · exact yields_next.bind fun _ _ =>
      yields_pure (haveNames_forLoop hsource hcondition recursive hbody bodyNames_nil)

def BranchNames (p : String → Prop) (branches : List (Expr × List Stmt)) : Prop :=
  ∀ branch ∈ branches, branch.1.HaveNames p ∧ BodyNames p branch.2

/-- All branches of a condition only have names with the property, those
    collected so far and those to come. -/
theorem yields_branches (hinner : inner.Yields p) {earlier : List (Expr × List Stmt)}
    (hearlier : BranchNames p earlier) :
    Parser.Yields p (inner.branches earlier) (Progress.Holds (BranchNames p)
      fun result => BranchNames p result.1 ∧ BodyNames p result.2) := by
  refine (Nested.yields_unconditional hinner.nested).bind fun test htest => ?_
  refine (yields_expect _).bind fun _ _ => (yields_bodyUntil hinner _).bind fun body hbody => ?_
  have hbranches : BranchNames p ((test, body) :: earlier) :=
    List.forall_mem_cons.2 ⟨⟨htest, hbody⟩, hearlier⟩
  refine yields_next.bind fun token _ => ?_
  split
  · exact (yields_bodyThrough hinner _).bind fun _ hotherwise =>
      yields_pure ⟨hbranches, hotherwise⟩
  · exact yields_pure hbranches
  · exact yields_pure ⟨hbranches, bodyNames_nil⟩

theorem yields_conditional (hinner : inner.Yields p) :
    Parser.Yields p inner.conditional (Stmt.HaveNames p) := by
  refine yields_loop_bind (BranchNames p)
    (fun result => BranchNames p result.1 ∧ BodyNames p result.2)
    (fun _ hearlier => yields_branches hinner hearlier) (List.forall_mem_nil _) ?_
  rintro ⟨reversed, otherwise⟩ ⟨hreversed, hotherwise⟩
  cases reversed with
  | nil => exact yields_fail
  | cons branch earlier =>
    have hbranches := List.forall_mem_cons.1 hreversed
    exact yields_pure (haveNames_foldl_conditional hbranches.2
      (haveNames_conditional hbranches.1.1 hbranches.1.2 hotherwise))

/-- A chain of filters reads the arguments of the filters. Their names are not
    read. -/
theorem yields_filterChain (hinner : inner.Yields p) :
    Parser.Yields p inner.filterChain (Expr.HaveNames p) := by
  have hstep {chain : Option Expr} (hchain : OptionNames p chain) :
      Parser.Yields p (do
        let name ← Nested.dottedName
        let filter := Expr.filter chain name (← inner.optionalArguments inner.unconditional)
        return .again (some filter))
        (Progress.Holds (OptionNames p) (OptionNames p)) := by
    refine Nested.yields_dottedName.bind fun name _ => ?_
    refine (Nested.yields_optionalArguments hinner.nested
      (Nested.yields_unconditional hinner.nested)).bind fun arguments harguments => ?_
    refine yields_pure fun filter hfilter => Option.some.inj hfilter ▸ ?_
    exact haveNames_filter hchain name harguments
  refine yields_loop_bind (OptionNames p) (OptionNames p) (fun chain hchain => ?_)
    optionNames_none fun chain hchain => ?_
  · refine (yields_isNext _).bind fun _ _ => yields_ite (yields_pure hchain) ?_
    exact yields_ite ((yields_expect _).bind fun _ _ => hstep hchain) (hstep hchain)
  · cases chain with
    | none => exact yields_fail
    | some filter => exact yields_pure (hchain filter rfl)

/-- A value that is assigned may be a list without brackets, of which each item
    reads such names. -/
theorem yields_assignedValue (hinner : inner.Yields p) :
    Parser.Yields p inner.assignedValue (Expr.HaveNames p) := by
  let all (items : List Expr) := ∀ item ∈ items, item.HaveNames p
  refine hinner.nested.expr.bind fun first hfirst => (yields_isNext _).bind fun _ _ => ?_
  refine yields_ite ?_ (yields_pure hfirst)
  rw [map_eq_pure_bind]
  refine yields_loop_bind all all (fun items hitems => ?_) (List.forall_mem_singleton.2 hfirst)
    fun items hitems => yields_pure ?_
  · have hdone : all items.reverse := fun item hmem => hitems item (List.mem_reverse.1 hmem)
    refine (yields_skip _).bind fun _ _ => yields_ite ?_ (yields_pure hdone)
    refine (yields_isNext _).bind fun _ _ => yields_ite (yields_pure hdone) ?_
    exact hinner.nested.expr.bind fun item hitem =>
      yields_pure (List.forall_mem_cons.2 ⟨hitem, hitems⟩)
  · rw [Expr.HaveNames, Expr.names]
    exact forall_namesOfItems.2 hitems

theorem yields_assignedTarget : Parser.Yields p assignedTarget fun _ => True := by
  refine yields_propertyTarget.bind fun first _ => (yields_isNext _).bind fun _ _ => ?_
  refine yields_ite ?_ (yields_pure trivial)
  rw [map_eq_pure_bind]
  refine yields_loop_bind (fun _ => True) (fun _ => True) (fun items _ => ?_) trivial
    fun _ _ => yields_pure trivial
  refine (yields_skip _).bind fun _ _ => yields_ite ?_ (yields_pure trivial)
  refine (yields_isNext _).bind fun _ _ => yields_ite (yields_pure trivial) ?_
  exact yields_propertyTarget.bind fun _ _ => yields_pure trivial

theorem yields_assignTo (hinner : inner.Yields p) (target : Target) :
    Parser.Yields p (inner.assignTo target) (Stmt.HaveNames p) := by
  refine (yields_expect _).bind fun _ _ => (yields_assignedValue hinner).bind fun value hvalue => ?_
  refine yields_pure fun known => ?_
  rw [Stmt.freeNames]
  exact hvalue.filter _

/-- An assignment reads the names of its right side. What it binds is not read. -/
theorem yields_assignment (hinner : inner.Yields p) :
    Parser.Yields p inner.assignment (Stmt.HaveNames p) := by
  have hcapture (target : Target) (filter : Option Expr) :
      Parser.Yields p (do return Stmt.capture target filter (← inner.bodyThrough "endset"))
        (Stmt.HaveNames p) :=
    (yields_bodyThrough hinner _).bind fun body hbody =>
      yields_pure fun known => by
        rw [Stmt.freeNames]
        exact hbody _
  refine (yields_skip _).bind fun _ _ => yields_ite ?_ ?_
  · exact yields_loopTarget.bind fun target _ => (yields_expect _).bind fun _ _ =>
      yields_assignTo hinner target
  refine yields_assignedTarget.bind fun target _ => (yields_isNext _).bind fun _ _ => ?_
  refine yields_ite (hcapture target none) ((yields_skip _).bind fun _ _ => yields_ite ?_ ?_)
  · exact (yields_filterChain hinner).bind fun filter _ => hcapture target (some filter)
  · exact yields_assignTo hinner target

theorem yields_filterBlock (hinner : inner.Yields p) :
    Parser.Yields p inner.filterBlock (Stmt.HaveNames p) :=
  (yields_filterChain hinner).bind fun filter _ =>
    (yields_bodyThrough hinner _).bind fun body hbody => yields_pure fun known => by
      rw [Stmt.freeNames]
      exact hbody _

/-- A block with assignments reads their values. The assignments are collected
    in a loop, whose invariant is about all that have been read. -/
theorem yields_scopedBlock (hinner : inner.Yields p) :
    Parser.Yields p inner.scopedBlock (Stmt.HaveNames p) := by
  let all (assignments : List (Target × Expr)) :=
    ∀ assignment ∈ assignments, assignment.2.HaveNames p
  refine yields_loop_bind all all (fun earlier hearlier => ?_) (List.forall_mem_nil _)
    fun assignments hassignments => (yields_bodyThrough hinner _).bind fun body hbody =>
      yields_pure (haveNames_scoped hassignments hbody)
  have hassigned (target : Target) : Parser.Yields p (do
      expectSymbol .assign
      return .again ((target, ← inner.expr) :: earlier)) (Progress.Holds all all) :=
    (yields_expect _).bind fun _ _ => hinner.nested.expr.bind fun value hvalue =>
      yields_pure (List.forall_mem_cons.2 ⟨hvalue, hearlier⟩)
  have hrest : Parser.Yields p (do
      let target ←
        if ← skipSymbol .parenOpen then do
          let target ← loopTarget
          expectSymbol .parenClose
          pure target
        else .variable <$> targetName
      expectSymbol .assign
      return .again ((target, ← inner.expr) :: earlier)) (Progress.Holds all all) := by
    refine (yields_skip _).bind fun _ _ => yields_ite ?_ ?_
    · exact yields_loopTarget.bind fun target _ => (yields_expect _).bind fun _ _ =>
        hassigned target
    · exact yields_variable.bind fun target _ => hassigned target
  refine (yields_isNext _).bind fun _ _ => yields_ite (yields_pure ?_) ?_
  · exact fun assignment hmem => hearlier assignment (List.mem_reverse.1 hmem)
  · exact yields_ite ((yields_expect _).bind fun _ _ => hrest) hrest

theorem yields_autoescapeBlock (hinner : inner.Yields p) :
    Parser.Yields p inner.autoescapeBlock (Stmt.HaveNames p) :=
  hinner.nested.expr.bind fun enabled _ =>
    (yields_bodyThrough hinner _).bind fun body hbody => yields_pure fun known => by
      rw [Stmt.freeNames]
      exact hbody _

theorem yields_blockEnd (name : String) : Parser.Yields p (blockEnd name) fun _ => True := by
  refine yields_peek.bind fun token _ => ?_
  split
  · exact yields_ite (yields_next.bind fun _ _ => yields_pure trivial) yields_fail
  · exact yields_pure trivial

/-- A block reads what its body reads, whatever its name is and whether it is
    repeated. -/
theorem yields_namedBlock (hinner : inner.Yields p) :
    Parser.Yields p inner.namedBlock (Stmt.HaveNames p) := by
  have hrest : Parser.Yields p (do
      let name ← expectName
      if (← get).blocks.contains name then fail (.repeatedBlock name)
      modify fun cursor => { cursor with blocks := name :: cursor.blocks }
      let body ← inner.bodyThrough "endblock"
      blockEnd name
      return .block name body) (Stmt.HaveNames p) := by
    refine yields_expectName.bind fun name _ => yields_get.bind fun _ _ => ?_
    have hbody : Parser.Yields p (do
        modify fun cursor => { cursor with blocks := name :: cursor.blocks }
        let body ← inner.bodyThrough "endblock"
        blockEnd name
        return .block name body) (Stmt.HaveNames p) := by
      refine yields_modify_bind (fun cursor => ?_)
        ((yields_bodyThrough hinner _).bind fun body hbody => ?_)
      · rfl
      refine (yields_blockEnd name).bind fun _ _ => yields_pure fun known => ?_
      rw [Stmt.freeNames]
      exact hbody _
    exact yields_ite (yields_fail_bind) hbody
  exact yields_get.bind fun _ _ => yields_ite (yields_fail_bind) hrest

theorem yields_contextWords : Parser.Yields p contextWords fun _ => True := by
  have hrest (found : Bool) : Parser.Yields p (if found then expectWord "context" else pure ())
      fun _ => True :=
    yields_ite (yields_expectWord _) (yields_pure trivial)
  exact (yields_skip _).bind fun without _ => yields_ite (hrest true)
    ((yields_skip _).bind fun found _ => hrest found)

/-- A statement whose names are never looked at, like one that includes another
    template. -/
theorem haveNames_of_eq_nil {stmt : Stmt} (hstmt : ∀ known, stmt.freeNames known = []) :
    stmt.HaveNames p := by
  intro known
  rw [hstmt]
  exact List.forall_mem_nil _

theorem yields_inclusion (hinner : inner.Yields p) :
    Parser.Yields p inner.inclusion (Stmt.HaveNames p) := by
  have hincluding (source : Expr) (ignoreMissing : Bool) :
      (Stmt.including source ignoreMissing).HaveNames p :=
    haveNames_of_eq_nil fun _ => by rw [Stmt.freeNames]
  refine hinner.nested.expr.bind fun source _ => yields_contextWords.bind fun _ _ => ?_
  refine (yields_skip _).bind fun _ _ => yields_ite ?_ (yields_pure (hincluding source false))
  exact (yields_expectWord _).bind fun _ _ => yields_contextWords.bind fun _ _ =>
    yields_pure (hincluding source true)

theorem yields_importing (hinner : inner.Yields p) :
    Parser.Yields p inner.importing (Stmt.HaveNames p) :=
  hinner.nested.expr.bind fun _ _ => (yields_expectWord _).bind fun _ _ =>
    hinner.nested.expr.bind fun _ _ =>
      yields_pure (haveNames_of_eq_nil fun _ => by rw [Stmt.freeNames])

/-- What is imported by name is bound and not read. -/
theorem yields_importingFrom (hinner : inner.Yields p) :
    Parser.Yields p inner.importingFrom (Stmt.HaveNames p) := by
  refine hinner.nested.expr.bind fun source _ => (yields_expectWord _).bind fun _ _ => ?_
  refine yields_loop_bind (fun _ => True) (fun _ => True) (fun earlier _ => ?_) trivial
    fun names _ => yields_pure (haveNames_of_eq_nil fun _ => by rw [Stmt.freeNames])
  have hrest : Parser.Yields p (do
      if ← isNext .tagEnd then return .done earlier.reverse
      let name ← targetName
      let renamed ← if ← skipWord "as" then some <$> targetName else pure none
      return .again ((name, renamed) :: earlier))
      (Progress.Holds (fun _ : List (String × Option String) => True) fun _ => True) := by
    refine (yields_isNext _).bind fun _ _ => yields_ite (yields_pure trivial) ?_
    refine yields_targetName.bind fun name _ => ?_
    have hrenamed : Parser.Yields p (some <$> targetName) fun _ => True :=
      yields_targetName.map fun _ => id
    exact yields_default hrenamed trivial fun _ _ => yields_pure trivial
  refine (yields_isNext _).bind fun _ _ => yields_ite (yields_pure trivial) ?_
  exact yields_ite ((yields_expect _).bind fun _ _ => hrest) hrest

/-- Parameters read nothing but their defaults. A parameter without one comes
    before all parameters that have one. -/
theorem yields_parameters (hinner : inner.Yields p) :
    Parser.Yields p inner.parameters
      fun parameters => ∀ value ∈ parameters.2, value.HaveNames p := by
  let all (parameters : List String × List Expr) := ∀ value ∈ parameters.2, value.HaveNames p
  refine yields_loop all ?_ (List.forall_mem_nil _)
  rintro ⟨names, defaults⟩ hdefaults
  have hdone : Parser.Yields p (pure (.done (names.reverse, defaults.reverse)))
      (Progress.Holds all all) :=
    yields_pure fun value hmem => hdefaults value (List.mem_reverse.1 hmem)
  have hagain (name : String) : Parser.Yields p (pure (.again (name :: names, defaults)))
      (Progress.Holds all all) :=
    yields_pure hdefaults
  have hrest : Parser.Yields p (do
      let name ← targetName
      if ← skipSymbol .assign then return .again (name :: names, (← inner.expr) :: defaults)
      if !defaults.isEmpty then expectSymbol .assign
      return .again (name :: names, defaults)) (Progress.Holds all all) := by
    refine yields_targetName.bind fun name _ => (yields_skip _).bind fun _ _ => yields_ite ?_ ?_
    · exact hinner.nested.expr.bind fun value hvalue =>
        yields_pure (List.forall_mem_cons.2 ⟨hvalue, hdefaults⟩)
    · exact yields_ite ((yields_expect _).bind fun _ _ => hagain name) (hagain name)
  refine (yields_skip _).bind fun _ _ => yields_ite hdone (yields_ite ?_ hrest)
  exact (yields_expect _).bind fun _ _ => (yields_skip _).bind fun _ _ => yields_ite hdone hrest

theorem yields_procedureBody (hinner : inner.Yields p) (stop : String) :
    Parser.Yields p (inner.procedureBody stop) (BodyNames p) := by
  refine (yields_expect _).bind fun _ _ => yields_get.bind fun _ _ => ?_
  refine yields_modify_bind (fun cursor => ?_)
    ((yields_bodyUntil hinner _).bind fun body hbody => ?_)
  · rfl
  refine yields_modify_bind (fun cursor => ?_) (yields_next.bind fun _ _ => yields_pure hbody)
  rfl

theorem yields_procedure (hinner : inner.Yields p) :
    Parser.Yields p inner.procedure (Stmt.HaveNames p) := by
  refine yields_expectName.bind fun name _ => (yields_expect _).bind fun _ _ => ?_
  refine (yields_parameters hinner).bind fun (names, defaults) hdefaults => ?_
  exact (yields_procedureBody hinner _).bind fun body hbody =>
    yields_pure (haveNames_procedure name names hdefaults hbody)

theorem yields_callExpr (hinner : inner.Yields p) :
    Parser.Yields p inner.callExpr (Expr.HaveNames p) := by
  refine hinner.nested.expr.bind fun value hvalue => ?_
  split
  · exact yields_pure hvalue
  · exact yields_fail

theorem yields_callBlock (hinner : inner.Yields p) :
    Parser.Yields p inner.callBlock (Stmt.HaveNames p) := by
  refine yields_default (yields_parameters hinner) (List.forall_mem_nil _)
    fun (names, defaults) hdefaults => ?_
  refine (yields_callExpr hinner).bind fun call hcall => ?_
  exact (yields_procedureBody hinner _).bind fun body hbody =>
    yields_pure (haveNames_callBlock names hdefaults hcall hbody)

/-- Every statement only has names with the property. The cases are those of its
    first word. -/
theorem yields_statement (hinner : inner.Yields p) :
    Parser.Yields p inner.statement (Stmt.HaveNames p) := by
  refine (yields_take _).bind fun token _ => ?_
  split
  · split
    · exact yields_forLoop hinner
    · exact yields_conditional hinner
    · exact yields_assignment hinner
    · exact yields_filterBlock hinner
    · exact yields_scopedBlock hinner
    · exact yields_autoescapeBlock hinner
    · exact yields_namedBlock hinner
    · exact hinner.nested.expr.map fun _ _ => haveNames_of_eq_nil fun _ => by rw [Stmt.freeNames]
    · exact yields_inclusion hinner
    · exact yields_importing hinner
    · exact yields_importingFrom hinner
    · exact yields_procedure hinner
    · exact yields_callBlock hinner
    · refine (yields_callExpr hinner).map fun call hcall known => ?_
      rw [Stmt.freeNames]
      exact hcall.filter _
    · exact yields_fail
  · exact yields_fail

end Inner

/-- By induction on the levels of nesting, this holds of templates of any
    depth. -/
theorem yields_innerWithin (levels : Nat) : (innerWithin levels).Yields p := by
  induction levels with
  | zero => exact ⟨⟨yields_fail, yields_fail⟩, yields_fail⟩
  | succ levels ih =>
    exact ⟨⟨Nested.yields_conditional ih.nested, Nested.yields_innermost ih.nested⟩,
      Inner.yields_statement ih⟩

/-- What holds of all words of a text holds of the names that its template
    reads. So whatever the scanner ensures for names is known of variables. -/
theorem forall_freeNames {source : List Char} {template : List Stmt}
    (hparse : parse source = .ok template)
    (hwords : HaveNames p ((tokensOf source).tokens.map (·.value))) :
    ∀ name ∈ freeNames template, p name := by
  unfold parse Parser.run at hparse
  split at hparse
  · next result rest hrun =>
    cases hparse
    exact (Inner.yields_bodyUntil (yields_innerWithin maxDepth) [] _ _ _ hrun hwords).1 _
  · cases hparse

end PromptPacks.Template
