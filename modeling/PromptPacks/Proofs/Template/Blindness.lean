import PromptPacks.Proofs.Template.Lookups
import PromptPacks.Proofs.Template.Problems

namespace PromptPacks.Template

open PromptPacks.Template.Eval

mutual

/-- The names that a statement has given a value to in its own frame whenever it
    comes to an end. -/
def Stmt.assigned : Stmt → List String
  | .assign target _ => target.names
  | .capture target _ body => target.names ++ assignedIn body
  | .filtered _ body | .autoescape _ body => assignedIn body
  | _ => []

def assignedIn : List Stmt → List String
  | [] => []
  | stmt :: rest => assignedIn rest ++ stmt.assigned

end

/-- The names that the values of scoped names depend on. None is bound in its
    own value. -/
def lookupsOfAssignments (bound : List String) : List (Target × Expr) → List String
  | [] => []
  | (target, value) :: rest =>
    value.reads.filter (!bound.contains ·) ++ lookupsOfAssignments (target.names ++ bound) rest

mutual

/-- The names that the run of a statement may look up among the values that the
    template is rendered with, given those that have a value before. Statements
    that always fail or do nothing look up none. -/
def Stmt.lookups (bound : List String) : Stmt → List String
  | .text _ | .extending _ | .importing .. | .importingFrom .. | .procedure .. | .callBlock .. => []
  | .output value | .perform value | .assign _ value | .including value _ =>
    value.reads.filter (!bound.contains ·)
  | .forLoop target source condition _ body otherwise =>
    source.reads.filter (!bound.contains ·)
      ++ (readsOfOption condition).filter (!(target.names ++ bound).contains ·)
      ++ lookupsIn (target.names ++ "loop" :: bound) body ++ lookupsIn bound otherwise
  | .conditional test body otherwise =>
    test.reads.filter (!bound.contains ·) ++ lookupsIn bound body ++ lookupsIn bound otherwise
  | .capture _ filter body =>
    lookupsIn bound body
      ++ (readsOfOption filter).filter (!(assignedIn body ++ bound).contains ·)
  | .filtered filter body =>
    lookupsIn bound body ++ filter.reads.filter (!(assignedIn body ++ bound).contains ·)
  | .scoped assignments body =>
    lookupsOfAssignments bound assignments
      ++ lookupsIn (knownAfterAssignments bound assignments) body
  | .autoescape enabled body =>
    enabled.reads.filter (!bound.contains ·) ++ lookupsIn bound body
  | .block _ body => lookupsIn bound body

def lookupsIn (bound : List String) : List Stmt → List String
  | [] => []
  | stmt :: rest => stmt.lookups bound ++ lookupsIn (stmt.assigned ++ bound) rest

end

/-- Two contexts give the same values to some names. -/
def Agree (context twin : Context) (names : List String) : Prop :=
  ∀ name ∈ names, context.get? name = twin.get? name

variable {context twin : Context} {bound : List String} {around : Around}

@[simp] theorem agree_append {names others : List String} :
    Agree context twin (names ++ others) ↔
      Agree context twin names ∧ Agree context twin others :=
  List.forall_mem_append

/-- Contexts that agree on the names without a value of their own can be read
    alike. -/
theorem Agree.readable {names : List String}
    (hagree : Agree context twin (names.filter (!bound.contains ·))) :
    Readable context twin bound names := by
  intro name hname
  by_cases hbound : name ∈ bound
  · exact .inl hbound
  · exact .inr (hagree name (List.mem_filter.2 ⟨hname, by simpa using hbound⟩))

/-- What several assignments make known does not depend on what was known
    before, apart from that itself. -/
theorem knownAfterAssignments_eq (bound : List String) (assignments : List (Target × Expr)) :
    knownAfterAssignments bound assignments = knownAfterAssignments [] assignments ++ bound := by
  induction assignments generalizing bound with
  | nil => rfl
  | cons assignment rest ih =>
    change knownAfterAssignments (assignment.1.names ++ bound) rest =
      knownAfterAssignments (assignment.1.names ++ []) rest ++ bound
    rw [ih, ih (assignment.1.names ++ []), List.append_nil, List.append_assoc]

/-- Assignments one after the other run alike in both contexts. Each may read
    what those before it bind. -/
theorem blind_bindEach (assignments : List (Target × Expr))
    (hagree : Agree context twin (lookupsOfAssignments bound assignments))
    (haround : around.Blind context twin bound) :
    Eval.Blind context twin bound (knownAfterAssignments [] assignments)
      (bindEach around assignments) := by
  induction assignments generalizing bound with
  | nil => exact blind_pure ()
  | cons assignment rest ih =>
    obtain ⟨target, value⟩ := assignment
    obtain ⟨hvalue, hrest⟩ := agree_append.1 hagree
    have hafter : knownAfterAssignments [] ((target, value) :: rest) =
        knownAfterAssignments [] rest ++ target.names := by
      rw [← knownAfterAssignments_eq]
      exact congrArg (knownAfterAssignments · rest) (List.append_nil _)
    rw [hafter]
    refine (Expr.blind_eval value hvalue.readable haround).bind fun result => ?_
    exact (blind_bind result target).seq fun _ =>
      ih hrest (haround.mono (List.subset_append_right _ _))

/-- The condition of a loop is asked outside of the loop, where it cannot start
    the loop anew. -/
theorem blind_kept {target : Target} {condition : Expr}
    (hreads : Readable context twin (target.names ++ bound) condition.reads) (items : List Value) :
    Eval.Blind context twin bound [] (Eval.framed (keepWhere target
      (do return (← condition.eval { around with descend := none }).isTrue) items)) := by
  have hnone : ({ around with descend := none } : Around).Blind context twin
      (target.names ++ bound) := by
    intro go hgo
    cases hgo
  exact blind_keepWhere ((Expr.blind_eval condition hreads hnone).returning Value.isTrue) items

/-- The rounds of a loop over some items, or what stands in for them when there
    are no items. Both branches are covered, as the number of items is the same
    in both contexts. -/
theorem blind_rounds {target : Target} (recursive : Bool) {body otherwise : List Stmt}
    {new newer : List String}
    (hbody : ∀ around : Around, around.Blind context twin (target.names ++ "loop" :: bound) →
      Eval.Blind context twin (target.names ++ "loop" :: bound) new (runBody around body))
    (hotherwise : Eval.Blind context twin bound newer (runBody around otherwise))
    (items : List Value) :
    Eval.Blind context twin bound [] (do
      let output ← loopOver (fun descend => runBody { around with descend } body) target recursive
        (Scope.maxFrames + 2) items
      if items.isEmpty then runBody around otherwise else return output) := by
  have hinside : bound ⊆ target.names ++ "loop" :: bound :=
    List.Subset.trans (List.subset_cons_self _ _) (List.subset_append_right _ _)
  have hrun : ∀ descend : Option (Value → Eval (List Char)),
      (∀ go ∈ descend, ∀ value, Eval.Blind context twin bound [] (go value)) →
        Eval.Blind context twin (target.names ++ "loop" :: bound) new
          (runBody { around with descend } body) := by
    intro descend hdescend
    exact hbody _ fun go hgo value => (hdescend go hgo value).mono hinside
  refine (blind_loopOver hrun _ items).bind fun output => ?_
  split
  · exact hotherwise.forget
  · exact blind_pure output

mutual

/-- A statement runs in the same way in two contexts that agree on what it looks
    up. A filter of a block is applied after the body, so what the body assigns
    is bound in it. -/
theorem Stmt.blind_run {bound : List String} {around : Around} (stmt : Stmt)
    (hagree : Agree context twin (stmt.lookups bound))
    (haround : around.Blind context twin bound) :
    Eval.Blind context twin bound stmt.assigned (stmt.run around) := by
  cases stmt with
  | text content => exact blind_pure content
  | output value =>
    exact (Expr.blind_eval value hagree.readable haround).returning _
  | forLoop target source condition recursive body otherwise =>
    simp only [Stmt.lookups, agree_append] at hagree
    obtain ⟨⟨⟨hsource, hcondition⟩, hbody⟩, hotherwise⟩ := hagree
    refine (Expr.blind_eval source hsource.readable haround).bind fun value => ?_
    refine (blind_ofOption _).bind fun items => ?_
    have hrun := blind_rounds recursive (fun around haround => blind_runBody body hbody haround)
      (blind_runBody otherwise hotherwise haround)
    cases condition with
    | none => exact (blind_pure items).bind hrun
    | some condition => exact (blind_kept hcondition.readable items).bind hrun
  | conditional test body otherwise =>
    simp only [Stmt.lookups, agree_append] at hagree
    obtain ⟨⟨htest, hbody⟩, hotherwise⟩ := hagree
    refine (Expr.blind_eval test htest.readable haround).bind fun holds => ?_
    split
    · exact (blind_runBody body hbody haround).forget
    · exact (blind_runBody otherwise hotherwise haround).forget
  | assign target value =>
    refine (Expr.blind_eval value hagree.readable haround).bind fun value => ?_
    exact (blind_bind value target).returning _
  | capture target filter body =>
    obtain ⟨hbody, hfilter⟩ := agree_append.1 hagree
    refine (blind_runBody body hbody haround).seq fun output => ?_
    have haround := haround.mono (List.subset_append_right (assignedIn body) bound)
    cases filter with
    | none => exact (blind_pure _).bind fun value => (blind_bind value target).returning _
    | some filter =>
      have hvalue (block : Value) : Eval.Blind context twin (assignedIn body ++ bound) []
          (filter.eval { around with block }) :=
        Expr.blind_eval filter hfilter.readable haround
      exact (hvalue _).bind fun value => (blind_bind value target).returning _
  | filtered filter body =>
    obtain ⟨hbody, hfilter⟩ := agree_append.1 hagree
    have hvalue (block : Value) : Eval.Blind context twin (assignedIn body ++ bound) []
        (filter.eval { around with block }) :=
      Expr.blind_eval filter hfilter.readable (haround.mono (List.subset_append_right _ bound))
    exact (blind_runBody body hbody haround).seq fun output => (hvalue _).returning _
  | «scoped» assignments body =>
    obtain ⟨hassignments, hbody⟩ := agree_append.1 hagree
    rw [knownAfterAssignments_eq] at hbody
    have hrun := blind_runBody body hbody (haround.mono (List.subset_append_right _ bound))
    exact ((blind_bindEach assignments hassignments haround).seq fun _ => hrun).framed
  | autoescape enabled body =>
    obtain ⟨henabled, hbody⟩ := agree_append.1 hagree
    refine (Expr.blind_eval enabled henabled.readable haround).bind fun value => ?_
    split
    · exact blind_fail
    · exact blind_runBody body hbody haround
  | block name body => exact (blind_runBody body hagree haround).framed
  | including source ignoreMissing =>
    refine (Expr.blind_eval source hagree.readable haround).bind fun value => ?_
    split
    · exact blind_pure _
    · exact blind_fail
  | procedure name parameters defaults body => exact blind_pure []
  | perform call =>
    exact (Expr.blind_eval call hagree.readable haround).returning _
  | extending | importing | importingFrom | callBlock => exact blind_fail

/-- The same for statements one after the other. What one of them binds need not
    be agreed on in the next. -/
theorem blind_runBody {bound : List String} {around : Around} (body : List Stmt)
    (hagree : Agree context twin (lookupsIn bound body))
    (haround : around.Blind context twin bound) :
    Eval.Blind context twin bound (assignedIn body) (runBody around body) := by
  cases body with
  | nil => exact blind_pure []
  | cons stmt rest =>
    obtain ⟨hstmt, hrest⟩ := agree_append.1 hagree
    rw [runBody, assignedIn]
    refine (Stmt.blind_run stmt hstmt haround).seq fun output => ?_
    exact (blind_runBody rest hrest (haround.mono (List.subset_append_right _ _))).returning _

end

/-- Whether all names that an expression reads are reported, and none of them is
    doubtful. -/
def Expr.isReported (doubtful : List String) (value : Expr) : Bool :=
  value.reads.all fun name => value.names.contains name && !doubtful.contains name

mutual

/-- Whether a statement is one of those that templates may use, and all names
    that it looks up are reported. Doubtful names count as known, but may have
    no value yet: a name in its own value, and `loop` in front of its loop. -/
def Stmt.isReported (doubtful : List String) : Stmt → Bool
  | .text _ => true
  | .output value => value.isReported doubtful
  | .forLoop _ source condition _ body otherwise =>
    source.isReported ("loop" :: doubtful) && condition.all (·.isReported ("loop" :: doubtful)) &&
      areReported doubtful body && areReported doubtful otherwise
  | .conditional test body otherwise =>
    test.isReported doubtful && areReported doubtful body && areReported doubtful otherwise
  | .assign target value => value.isReported (target.names ++ doubtful)
  | .capture target filter body =>
    (readsOfOption filter).isEmpty && areReported (target.names ++ doubtful) body
  | .filtered filter body => filter.reads.isEmpty && areReported doubtful body
  | _ => false

def areReported (doubtful : List String) : List Stmt → Bool
  | [] => true
  | stmt :: rest => stmt.isReported doubtful && areReported doubtful rest

end

variable {doubtful known : List String}

/-- Names that become known without a value become doubtful. -/
theorem doubt_subset (names : List String) (hknown : known ⊆ bound ++ doubtful) :
    names ++ known ⊆ bound ++ (names ++ doubtful) := by
  intro name hname
  simp only [List.mem_append] at hname ⊢
  obtain hname | hname := hname
  · exact .inr (.inl hname)
  · exact (List.mem_append.1 (hknown hname)).imp_right .inr

/-- An expression of the class in question reads no name without naming it to
    the check, apart from names that have a value. -/
theorem Expr.filter_reads_subset {value : Expr} (hreported : value.isReported doubtful = true)
    (hknown : known ⊆ bound ++ doubtful) :
    value.reads.filter (!bound.contains ·) ⊆ value.names.filter (!known.contains ·) := by
  intro name hname
  obtain ⟨hreads, hbound⟩ := List.mem_filter.1 hname
  have hchecked := List.all_eq_true.1 hreported name hreads
  simp only [Bool.and_eq_true, Bool.not_eq_true', List.contains_eq_mem, decide_eq_true_eq,
    decide_eq_false_iff_not] at hchecked hbound
  refine List.mem_filter.2 ⟨hchecked.1, ?_⟩
  simp only [Bool.not_eq_true', List.contains_eq_mem, decide_eq_false_iff_not]
  intro hmem
  exact (List.mem_append.1 (hknown hmem)).elim hbound hchecked.2

/-- What is known after a statement and was not before has a value after it. -/
theorem Stmt.knownAfter_subset {stmt : Stmt} (hreported : stmt.isReported doubtful = true) :
    stmt.knownAfter known ⊆ stmt.assigned ++ known := by
  cases stmt with
  | assign target value => exact List.Subset.refl _
  | capture target filter body =>
    exact append_subset_append (List.subset_append_left _ _) (List.Subset.refl _)
  | text | output | forLoop | conditional | filtered => exact List.subset_append_right _ _
  | _ => cases hreported

mutual

/-- A statement of the class looks up only what it names to the check. What is
    bound by a loop is known within it, but not for sure, hence the names that
    are doubtful. -/
theorem Stmt.lookups_subset {doubtful known bound : List String} (stmt : Stmt)
    (hreported : stmt.isReported doubtful = true) (hknown : known ⊆ bound ++ doubtful) :
    stmt.lookups bound ⊆ stmt.freeNames known := by
  cases stmt with
  | text content => exact List.Subset.refl _
  | output value => exact Expr.filter_reads_subset hreported hknown
  | forLoop target source condition recursive body otherwise =>
    simp only [Stmt.isReported, Bool.and_eq_true] at hreported
    obtain ⟨⟨⟨hsource, hcondition⟩, hbody⟩, hotherwise⟩ := hreported
    have hloop : "loop" :: known ⊆ bound ++ "loop" :: doubtful := doubt_subset ["loop"] hknown
    refine append_subset_append (append_subset_append (append_subset_append
      (Expr.filter_reads_subset hsource hloop) ?_) (lookupsIn_subset body hbody ?_))
      (lookupsIn_subset otherwise hotherwise hknown)
    · cases condition with
      | none => exact List.Subset.refl _
      | some condition =>
        refine Expr.filter_reads_subset hcondition ?_
        rw [List.append_assoc]
        exact append_subset_append (List.Subset.refl _) hloop
    · rw [List.append_assoc]
      exact append_subset_append (List.Subset.refl _) (List.cons_subset_cons _ hknown)
  | conditional test body otherwise =>
    simp only [Stmt.isReported, Bool.and_eq_true] at hreported
    obtain ⟨⟨htest, hbody⟩, hotherwise⟩ := hreported
    exact append_subset_append (append_subset_append (Expr.filter_reads_subset htest hknown)
      (lookupsIn_subset body hbody hknown)) (lookupsIn_subset otherwise hotherwise hknown)
  | assign target value =>
    exact Expr.filter_reads_subset hreported (doubt_subset target.names hknown)
  | capture target filter body =>
    simp only [Stmt.isReported, Bool.and_eq_true, List.isEmpty_iff] at hreported
    rw [Stmt.lookups, hreported.1, List.filter_nil, List.append_nil]
    exact lookupsIn_subset body hreported.2 (doubt_subset target.names hknown)
  | filtered filter body =>
    simp only [Stmt.isReported, Bool.and_eq_true, List.isEmpty_iff] at hreported
    rw [Stmt.lookups, hreported.1, List.filter_nil, List.append_nil]
    exact lookupsIn_subset body hreported.2 hknown
  | _ => cases hreported

/-- The same for statements one after the other, with more and more names
    known. -/
theorem lookupsIn_subset {doubtful known bound : List String} (body : List Stmt)
    (hreported : areReported doubtful body = true) (hknown : known ⊆ bound ++ doubtful) :
    lookupsIn bound body ⊆ freeInBody known body := by
  cases body with
  | nil => exact List.Subset.refl _
  | cons stmt rest =>
    simp only [areReported, Bool.and_eq_true] at hreported
    refine append_subset_append (Stmt.lookups_subset stmt hreported.1 hknown)
      (lookupsIn_subset rest hreported.2 ?_)
    rw [List.append_assoc]
    exact List.Subset.trans (Stmt.knownAfter_subset hreported.1)
      (append_subset_append (List.Subset.refl _) hknown)

end

end PromptPacks.Template
