import PromptPacks.Proofs.Template.Coincidence

namespace PromptPacks.Template

open PromptPacks.Template.Eval

mutual

/-- The names that the value of an expression may depend on. What is sliced
    counts, other than among the names that are reported for an expression. -/
def Expr.reads : Expr → List String
  | .variable name => [name]
  | .literal _ => []
  | .list items => readsOfItems items
  | .map entries => readsOfEntries entries
  | .negate operand | .not operand => operand.reads
  | .both left right | .either left right | .binary _ left right => left.reads ++ right.reads
  | .compare first rest => first.reads ++ readsOfOperands rest
  | .conditional value test otherwise => test.reads ++ value.reads ++ readsOfOption otherwise
  | .property subject _ => subject.reads
  | .item subject index => subject.reads ++ index.reads
  | .slice subject start stop step =>
    subject.reads ++ readsOfOption start ++ readsOfOption stop ++ readsOfOption step
  | .call callee arguments => callee.reads ++ readsOfArguments arguments
  | .filter subject _ arguments => readsOfOption subject ++ readsOfArguments arguments
  | .test subject _ arguments => subject.reads ++ readsOfArguments arguments

def Argument.reads : Argument → List String
  | .positional value | .named _ value | .spread value | .spreadNamed value => value.reads

def readsOfItems : List Expr → List String
  | [] => []
  | item :: rest => item.reads ++ readsOfItems rest

def readsOfEntries : List (Expr × Expr) → List String
  | [] => []
  | (key, value) :: rest => key.reads ++ value.reads ++ readsOfEntries rest

def readsOfOperands : List (CompareOp × Expr) → List String
  | [] => []
  | (_, operand) :: rest => operand.reads ++ readsOfOperands rest

def readsOfOption : Option Expr → List String
  | none => []
  | some value => value.reads

def readsOfArguments : List Argument → List String
  | [] => []
  | argument :: rest => argument.reads ++ readsOfArguments rest

end

/-- Each of some names is bound, or has the same value in both contexts. -/
def Readable (context twin : Context) (bound names : List String) : Prop :=
  ∀ name ∈ names, name ∈ bound ∨ context.get? name = twin.get? name

/-- What surrounds an expression is blind if the recursive loop around it is. -/
def Around.Blind (context twin : Context) (bound : List String) (around : Around) : Prop :=
  ∀ descend ∈ around.descend, ∀ value, Eval.Blind context twin bound [] (descend value)

variable {context twin : Context} {bound more : List String} {around : Around}

@[simp] theorem readable_append {names others : List String} :
    Readable context twin bound (names ++ others) ↔
      Readable context twin bound names ∧ Readable context twin bound others :=
  List.forall_mem_append

/-- What surrounds an expression stays blind when more names are bound. -/
theorem Around.Blind.mono (haround : around.Blind context twin bound) (hmore : bound ⊆ more) :
    around.Blind context twin more :=
  fun descend hdescend value => (haround descend hdescend value).mono hmore

/-- A method works on the values it is given and looks nothing up. -/
theorem blind_callMethod (subject : Value) (name : String) (arguments : Arguments) :
    Eval.Blind context twin bound [] (callMethod subject name arguments) := by
  unfold callMethod
  split
  · split
    · exact blind_noteChange _ _
    · split
      · exact blind_ofOption _
      · exact blind_fail
  · exact blind_ofOption _

/-- The recursive call of a loop is blind as the loop is. Without such a loop it
    fails in both contexts. -/
theorem blind_descendInto (haround : around.Blind context twin bound) (arguments : Arguments) :
    Eval.Blind context twin bound [] (descendInto around arguments) := by
  unfold descendInto
  split
  next descend value hdescend _ =>
    exact (haround descend hdescend value).returning _
  · exact blind_fail

mutual

/-- An expression comes to the same value in two contexts that agree on what it
    reads. A name that is called is looked up after the arguments, all other
    callees before them, so calls have three cases. -/
theorem Expr.blind_eval (expr : Expr) (hreads : Readable context twin bound expr.reads)
    (haround : around.Blind context twin bound) :
    Eval.Blind context twin bound [] (expr.eval around) := by
  cases expr with
  | «variable» name =>
    exact blind_valueOf (hreads name (List.mem_singleton_self name)) fun value => blind_pure value
  | literal value => exact blind_pure _
  | list items =>
    exact (blind_evalItems items hreads haround).returning _
  | map entries =>
    exact (blind_evalEntries entries hreads haround).returning _
  | negate operand =>
    exact (Expr.blind_eval operand hreads haround).bind fun value => blind_ofOption _
  | not operand => exact (Expr.blind_eval operand hreads haround).returning _
  | both left right =>
    obtain ⟨hleft, hright⟩ := readable_append.1 hreads
    refine (Expr.blind_eval left hleft haround).bind fun value => ?_
    split
    · exact Expr.blind_eval right hright haround
    · exact blind_pure _
  | either left right =>
    obtain ⟨hleft, hright⟩ := readable_append.1 hreads
    refine (Expr.blind_eval left hleft haround).bind fun value => ?_
    split
    · exact blind_pure _
    · exact Expr.blind_eval right hright haround
  | binary op left right =>
    obtain ⟨hleft, hright⟩ := readable_append.1 hreads
    refine (Expr.blind_eval left hleft haround).bind fun a => ?_
    exact (Expr.blind_eval right hright haround).bind fun b => blind_ofOption _
  | compare first rest =>
    obtain ⟨hfirst, hrest⟩ := readable_append.1 hreads
    refine (Expr.blind_eval first hfirst haround).bind fun left => ?_
    exact (blind_holdsAll rest hrest haround left).returning _
  | conditional value test otherwise =>
    simp only [Expr.reads, readable_append] at hreads
    obtain ⟨⟨htest, hvalue⟩, hotherwise⟩ := hreads
    refine (Expr.blind_eval test htest haround).bind fun holds => ?_
    split
    · exact Expr.blind_eval value hvalue haround
    · exact blind_evalOption otherwise hotherwise haround _
  | property subject name =>
    exact (Expr.blind_eval subject hreads haround).returning _
  | item subject index =>
    obtain ⟨hsubject, hindex⟩ := readable_append.1 hreads
    refine (Expr.blind_eval subject hsubject haround).bind fun value => ?_
    exact (Expr.blind_eval index hindex haround).returning _
  | slice subject start stop step =>
    simp only [Expr.reads, readable_append] at hreads
    obtain ⟨⟨⟨hsubject, hstart⟩, hstop⟩, hstep⟩ := hreads
    refine (Expr.blind_eval subject hsubject haround).bind fun value => ?_
    refine (blind_evalOption start hstart haround _).bind fun start => ?_
    refine (blind_evalOption stop hstop haround _).bind fun stop => ?_
    exact (blind_evalOption step hstep haround _).bind fun step => blind_ofOption _
  | call callee arguments =>
    obtain ⟨hcallee, harguments⟩ := readable_append.1 hreads
    have hgiven := blind_evalArguments arguments harguments haround
    cases callee with
    | «variable» name =>
      refine hgiven.bind fun given => ?_
      split
      · exact blind_descendInto haround given
      · have hname := hcallee name (List.mem_singleton_self name)
        exact blind_valueOf hname fun callee => blind_ofOption (callValue? callee given)
    | property subject name =>
      refine (Expr.blind_eval subject hcallee haround).bind fun value => ?_
      exact hgiven.bind fun given => blind_callMethod value name given
    | _ =>
      refine (Expr.blind_eval _ hcallee haround).bind fun value => ?_
      exact hgiven.bind fun given => blind_ofOption _
  | filter subject name arguments =>
    obtain ⟨hsubject, harguments⟩ := readable_append.1 hreads
    refine (blind_evalOption subject hsubject haround _).bind fun value => ?_
    exact (blind_evalArguments arguments harguments haround).bind fun given => blind_ofOption _
  | test subject name arguments =>
    obtain ⟨hsubject, harguments⟩ := readable_append.1 hreads
    refine (Expr.blind_eval subject hsubject haround).bind fun value => ?_
    refine (blind_evalArguments arguments harguments haround).bind fun given => ?_
    exact (blind_ofOption _).returning _

/-- The items of a list come to the same values, each for itself and in order. -/
theorem blind_evalItems (items : List Expr)
    (hreads : Readable context twin bound (readsOfItems items))
    (haround : around.Blind context twin bound) :
    Eval.Blind context twin bound [] (evalItems around items) := by
  cases items with
  | nil => exact blind_pure []
  | cons item rest =>
    obtain ⟨hitem, hrest⟩ := readable_append.1 hreads
    refine (Expr.blind_eval item hitem haround).bind fun value => ?_
    exact (blind_evalItems rest hrest haround).returning _

/-- The entries of a mapping come to the same values. The key of an entry is
    looked up before its value. -/
theorem blind_evalEntries (entries : List (Expr × Expr))
    (hreads : Readable context twin bound (readsOfEntries entries))
    (haround : around.Blind context twin bound) :
    Eval.Blind context twin bound [] (evalEntries around entries) := by
  cases entries with
  | nil => exact blind_pure []
  | cons entry rest =>
    obtain ⟨key, value⟩ := entry
    simp only [readsOfEntries, readable_append] at hreads
    obtain ⟨⟨hkey, hvalue⟩, hrest⟩ := hreads
    refine (Expr.blind_eval key hkey haround).bind fun key => ?_
    refine (Expr.blind_eval value hvalue haround).bind fun value => ?_
    exact (blind_evalEntries rest hrest haround).returning _

/-- A part that may be absent reads nothing where it is absent. -/
theorem blind_evalOption (expr : Option Expr)
    (hreads : Readable context twin bound (readsOfOption expr))
    (haround : around.Blind context twin bound) (absent : Value) :
    Eval.Blind context twin bound [] (evalOption around absent expr) := by
  cases expr with
  | none => exact blind_pure absent
  | some value => exact Expr.blind_eval value hreads haround

/-- A chain of comparisons comes to the same truth value. It ends with the first
    one that fails, so of the names it reads only some may be looked up. -/
theorem blind_holdsAll (rest : List (CompareOp × Expr))
    (hreads : Readable context twin bound (readsOfOperands rest))
    (haround : around.Blind context twin bound) (left : Value) :
    Eval.Blind context twin bound [] (holdsAll around left rest) := by
  cases rest with
  | nil => exact blind_pure true
  | cons operand rest =>
    obtain ⟨op, operand⟩ := operand
    obtain ⟨hoperand, hrest⟩ := readable_append.1 hreads
    refine (Expr.blind_eval operand hoperand haround).bind fun right => ?_
    refine (blind_ofOption _).bind fun holds => ?_
    split
    · exact blind_holdsAll rest hrest haround right
    · exact blind_pure false

/-- The arguments of a call come to the same values, positional, named and
    spread ones alike. -/
theorem blind_evalArguments (arguments : List Argument)
    (hreads : Readable context twin bound (readsOfArguments arguments))
    (haround : around.Blind context twin bound) :
    Eval.Blind context twin bound [] (evalArguments around arguments) := by
  cases arguments with
  | nil => exact blind_pure _
  | cons argument rest =>
    obtain ⟨hargument, hrest⟩ := readable_append.1 hreads
    have hlater := blind_evalArguments rest hrest haround
    cases argument with
    | positional value | named name value =>
      refine (Expr.blind_eval value hargument haround).bind fun value => ?_
      exact hlater.returning _
    | spread values =>
      refine (Expr.blind_eval values hargument haround).bind fun values => ?_
      refine (blind_ofOption _).bind fun items => ?_
      exact hlater.returning _
    | spreadNamed values =>
      refine (Expr.blind_eval values hargument haround).bind fun values => ?_
      split
      · exact hlater.returning _
      · exact blind_fail

end

end PromptPacks.Template
