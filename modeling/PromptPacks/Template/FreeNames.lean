import PromptPacks.Template.Tree

namespace PromptPacks.Template

mutual

/-- The names that an expression reads. What is sliced does not count, only the
    bounds of the slice do. -/
def Expr.names : Expr → List String
  | .variable name => [name]
  | .literal _ => []
  | .list items => namesOfItems items
  | .map entries => namesOfEntries entries
  | .negate operand | .not operand => operand.names
  | .both left right | .either left right | .binary _ left right => left.names ++ right.names
  | .compare first rest => first.names ++ namesOfOperands rest
  | .conditional value test otherwise => test.names ++ value.names ++ namesOfOption otherwise
  | .property subject _ => subject.names
  | .item subject index => subject.names ++ index.names
  | .slice _ start stop step => namesOfOption start ++ namesOfOption stop ++ namesOfOption step
  | .call callee arguments => callee.names ++ namesOfArguments arguments
  | .filter subject _ arguments => namesOfOption subject ++ namesOfArguments arguments
  | .test subject _ arguments => subject.names ++ namesOfArguments arguments

def Argument.names : Argument → List String
  | .positional value | .named _ value | .spread value | .spreadNamed value => value.names

def namesOfItems : List Expr → List String
  | [] => []
  | item :: rest => item.names ++ namesOfItems rest

def namesOfEntries : List (Expr × Expr) → List String
  | [] => []
  | (key, value) :: rest => key.names ++ value.names ++ namesOfEntries rest

/-- The names that the further operands of a comparison read. -/
def namesOfOperands : List (CompareOp × Expr) → List String
  | [] => []
  | (_, operand) :: rest => operand.names ++ namesOfOperands rest

/-- The names that an expression reads where there is one. -/
def namesOfOption : Option Expr → List String
  | none => []
  | some value => value.names

def namesOfArguments : List Argument → List String
  | [] => []
  | argument :: rest => argument.names ++ namesOfArguments rest

end

mutual

/-- The names that get a value. A property of a name is none of them. -/
def Target.names : Target → List String
  | .variable name => [name]
  | .property .. => []
  | .tuple items => namesOfTargets items

def namesOfTargets : List Target → List String
  | [] => []
  | target :: rest => target.names ++ namesOfTargets rest

end

def importedNames (names : List (String × Option String)) : List String :=
  names.map fun (name, renamed) => renamed.getD name

def importedName : Expr → List String
  | .variable name => [name]
  | _ => []

mutual

/-- The known names after a statement, given those before it. Only names outside
    its body count. -/
def Stmt.knownAfter (known : List String) : Stmt → List String
  | .assign target _ | .capture target .. => target.names ++ known
  | .importing _ target => importedName target ++ known
  | .importingFrom _ names => importedNames names ++ known
  | .procedure name parameters _ body => knownAfterBody (name :: parameters ++ known) body
  | .callBlock parameters _ _ body => knownAfterBody (parameters ++ known) body
  | _ => known

def knownAfterBody (known : List String) : List Stmt → List String
  | [] => known
  | stmt :: rest => knownAfterBody (stmt.knownAfter known) rest

end

/-- The names that the values of scoped names read. Each name is known in its
    own value. -/
def freeInAssignments (known : List String) : List (Target × Expr) → List String
  | [] => []
  | (target, value) :: rest =>
    let known := target.names ++ known
    value.names.filter (!known.contains ·) ++ freeInAssignments known rest

/-- The known names after the values of scoped names. -/
def knownAfterAssignments (known : List String) (assignments : List (Target × Expr)) :
    List String :=
  assignments.foldl (fun known (target, _) => target.names ++ known) known

mutual

/-- The names that a statement reads though they are not known. A name is known
    from its assignment on, the assigned value included, up to the end of the
    body with the assignment. -/
def Stmt.freeNames (known : List String) : Stmt → List String
  | .text _ | .extending _ | .including .. | .importing .. | .importingFrom .. => []
  | .output value | .perform value => value.names.filter (!known.contains ·)
  | .forLoop target source condition _ body otherwise =>
    let inside := target.names ++ "loop" :: known
    source.names.filter (!("loop" :: known).contains ·)
      ++ (namesOfOption condition).filter (!inside.contains ·)
      ++ freeInBody inside body ++ freeInBody known otherwise
  | .conditional test body otherwise =>
    test.names.filter (!known.contains ·) ++ freeInBody known body ++ freeInBody known otherwise
  | .assign target value => value.names.filter (!(target.names ++ known).contains ·)
  | .capture target _ body => freeInBody (target.names ++ known) body
  | .filtered _ body | .autoescape _ body => freeInBody known body
  | .scoped assignments body =>
    freeInAssignments known assignments
      ++ freeInBody (knownAfterAssignments known assignments) body
  | .block _ body => freeInBody ("super" :: known) body
  | .procedure name parameters defaults body =>
    let inside := name :: parameters ++ known
    (namesOfItems defaults).filter (!inside.contains ·) ++ freeInBody inside body
  | .callBlock parameters defaults call body =>
    let inside := parameters ++ known
    call.names.filter (!known.contains ·) ++ (namesOfItems defaults).filter (!inside.contains ·)
      ++ freeInBody inside body

/-- The names that some statements read though they are not known. -/
def freeInBody (known : List String) : List Stmt → List String
  | [] => []
  | stmt :: rest => stmt.freeNames known ++ freeInBody (stmt.knownAfter known) rest

end

/-- The names that a template reads and does not give a value to. -/
def freeNames (template : List Stmt) : List String :=
  freeInBody ["self"] template

end PromptPacks.Template
