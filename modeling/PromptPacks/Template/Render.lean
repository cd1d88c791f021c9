import PromptPacks.Template.Constant
import PromptPacks.Template.Scope
import PromptPacks.Template.Test

namespace PromptPacks.Template

open PromptPacks.Number

/-- What surrounds an expression: the innermost loop, if it is recursive, and
    the text of the block whose filters are applied. -/
structure Around where
  descend : Option (Value → Eval (List Char))
  block : Value

/-- The most items that a list of numbers may have. -/
def maxRange : Nat := 100000

/-- The list of whole numbers from a start up to a stop, which is left out. A
    single argument is the stop. -/
def rangeOf? (values : List Value) : Option Value := do
  let asWhole := Value.asWholeBetween? minInt64 maxInt64
  let first ← values.head?.bind asWhole
  let second ← Arguments.optional? asWhole (values.drop 1)
  let third ← Arguments.optional? asWhole (values.drop 2)
  let start := if second.isSome then first else 0
  let stop := second.getD first
  let step := third.getD 1
  if 3 < values.length || step = 0 || maxRange < Value.stepCount start stop step then none
  else some (.list ((Value.steps start stop step).map .integer))

/-- The result of a call of a value. The only function is that for lists of
    numbers. -/
def callValue? (callee : Value) (arguments : Arguments) : Option Value :=
  match callee with
  | .range => rangeOf? arguments.values
  | _ => none

/-- The result of a call of something that belongs to a value. -/
def callMethod (subject : Value) (name : String) (arguments : Arguments) : Eval Value :=
  match subject with
  | .loop level index .. =>
    if name == "changed" then Eval.noteChange level arguments.values
    else if name == "cycle" then
      .ofOption arguments.values[index % arguments.values.length]?
    else .fail
  | subject => .ofOption (callValue? (subject.property name) arguments)

/-- Goes over the items of a value with the innermost loop. -/
def descendInto (around : Around) (arguments : Arguments) : Eval Value :=
  match around.descend, arguments.values with
  | some descend, [value] => do return .ofChars (← descend value)
  | _, _ => .fail

mutual

def Expr.eval (around : Around) : Expr → Eval Value
  | .variable name => do return (← get).valueOf name
  | .literal value => pure (.ofLiteral value)
  | .list items => do return .list (← evalItems around items)
  | .map entries => do return .mapOf (← evalEntries around entries)
  | .negate operand => do .ofOption (← operand.eval around).negate?
  | .not operand => do return .bool !(← operand.eval around).isTrue
  | .both left right => do
    let value ← left.eval around
    if value.isTrue then right.eval around else return fallenShort left right value
  | .either left right => do
    let value ← left.eval around
    if value.isTrue then return value else right.eval around
  | .binary op left right => do
    let a ← left.eval around
    let b ← right.eval around
    .ofOption (Value.operate? op a b)
  | .compare first rest => do
    let left ← first.eval around
    return .bool (← holdsAll around left rest)
  | .conditional value test otherwise => do
    if (← test.eval around).isTrue then value.eval around
    else evalOption around .undefined otherwise
  | .property subject name => do return (← subject.eval around).property name
  | .item subject index => do
    let value ← subject.eval around
    return value.item (← index.eval around)
  | .slice subject start stop step => do
    let value ← subject.eval around
    let start ← evalOption around .null start
    let stop ← evalOption around .null stop
    let step ← evalOption around .null step
    .ofOption (value.slice? start stop step)
  | .call (.variable name) arguments => do
    let arguments ← evalArguments around arguments
    if name == "loop" then descendInto around arguments
    else .ofOption (callValue? ((← get).valueOf name) arguments)
  | .call (.property subject name) arguments => do
    let value ← subject.eval around
    callMethod value name (← evalArguments around arguments)
  | .call callee arguments => do
    let value ← callee.eval around
    .ofOption (callValue? value (← evalArguments around arguments))
  | .filter subject name arguments => do
    let value ← evalOption around around.block subject
    .ofOption (Filter.result? name (← evalArguments around arguments) value)
  | .test subject name arguments => do
    let value ← subject.eval around
    return .bool (← .ofOption (Test.result? name (← evalArguments around arguments) value))

def evalItems (around : Around) : List Expr → Eval (List Value)
  | [] => pure []
  | item :: rest => do
    let value ← item.eval around
    return value :: (← evalItems around rest)

def evalEntries (around : Around) : List (Expr × Expr) → Eval (List (Value × Value))
  | [] => pure []
  | (key, value) :: rest => do
    let key ← key.eval around
    let value ← value.eval around
    return (key, value) :: (← evalEntries around rest)

/-- The value of an expression where there is one, another value otherwise. -/
def evalOption (around : Around) (absent : Value) : Option Expr → Eval Value
  | none => pure absent
  | some value => value.eval around

/-- Whether each value of a chain compares with the next one as it says. The
    first comparison that does not hold ends the chain. -/
def holdsAll (around : Around) (left : Value) : List (CompareOp × Expr) → Eval Bool
  | [] => pure true
  | (op, operand) :: rest => do
    let right ← operand.eval around
    if ← .ofOption (Value.holds? op left right) then holdsAll around right rest else return false

/-- The arguments of a call. A spread argument stands for its items or its
    entries. -/
def evalArguments (around : Around) : List Argument → Eval Arguments
  | [] => pure ⟨[], none⟩
  | .positional value :: rest => do
    let value ← value.eval around
    let later ← evalArguments around rest
    return { later with positional := value :: later.positional }
  | .named name value :: rest => do
    let value ← value.eval around
    return (← evalArguments around rest).withNamed [(.text name, value)]
  | .spread values :: rest => do
    let items ← .ofOption (← values.eval around).items?
    let later ← evalArguments around rest
    return { later with positional := items ++ later.positional }
  | .spreadNamed values :: rest => do
    match ← values.eval around with
    | .map entries => return (← evalArguments around rest).withNamed entries
    | _ => .fail

end

mutual

/-- The output of a statement. Some of the statements that no template is meant
    to hold are not followed to the end: a macro leaves no value behind, so that
    calling it fails, and a call block fails at once, and so does a block whose
    output is to be escaped. -/
def Stmt.run (around : Around) : Stmt → Eval (List Char)
  | .text content => pure content
  | .output value => do return (← value.eval around).printed
  | .forLoop target source condition recursive body otherwise => do
    let items ← .ofOption (← source.eval around).items?
    let items ←
      match condition with
      | none => pure items
      | some condition =>
        let test := do return (← condition.eval { around with descend := none }).isTrue
        .framed (.keepWhere target test items)
    let output ← Eval.loopOver (fun descend => runBody { around with descend } body) target
      recursive (Scope.maxFrames + 2) items
    if items.isEmpty then runBody around otherwise else return output
  | .conditional test body otherwise => do
    if (← test.eval around).isTrue then runBody around body else runBody around otherwise
  | .assign target value => do
    let value ← value.eval around
    Eval.bind value target
    return []
  | .capture target filter body => do
    let block := Value.ofChars (← runBody around body)
    let value ←
      match filter with
      | none => pure block
      | some filter => filter.eval { around with block }
    Eval.bind value target
    return []
  | .filtered filter body => do
    let block := Value.ofChars (← runBody around body)
    return (← filter.eval { around with block }).printed
  | .scoped assignments body => .framed do
    bindEach around assignments
    runBody around body
  | .autoescape enabled body => do
    if (← enabled.eval around).isTrue then .fail else runBody around body
  | .block _ body => .framed (runBody around body)
  | .including source ignoreMissing => do
    let _ ← source.eval around
    if ignoreMissing then return [] else .fail
  | .procedure .. => pure []
  | .perform call => do
    let _ ← call.eval around
    return []
  | .extending _ | .importing .. | .importingFrom .. | .callBlock .. => .fail

/-- The outputs of some statements one after the other. -/
def runBody (around : Around) : List Stmt → Eval (List Char)
  | [] => pure []
  | stmt :: rest => do
    let output ← stmt.run around
    return output ++ (← runBody around rest)

def bindEach (around : Around) : List (Target × Expr) → Eval Unit
  | [] => pure ()
  | (target, value) :: rest => do
    let value ← value.eval around
    Eval.bind value target
    bindEach around rest

end

/-- The output of a template with the given values, unless it fails. -/
def output? (template : List Stmt) (context : Context) : Option (List Char) :=
  ((runBody ⟨none, .undefined⟩ template).run (Scope.start context)).map (·.1)

end PromptPacks.Template
