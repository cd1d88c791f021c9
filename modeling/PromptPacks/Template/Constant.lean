import PromptPacks.Template.Operator
import PromptPacks.Template.Tree

namespace PromptPacks.Template

/-- Whether each value of a chain compares with the next one as it says. -/
def Value.chainHolds? (left : Value) : List (CompareOp × Value) → Option Bool
  | [] => some true
  | (op, right) :: rest => do
    if ← Value.holds? op left right then chainHolds? right rest else some false

mutual

/-- The value of an expression that names nothing and computes with operators
    only, unless an operator fails. -/
def Expr.constant? : Expr → Option Value
  | .literal value => some (.ofLiteral value)
  | .list items => (constantItems? items).map .list
  | .map entries => (constantEntries? entries).map .mapOf
  | .negate operand => operand.constant?.bind Value.negate?
  | .not operand => operand.constant?.map fun value => .bool !value.isTrue
  | .both left right => do
    let value ← left.constant?
    let other ← right.constant?
    some (if value.isTrue then other else .bool false)
  | .either left right => do
    let value ← left.constant?
    let other ← right.constant?
    some (if value.isTrue then value else other)
  | .binary op left right => do
    let value ← left.constant?
    let other ← right.constant?
    Value.operate? op value other
  | .compare first rest => do
    let value ← first.constant?
    let others ← constantOperands? rest
    (value.chainHolds? others).map .bool
  | _ => none

def constantItems? : List Expr → Option (List Value)
  | [] => some []
  | item :: rest => do some ((← item.constant?) :: (← constantItems? rest))

/-- The keys and values of a map of constant expressions. -/
def constantEntries? : List (Expr × Expr) → Option (List (Value × Value))
  | [] => some []
  | (key, value) :: rest => do
    some ((← key.constant?, ← value.constant?) :: (← constantEntries? rest))

/-- The operators and values of a chain of constant expressions. -/
def constantOperands? : List (CompareOp × Expr) → Option (List (CompareOp × Value))
  | [] => some []
  | (op, operand) :: rest => do some ((op, ← operand.constant?) :: (← constantOperands? rest))

end

/-- The value of `and` whose left side does not count as true: the left side
    itself, but the truth value if both sides are constant. -/
def fallenShort (left right : Expr) (value : Value) : Value :=
  if left.constant?.isSome && right.constant?.isSome then .bool false else value

end PromptPacks.Template
