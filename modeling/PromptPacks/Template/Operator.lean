import PromptPacks.Template.Access

namespace PromptPacks.Template.Value

open PromptPacks.Number

def maxInt128 : Int := 170141183460469231731687303715884105727

def minInt128 : Int := -170141183460469231731687303715884105728

/-- An integer as the result of a calculation, which has at most 128 bits. -/
def ofResult? (n : Int) : Option Value :=
  if minInt128 ≤ n && n ≤ maxInt128 then some (.integer n) else none

/-- The integer that a value counts as in a calculation. -/
def operandInt? (value : Value) : Option Int :=
  value.asInt?.filter fun n => minInt128 ≤ n && n ≤ maxInt128

/-- The double that a value counts as in a calculation. Integers are rounded. -/
def operandFloat? : Value → Option Float
  | .float x => some x
  | value => value.asInt?.map floatOfInt

/-- Two values as numbers to calculate with: doubles if one of them is a
    double. -/
def operandPair? (left right : Value) : Option NumberPair :=
  match left, right with
  | .float a, _ => right.operandFloat?.map (.floats a)
  | _, .float b => left.operandFloat?.map (.floats · b)
  | _, _ =>
    match left.operandInt?, right.operandInt? with
    | some a, some b => some (.integers a b)
    | _, _ => none

/-- A calculation with numbers, given by its rules for integers and for
    doubles. -/
def calculate? (onInts : Int → Int → Option Value) (onFloats : Float → Float → Float)
    (left right : Value) : Option Value :=
  match operandPair? left right with
  | some (.integers a b) => onInts a b
  | some (.floats a b) => some (.float (onFloats a b))
  | none => none

/-- The sum of two numbers, or two texts or lists one after the other. -/
def add? : Value → Value → Option Value
  | .text a, .text b => some (.text (a ++ b))
  | .list items, .list others => some (.list (items ++ others))
  | left, right => calculate? (fun a b => ofResult? (a + b)) (· + ·) left right

def sub? : Value → Value → Option Value :=
  calculate? (fun a b => ofResult? (a - b)) (· - ·)

def repeat? (count : Value) : Value → Option Value
  | .text s => count.asCount?.map fun n => ofChars (List.replicate n s.toList).flatten
  | .list items => count.asCount?.map fun n => .list (List.replicate n items).flatten
  | _ => none

/-- The product of two numbers, or a text or a list repeated. -/
def mul? (left right : Value) : Option Value :=
  match left, right with
  | .text _, _ => repeat? right left
  | _, .text _ => repeat? left right
  | .list _, _ => repeat? right left
  | _, .list _ => repeat? left right
  | _, _ => calculate? (fun a b => ofResult? (a * b)) (· * ·) left right

/-- The quotient of two numbers, which is always a double. -/
def div? (left right : Value) : Option Value :=
  match left.operandFloat?, right.operandFloat? with
  | some a, some b => some (.float (a / b))
  | _, _ => none

/-- The whole quotient whose remainder is never negative. -/
def floorDiv? : Value → Value → Option Value :=
  calculate? (fun a b => if b = 0 then none else ofResult? (a / b)) euclideanQuotient

/-- The remainder: never negative for integers, with the sign of the dividend
    for doubles. -/
def rem? : Value → Value → Option Value :=
  calculate? (fun a b => if b = 0 then none else ofResult? (a % b)) remainder

/-- A power of an integer. Exponents have at most 32 bits, and a power of which
    even the number of bits is too great is not computed. -/
def intPower? (base exponent : Int) : Option Value :=
  if exponent < 0 || 4294967296 ≤ exponent then none
  else if base.natAbs ≤ 1 then
    ofResult? (if base = 0 then (if exponent = 0 then 1 else 0)
      else if base = 1 || exponent % 2 = 0 then 1 else -1)
  else if 128 ≤ exponent then none
  else ofResult? (Int.pow base exponent.toNat)

def pow? : Value → Value → Option Value :=
  calculate? intPower? Float.pow

/-- The negative of a number. Truth values have none. -/
def negate? : Value → Option Value
  | .integer n => if minInt128 ≤ n && n ≤ maxInt128 then ofResult? (-n) else none
  | .float x => some (.float (-x))
  | _ => none

def operate? : BinaryOp → Value → Value → Option Value
  | .add => add?
  | .sub => sub?
  | .concat => fun left right => some (ofChars (left.printed ++ right.printed))
  | .mul => mul?
  | .div => div?
  | .floorDiv => floorDiv?
  | .rem => rem?
  | .pow => pow?

def holds? : CompareOp → Value → Value → Option Bool
  | .equal, left, right => some (left.isEqual right)
  | .notEqual, left, right => some (!left.isEqual right)
  | .less, left, right => some (left.order right == .lt)
  | .lessEqual, left, right => some (left.order right != .gt)
  | .greater, left, right => some (left.order right == .gt)
  | .greaterEqual, left, right => some (left.order right != .lt)
  | .member, left, right => left.isIn? right
  | .notMember, left, right => (left.isIn? right).map not

end PromptPacks.Template.Value
