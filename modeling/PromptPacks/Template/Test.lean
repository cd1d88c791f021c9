import PromptPacks.Template.Filter

namespace PromptPacks.Template.Test

open PromptPacks.Number PromptPacks.Text

/-- The filters that exist besides those a template may use. -/
def furtherFilters : List String :=
  ["attr", "batch", "bool", "chain", "count", "d", "dictsort", "e", "escape", "format", "groupby",
    "items", "lines", "map", "max", "min", "pprint", "reject", "rejectattr", "safe", "select",
    "selectattr", "slice", "split", "string", "sum", "zip"]

def known : List String :=
  ["!=", "<", "<=", "==", ">", ">=", "boolean", "defined", "divisibleby", "endingwith", "eq",
    "equalto", "escaped", "even", "false", "filter", "float", "ge", "greaterthan", "gt", "in",
    "int", "integer", "iterable", "le", "lessthan", "lower", "lt", "mapping", "ne", "none",
    "number", "odd", "safe", "sameas", "sequence", "startingwith", "string", "test", "true",
    "undefined", "upper"]

def isInteger : Value → Bool
  | .integer _ => true
  | _ => false

def isFloat : Value → Bool
  | .float _ => true
  | _ => false

def isBool (expected : Bool) : Value → Bool
  | .bool b => b == expected
  | _ => false

/-- Whether a value counts as a whole number with the given remainder by two. -/
def hasParity (odd : Bool) (value : Value) : Bool :=
  match value.asWholeBetween? Value.minInt128 Value.maxInt128 with
  | some n => (n % 2 == 1) == odd
  | none => false

/-- Whether a number divides another one. Zero divides nothing. -/
def isDivisible (value divisor : Value) : Bool :=
  match Value.exactPair? value divisor with
  | some (.integers a b) => b != 0 && a % b == 0
  | some (.floats a b) => remainder a b == 0.0
  | none => false

/-- Whether two values are one and the same scalar. -/
def isSame (value other : Value) : Bool :=
  value.kind == other.kind && value.kind.rank < Value.Kind.list.rank && value.isEqual other

def ofValue? (name : String) : Option (Value → Option Bool) :=
  match name with
  | "defined" => some fun value => some (value.kind != .undefined)
  | "undefined" => some fun value => some (value.kind == .undefined)
  | "none" => some fun value => some (value.kind == .null)
  | "boolean" => some fun value => some (value.kind == .bool)
  | "number" => some fun value => some (value.kind == .number)
  | "integer" | "int" => some fun value => some (isInteger value)
  | "float" => some fun value => some (isFloat value)
  | "string" => some fun value => some (value.kind == .text)
  | "sequence" => some fun value => some (value.kind == .list)
  | "iterable" => some fun value => some value.items?.isSome
  | "mapping" => some fun value => some (value.kind == .map)
  | "odd" => some fun value => some (hasParity true value)
  | "even" => some fun value => some (hasParity false value)
  | "true" => some fun value => some (isBool true value)
  | "false" => some fun value => some (isBool false value)
  | "safe" | "escaped" => some fun _ => some false
  | "lower" => some fun value => (Arguments.asText? value).map fun s => s.toList.all isLowerCase
  | "upper" => some fun value => (Arguments.asText? value).map fun s => s.toList.all isUpperCase
  | "filter" => some fun value => (Arguments.asText? value).map fun s =>
    Filter.known.contains s || furtherFilters.contains s
  | "test" => some fun value => (Arguments.asText? value).map known.contains
  | _ => none

def ofPair? (name : String) : Option (Value → Value → Option Bool) :=
  match name with
  | "eq" | "equalto" | "==" => some (Value.holds? .equal)
  | "ne" | "!=" => some (Value.holds? .notEqual)
  | "lt" | "lessthan" | "<" => some (Value.holds? .less)
  | "le" | "<=" => some (Value.holds? .lessEqual)
  | "gt" | "greaterthan" | ">" => some (Value.holds? .greater)
  | "ge" | ">=" => some (Value.holds? .greaterEqual)
  | "in" => some (Value.holds? .member)
  | "divisibleby" => some fun value divisor => some (isDivisible value divisor)
  | "sameas" => some fun value other => some (isSame value other)
  | "startingwith" => some fun value start => some (start.printed.isPrefixOf value.printed)
  | "endingwith" => some fun value tail => some (tail.printed.isSuffixOf value.printed)
  | _ => none

/-- The result of a test. There is none for an unknown test and for values or
    arguments that it does not take. -/
def result? (name : String) (arguments : Arguments) (value : Value) : Option Bool :=
  match arguments.values with
  | [] => (ofValue? name).bind (· value)
  | [other] => (ofPair? name).bind (· value other)
  | _ => none

end PromptPacks.Template.Test
