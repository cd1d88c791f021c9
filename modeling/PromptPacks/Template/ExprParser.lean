import PromptPacks.Template.Cursor
import PromptPacks.Template.Tree

namespace PromptPacks.Template

open PromptPacks.Template.Parser

/-- The readers for what is nested one level deeper: whole expressions, and the
    innermost parts of expressions. -/
structure Nested where
  expr : Parser Expr
  primary : Parser Expr

namespace Nested

def maxArguments : Nat := 2000

/-- One argument of a call. After a named argument only named ones and spread
    lists may follow. -/
def argument (nested : Nested) (earlier : List Argument)
    (keywordValue : Parser Expr) : Parser Argument := do
  if ← skipSymbol .doubleStar then return .spreadNamed (← nested.expr)
  if ← skipSymbol .star then return .spread (← nested.expr)
  let value ← nested.expr
  let hasNamed := earlier.any fun
    | .named .. | .spreadNamed _ => true
    | _ => false
  match value with
  | .variable name =>
    if ← skipSymbol .assign then return .named name (← keywordValue)
    else if hasNamed then fail .positionalAfterNamed
    else return .positional value
  | _ => if hasNamed then fail .positionalAfterNamed else return .positional value

/-- The arguments of a call, from the opening parenthesis on. -/
def arguments (nested : Nested) (keywordValue : Parser Expr) : Parser (List Argument) := do
  expectSymbol .parenOpen
  commaSeparated .parenClose fun earlier => do
    let argument ← nested.argument earlier keywordValue
    if maxArguments ≤ earlier.length then fail .tooManyArguments else return argument

def sliceBound (nested : Nested) (stops : List Symbol) : Parser (Option Expr) := do
  match ← peek with
  | some (.symbol sign) => if stops.contains sign then return none else some <$> nested.expr
  | _ => some <$> nested.expr

/-- An index or a slice, after its opening bracket. -/
def subscript (nested : Nested) (subject : Expr) : Parser Expr := do
  let start ← nested.sliceBound [.colon]
  if ← skipSymbol .colon then
    let stop ← nested.sliceBound [.bracketClose, .colon]
    let step ←
      if ← skipSymbol .colon then nested.sliceBound [.bracketClose] else pure none
    expectSymbol .bracketClose
    return .slice subject start stop step
  else
    expectSymbol .bracketClose
    match start with
    | some index => return .item subject index
    | none => fail (.misplaced (Token.label (.symbol .bracketClose)))

/-- A property, after its point: a name, or a number for an index. -/
def property (subject : Expr) : Parser Expr := do
  match ← take "identifier or integer" with
  | .name name => return .property subject name
  | .integer n => return .item subject (.literal (.integer n))
  | found => fail (.unexpected found.label "identifier or integer")

/-- The properties, subscripts and calls after an expression. -/
def postfixed (nested : Nested) (keywordValue : Parser Expr) (subject : Expr) : Parser Expr :=
  loop (fun subject => do
    match ← peek with
    | some (.symbol .dot) =>
      let _ ← next
      return .again (← property subject)
    | some (.symbol .bracketOpen) =>
      let _ ← next
      return .again (← nested.subscript subject)
    | some (.symbol .parenOpen) =>
      return .again (.call subject (← nested.arguments keywordValue))
    | _ => return .done subject) subject

def signed (nested : Nested) : Parser Expr := do
  let signs ← countSkipped (.symbol .minus)
  let operand ← nested.primary
  return Nat.repeat .negate signs operand

/-- The arguments in parentheses, where there are any. -/
def optionalArguments (nested : Nested) (keywordValue : Parser Expr) : Parser (List Argument) := do
  if ← isNext (.symbol .parenOpen) then nested.arguments keywordValue else return []

/-- The name of a filter or a test. It may have several parts with points
    between them. -/
def dottedName : Parser String := do
  let first ← expectName
  loop (fun name => do
    if ← skipSymbol .dot then return .again (name ++ "." ++ (← expectName))
    else return .done name) first

/-- Whether a token can start the argument of a test that is written without
    parentheses. -/
def startsTestArgument : Token → Bool
  | .name word => !(["and", "or", "else", "is"].contains word)
  | .string _ | .integer _ | .float _ => true
  | .symbol sign => [.plus, .minus, .bracketOpen, .braceOpen].contains sign
  | _ => false

/-- The arguments of a test: in parentheses, or one argument without them. -/
def testArguments (nested : Nested) (keywordValue : Parser Expr) : Parser (List Argument) := do
  match ← peek with
  | some (.symbol .parenOpen) => nested.arguments keywordValue
  | some token =>
    if startsTestArgument token then
      return [.positional (← nested.postfixed keywordValue (← nested.signed))]
    else return []
  | none => return []

def filtered (nested : Nested) (keywordValue : Parser Expr) (subject : Expr) : Parser Expr :=
  loop (fun subject => do
    if ← skipSymbol .pipe then
      let name ← dottedName
      return .again (.filter (some subject) name (← nested.optionalArguments keywordValue))
    else if ← skipWord "is" then
      let negated ← skipWord "not"
      let name ← dottedName
      let test := Expr.test subject name (← nested.testArguments keywordValue)
      return .again (if negated then .not test else test)
    else return .done subject) subject

/-- Operands with operators of one strength between them, which group to the
    left. -/
def leftGrouped (operand : Parser Expr) (operator? : Token → Option (Expr → Expr → Expr)) :
    Parser Expr := do
  let first ← operand
  loop (fun left => do
    match (← peek).bind operator? with
    | some combine =>
      let _ ← next
      return .again (combine left (← operand))
    | none => return .done left) first

def powerOp? : Token → Option (Expr → Expr → Expr)
  | .symbol .doubleStar => some (.binary .pow)
  | _ => none

def productOp? : Token → Option (Expr → Expr → Expr)
  | .symbol .star => some (.binary .mul)
  | .symbol .slash => some (.binary .div)
  | .symbol .doubleSlash => some (.binary .floorDiv)
  | .symbol .percent => some (.binary .rem)
  | _ => none

def joinOp? : Token → Option (Expr → Expr → Expr)
  | .symbol .tilde => some (.binary .concat)
  | _ => none

def sumOp? : Token → Option (Expr → Expr → Expr)
  | .symbol .plus => some (.binary .add)
  | .symbol .minus => some (.binary .sub)
  | _ => none

/-- The operators of comparisons but for the one of two words. -/
def compareOp? : Token → Option CompareOp
  | .symbol .equal => some .equal
  | .symbol .notEqual => some .notEqual
  | .symbol .less => some .less
  | .symbol .lessEqual => some .lessEqual
  | .symbol .greater => some .greater
  | .symbol .greaterEqual => some .greaterEqual
  | .name "in" => some .member
  | _ => none

/-- The next operator of a comparison, which is passed. -/
def nextCompareOp : Parser (Option CompareOp) := do
  match ← peek with
  | none => return none
  | some token =>
    match compareOp? token with
    | some op =>
      let _ ← next
      return some op
    | none =>
      if ← skipWord "not" then
        expectWord "in"
        return some .notMember
      else return none

/-- The operator `and`. -/
def andOp? : Token → Option (Expr → Expr → Expr)
  | .name "and" => some .both
  | _ => none

/-- The operator `or`. -/
def orOp? : Token → Option (Expr → Expr → Expr)
  | .name "or" => some .either
  | _ => none

def comparison (operand : Parser Expr) : Parser Expr := do
  let first ← operand
  let rest ← loop (fun rest => do
    match ← nextCompareOp with
    | some op => return .again ((op, ← operand) :: rest)
    | none => return .done rest.reverse) []
  return if rest.isEmpty then first else .compare first rest

/-- Everything looser than filters, given the reader for an operand with its
    filters. -/
def operators (operand : Parser Expr) : Parser Expr :=
  let sums :=
    leftGrouped (leftGrouped (leftGrouped (leftGrouped operand powerOp?) productOp?) joinOp?) sumOp?
  let negations := do
    let count ← countSkipped (.name "not")
    return Nat.repeat .not count (← comparison sums)
  leftGrouped (leftGrouped negations andOp?) orOp?

/-- An operand with its signs, subscripts, calls, filters and tests. The values
    of named arguments are read by `keywordValue`. -/
def operandWith (nested : Nested) (keywordValue : Parser Expr) : Parser Expr := do
  nested.filtered keywordValue (← nested.postfixed keywordValue (← nested.signed))

/-- An expression without an inline condition, whose named arguments nest at
    most `bound` times. -/
def unconditionalWithin (nested : Nested) : Nat → Parser Expr
  | 0 => fail .tooDeep
  | bound + 1 => operators (nested.operandWith (nested.unconditionalWithin bound))

/-- An expression without an inline condition. The value of a named argument is
    one, too; as it follows two tokens of its own, the tokens that are left
    bound how often they nest. -/
def unconditional (nested : Nested) : Parser Expr := do
  nested.unconditionalWithin ((← get).tokens.length + 1)

/-- The rest of a list in parentheses after its first item, from the comma on. -/
def tupleRest (nested : Nested) (first : Expr) : Parser Expr :=
  loop (fun items => do
    if ← skipSymbol .parenClose then return .done (.list items.reverse)
    expectSymbol .comma
    if ← skipSymbol .parenClose then return .done (.list items.reverse)
    return .again ((← nested.expr) :: items)) [first]

/-- What stands in parentheses, after the opening one: an expression, or a list
    if there are commas or nothing at all. -/
def parenthesized (nested : Nested) : Parser Expr := do
  if ← skipSymbol .parenClose then return .list []
  let first ← nested.expr
  if ← isNext (.symbol .comma) then nested.tupleRest first
  else
    expectSymbol .parenClose
    return first

/-- An entry of a map: a key, a colon and a value. -/
def mapEntry (nested : Nested) : Parser (Expr × Expr) := do
  let key ← nested.expr
  expectSymbol .colon
  return (key, ← nested.expr)

/-- Strings that stand next to each other form one string. -/
def joinedString (first : String) : Parser String :=
  loop (fun content => do
    match ← peek with
    | some (.string more) =>
      let _ ← next
      return .again (content ++ more)
    | _ => return .done content) first

/-- The innermost part of an expression: a literal, a name, or something in
    brackets. -/
def innermost (nested : Nested) : Parser Expr := do
  match ← take "expression" with
  | .name word =>
    if word == "true" || word == "True" then return .literal (.bool true)
    else if word == "false" || word == "False" then return .literal (.bool false)
    else if word == "none" || word == "None" then return .literal .none
    else return .variable word
  | .string content => return .literal (.text (← joinedString content))
  | .integer n => return .literal (.integer n)
  | .float x => return .literal (.float x)
  | .symbol .parenOpen => nested.parenthesized
  | .symbol .bracketOpen => return .list (← commaSeparated .bracketClose fun _ => nested.expr)
  | .symbol .braceOpen => return .map (← commaSeparated .braceClose fun _ => nested.mapEntry)
  | found => fail (.misplaced found.label)

/-- The values before the last `if` of an expression. -/
def conditionalValue (nested : Nested) (value : Expr) : Parser (Progress Expr Expr) := do
  if ← skipWord "if" then
    let test ← nested.unconditional
    let otherwise ← if ← skipWord "else" then some <$> nested.expr else pure none
    return .again (.conditional value test otherwise)
  else return .done value

/-- A whole expression: its value may be chosen by inline conditions. -/
def conditional (nested : Nested) : Parser Expr := do
  loop nested.conditionalValue (← nested.unconditional)

end Nested

end PromptPacks.Template
