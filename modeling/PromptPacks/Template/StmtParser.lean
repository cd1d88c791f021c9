import PromptPacks.Template.ExprParser

namespace PromptPacks.Template

open PromptPacks.Template.Parser

/-- The readers for what stands inside a statement: its expressions and the
    statements of its bodies. -/
structure Inner extends Nested where
  stmt : Parser Stmt

/-- The names that no statement may give a value to. -/
def reservedTargets : List String :=
  ["true", "True", "false", "False", "none", "None", "loop", "self"]

def targetName : Parser String := do
  let name ← expectName
  if reservedTargets.contains name then fail (.reservedTarget name) else return name

/-- A name that gets a value, or a property of one. -/
def propertyTarget : Parser Target := do
  let name ← targetName
  loop (fun target => do
    if ← skipSymbol .dot then return .again (.property target (← expectName))
    else return .done target) (.variable name)

def endsTargets : Token → Bool
  | .symbol .parenClose | .exprEnd | .tagEnd | .name "in" => true
  | _ => false

/-- Targets between commas. A single one without a comma is no tuple. -/
def targetsOf (item : Parser Target) : Parser Target :=
  loop (fun earlier => do
    if !earlier.isEmpty then expectSymbol .comma
    if ((← peek).map endsTargets).getD false then return .done (.tuple earlier.reverse)
    let target ← item
    if ← isNext (.symbol .comma) then return .again (target :: earlier)
    return .done (if earlier.isEmpty then target else .tuple (target :: earlier).reverse)) []

/-- The targets of a loop, with parentheses nested at most `bound` times. -/
def targetWithin : Nat → Parser Target
  | 0 => fail .tooDeep
  | bound + 1 => targetsOf do
    if ← skipSymbol .parenOpen then
      let target ← targetWithin bound
      expectSymbol .parenClose
      return target
    else .variable <$> targetName

/-- The targets of a loop. Every parenthesis is a token, so the tokens that are
    left bound how often they nest. -/
def loopTarget : Parser Target := do
  targetWithin ((← get).tokens.length + 1)

namespace Inner

/-- A piece of a body, or the end of the body before one of the given words. -/
def piece (inner : Inner) (stops : List String) (earlier : List Stmt) :
    Parser (Progress (List Stmt) (List Stmt)) := do
  match ← next with
  | none => return .done earlier.reverse
  | some (.text content) => return .again (.text content :: earlier)
  | some .exprStart =>
    let value ← inner.expr
    expect .exprEnd
    return .again (.output value :: earlier)
  | some .tagStart =>
    match ← peek with
    | none => fail (.unexpectedEnd "keyword")
    | some (.name word) => if stops.contains word then return .done earlier.reverse
    | some _ => pure ()
    let stmt ← inner.stmt
    expect .tagEnd
    return .again (stmt :: earlier)
  | some found => fail (.misplaced found.label)

/-- Text, expressions and statements up to a tag with one of the given words,
    which is not passed, or up to the end. -/
def bodyUntil (inner : Inner) (stops : List String) : Parser (List Stmt) :=
  loop (inner.piece stops) []

/-- The body after a tag, through the word that ends it. -/
def bodyThrough (inner : Inner) (stop : String) : Parser (List Stmt) := do
  expect .tagEnd
  let body ← inner.bodyUntil [stop]
  let _ ← next
  return body

def forLoop (inner : Inner) : Parser Stmt := do
  let target ← loopTarget
  expectWord "in"
  let source ← inner.unconditional
  let condition ← if ← skipWord "if" then some <$> inner.expr else pure none
  let recursive ← skipWord "recursive"
  expect .tagEnd
  let body ← inner.bodyUntil ["endfor", "else"]
  if ← skipWord "else" then
    return .forLoop target source condition recursive body (← inner.bodyThrough "endfor")
  let _ ← next
  return .forLoop target source condition recursive body []

/-- The branches of a condition. Those that are read already come last first. -/
def branches (inner : Inner) (earlier : List (Expr × List Stmt)) :
    Parser (Progress (List (Expr × List Stmt)) (List (Expr × List Stmt) × List Stmt)) := do
  let test ← inner.unconditional
  expect .tagEnd
  let body ← inner.bodyUntil ["endif", "else", "elif"]
  match ← next with
  | some (.name "else") => return .done ((test, body) :: earlier, ← inner.bodyThrough "endif")
  | some (.name "elif") => return .again ((test, body) :: earlier)
  | _ => return .done ((test, body) :: earlier, [])

/-- A condition. A further branch is a condition in place of the other case. -/
def conditional (inner : Inner) : Parser Stmt := do
  let (reversed, otherwise) ← loop inner.branches []
  match reversed with
  | [] => fail .tooDeep
  | (test, body) :: earlier =>
    return earlier.foldl (fun stmt (test, body) => .conditional test body [stmt])
      (.conditional test body otherwise)

/-- One filter after another, up to the end of the tag. -/
def filterChain (inner : Inner) : Parser Expr := do
  let chain ← loop (fun (chain : Option Expr) => do
    if ← isNext .tagEnd then return .done chain
    if chain.isSome then expectSymbol .pipe
    let name ← Nested.dottedName
    let filter := Expr.filter chain name (← inner.optionalArguments inner.unconditional)
    return .again (some filter)) none
  match chain with
  | some filter => return filter
  | none => fail .missingFilter

/-- The value of an assignment. Commas make it a list. -/
def assignedValue (inner : Inner) : Parser Expr := do
  let first ← inner.expr
  if ← isNext (.symbol .comma) then
    .list <$> loop (fun items => do
      if ← skipSymbol .comma then
        if ← isNext .tagEnd then return .done items.reverse
        return .again ((← inner.expr) :: items)
      else return .done items.reverse) [first]
  else return first

/-- The targets of an assignment that are not in parentheses. -/
def assignedTarget : Parser Target := do
  let first ← propertyTarget
  if ← isNext (.symbol .comma) then
    .tuple <$> loop (fun items => do
      if ← skipSymbol .comma then
        if ← isNext (.symbol .assign) then return .done items.reverse
        return .again ((← propertyTarget) :: items)
      else return .done items.reverse) [first]
  else return first

def assignTo (inner : Inner) (target : Target) : Parser Stmt := do
  expectSymbol .assign
  return .assign target (← inner.assignedValue)

/-- An assignment of a value, or of the text of a body. -/
def assignment (inner : Inner) : Parser Stmt := do
  if ← skipSymbol .parenOpen then
    let target ← loopTarget
    expectSymbol .parenClose
    inner.assignTo target
  else
    let target ← assignedTarget
    if ← isNext .tagEnd then
      return .capture target none (← inner.bodyThrough "endset")
    else if ← skipSymbol .pipe then
      let filter ← inner.filterChain
      return .capture target (some filter) (← inner.bodyThrough "endset")
    else inner.assignTo target

def filterBlock (inner : Inner) : Parser Stmt := do
  let filter ← inner.filterChain
  return .filtered filter (← inner.bodyThrough "endfilter")

def scopedBlock (inner : Inner) : Parser Stmt := do
  let assignments ← loop (fun earlier => do
    if ← isNext .tagEnd then return .done earlier.reverse
    if !earlier.isEmpty then expectSymbol .comma
    let target ←
      if ← skipSymbol .parenOpen then do
        let target ← loopTarget
        expectSymbol .parenClose
        pure target
      else .variable <$> targetName
    expectSymbol .assign
    return .again ((target, ← inner.expr) :: earlier)) []
  return .scoped assignments (← inner.bodyThrough "endwith")

def autoescapeBlock (inner : Inner) : Parser Stmt := do
  let enabled ← inner.expr
  return .autoescape enabled (← inner.bodyThrough "endautoescape")

/-- The name after the end of a block, which may be left out. -/
def blockEnd (name : String) : Parser Unit := do
  match ← peek with
  | some (.name found) =>
    if found == name then
      let _ ← next
    else fail (.mismatchedBlock found name)
  | _ => pure ()

/-- A named block. No two blocks have the same name, and none stands inside a
    procedure. -/
def namedBlock (inner : Inner) : Parser Stmt := do
  if (← get).inProcedure then fail .blockInMacro
  let name ← expectName
  if (← get).blocks.contains name then fail (.repeatedBlock name)
  modify fun cursor => { cursor with blocks := name :: cursor.blocks }
  let body ← inner.bodyThrough "endblock"
  blockEnd name
  return .block name body

/-- The words on the names that an included template sees. They change nothing. -/
def contextWords : Parser Unit := do
  let without ← skipWord "without"
  let found ← if without then pure true else skipWord "with"
  if found then expectWord "context"

def inclusion (inner : Inner) : Parser Stmt := do
  let source ← inner.expr
  contextWords
  if ← skipWord "ignore" then
    expectWord "missing"
    contextWords
    return .including source true
  else return .including source false

/-- A template whose procedures are taken over under one name. -/
def importing (inner : Inner) : Parser Stmt := do
  let source ← inner.expr
  expectWord "as"
  return .importing source (← inner.expr)

/-- Single procedures that are taken over from a template. -/
def importingFrom (inner : Inner) : Parser Stmt := do
  let source ← inner.expr
  expectWord "import"
  let names ← loop (fun earlier => do
    if ← isNext .tagEnd then return .done earlier.reverse
    if !earlier.isEmpty then expectSymbol .comma
    if ← isNext .tagEnd then return .done earlier.reverse
    let name ← targetName
    let renamed ← if ← skipWord "as" then some <$> targetName else pure none
    return .again ((name, renamed) :: earlier)) []
  return .importingFrom source names

/-- The parameters of a procedure after their opening parenthesis. From the
    first default on all parameters need one. -/
def parameters (inner : Inner) : Parser (List String × List Expr) :=
  loop (fun (names, defaults) => do
    let done := Progress.done (names.reverse, defaults.reverse)
    if ← skipSymbol .parenClose then return done
    if !names.isEmpty then
      expectSymbol .comma
      if ← skipSymbol .parenClose then return done
    let name ← targetName
    if ← skipSymbol .assign then return .again (name :: names, (← inner.expr) :: defaults)
    if !defaults.isEmpty then expectSymbol .assign
    return .again (name :: names, defaults)) ([], [])

def procedureBody (inner : Inner) (stop : String) : Parser (List Stmt) := do
  expect .tagEnd
  let outside := (← get).inProcedure
  modify fun cursor => { cursor with inProcedure := true }
  let body ← inner.bodyUntil [stop]
  modify fun cursor => { cursor with inProcedure := outside }
  let _ ← next
  return body

def procedure (inner : Inner) : Parser Stmt := do
  let name ← expectName
  expectSymbol .parenOpen
  let (names, defaults) ← inner.parameters
  return .procedure name names defaults (← inner.procedureBody "endmacro")

def callExpr (inner : Inner) : Parser Expr := do
  let value ← inner.expr
  match value with
  | .call .. => return value
  | _ => fail (.missingCall value.label)

def callBlock (inner : Inner) : Parser Stmt := do
  let (names, defaults) ←
    if ← skipSymbol .parenOpen then inner.parameters else pure ([], [])
  let call ← inner.callExpr
  return .callBlock names defaults call (← inner.procedureBody "endcall")

def statement (inner : Inner) : Parser Stmt := do
  match ← take "block keyword" with
  | .name word =>
    match word with
    | "for" => inner.forLoop
    | "if" => inner.conditional
    | "set" => inner.assignment
    | "filter" => inner.filterBlock
    | "with" => inner.scopedBlock
    | "autoescape" => inner.autoescapeBlock
    | "block" => inner.namedBlock
    | "extends" => .extending <$> inner.expr
    | "include" => inner.inclusion
    | "import" => inner.importing
    | "from" => inner.importingFrom
    | "macro" => inner.procedure
    | "call" => inner.callBlock
    | "do" => .perform <$> inner.callExpr
    | _ => fail (.unknownStatement word)
  | found => fail (.noStatement found.label)

end Inner

/-- The readers for what stands inside a statement or an expression, where a
    number of further levels may be opened. -/
def innerWithin : Nat → Inner
  | 0 => ⟨⟨fail .tooDeep, fail .tooDeep⟩, fail .tooDeep⟩
  | levels + 1 =>
    let inner := innerWithin levels
    ⟨⟨inner.toNested.conditional, inner.toNested.innermost⟩, inner.statement⟩

/-- The most statements, expressions and innermost parts that may be open at one
    time. -/
def maxDepth : Nat := 150

/-- The statements of a template, or the first fault in it. -/
def parse (source : List Char) : Except (Located ParseFault) (List Stmt) :=
  Parser.run ((innerWithin maxDepth).bodyUntil []) (tokensOf source)

end PromptPacks.Template
