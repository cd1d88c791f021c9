namespace PromptPacks.Template

/-- A value that is written down in a template. -/
inductive Literal where
  | none
  | bool (b : Bool)
  | integer (n : Nat)
  | float (x : Float)
  | text (s : String)
deriving DecidableEq

/-- The operators that compute a value from two others. -/
inductive BinaryOp where
  | add
  | sub
  | concat
  | mul
  | div
  | floorDiv
  | rem
  | pow
deriving DecidableEq, Repr

/-- The operators that compare two values. -/
inductive CompareOp where
  | equal
  | notEqual
  | less
  | lessEqual
  | greater
  | greaterEqual
  | member
  | notMember
deriving DecidableEq, Repr

mutual

/-- An expression. -/
inductive Expr where
  | variable (name : String)
  | literal (value : Literal)
  | list (items : List Expr)
  | map (entries : List (Expr × Expr))
  | negate (operand : Expr)
  | not (operand : Expr)
  | both (left right : Expr)
  | either (left right : Expr)
  | binary (op : BinaryOp) (left right : Expr)
  /-- A chain of comparisons, each of its operands compared with the next one. -/
  | compare (first : Expr) (rest : List (CompareOp × Expr))
  | conditional (value test : Expr) (otherwise : Option Expr)
  | property (subject : Expr) (name : String)
  | item (subject index : Expr)
  | slice (subject : Expr) (start stop step : Option Expr)
  | call (callee : Expr) (arguments : List Argument)
  /-- A filter. Without a subject it applies to the text of the block that it belongs to. -/
  | filter (subject : Option Expr) (name : String) (arguments : List Argument)
  | test (subject : Expr) (name : String) (arguments : List Argument)

/-- An argument of a call, a filter or a test. -/
inductive Argument where
  | positional (value : Expr)
  | named (name : String) (value : Expr)
  | spread (values : Expr)
  | spreadNamed (values : Expr)

end

/-- What an assignment or a loop gives a value to. -/
inductive Target where
  | variable (name : String)
  | property (subject : Target) (name : String)
  | tuple (items : List Target)

/-- A statement, or a piece of text. -/
inductive Stmt where
  | text (content : List Char)
  | output (value : Expr)
  | forLoop (target : Target) (source : Expr) (condition : Option Expr) (recursive : Bool)
      (body otherwise : List Stmt)
  | conditional (test : Expr) (body otherwise : List Stmt)
  | assign (target : Target) (value : Expr)
  | capture (target : Target) (filter : Option Expr) (body : List Stmt)
  | filtered (filter : Expr) (body : List Stmt)
  | scoped (assignments : List (Target × Expr)) (body : List Stmt)
  | autoescape (enabled : Expr) (body : List Stmt)
  | block (name : String) (body : List Stmt)
  | extending (parent : Expr)
  | including (source : Expr) (ignoreMissing : Bool)
  | importing (source : Expr) (target : Expr)
  | importingFrom (source : Expr) (names : List (String × Option String))
  | procedure (name : String) (parameters : List String) (defaults : List Expr)
      (body : List Stmt)
  | callBlock (parameters : List String) (defaults : List Expr) (call : Expr) (body : List Stmt)
  | perform (call : Expr)

def Expr.label : Expr → String
  | .variable _ => "variable"
  | .literal _ => "constant"
  | .list _ => "list literal"
  | .map _ => "map literal"
  | .negate _ | .not _ => "unary operator"
  | .both .. | .either .. | .binary .. | .compare .. => "binary operator"
  | .conditional .. => "if expression"
  | .property .. => "attribute lookup"
  | .item .. => "item lookup"
  | .slice .. => "slice"
  | .call .. => "call"
  | .filter .. => "filter expression"
  | .test .. => "test expression"

end PromptPacks.Template
