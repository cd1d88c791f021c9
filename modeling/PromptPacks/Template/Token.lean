namespace PromptPacks.Template

/-- The signs of the template language. -/
inductive Symbol where
  | plus
  | minus
  | star
  | slash
  | percent
  | doubleStar
  | doubleSlash
  | tilde
  | dot
  | comma
  | colon
  | pipe
  | assign
  | equal
  | notEqual
  | less
  | lessEqual
  | greater
  | greaterEqual
  | parenOpen
  | parenClose
  | bracketOpen
  | bracketClose
  | braceOpen
  | braceClose
deriving DecidableEq, Repr

/-- The pieces of a template: stretches of text, the delimiters of expressions
    and tags, and the words and signs between these delimiters. -/
inductive Token where
  | text (content : List Char)
  | exprStart
  | exprEnd
  | tagStart
  | tagEnd
  | name (word : String)
  | string (content : String)
  | integer (n : Nat)
  | float (x : Float)
  | symbol (sign : Symbol)
deriving DecidableEq

/-- A thing found in a template, with the byte offset at which it starts. -/
structure Located (α : Type u) where
  value : α
  offset : Nat
deriving DecidableEq, Repr

def Symbol.spelling : Symbol → String
  | .plus => "+"
  | .minus => "-"
  | .star => "*"
  | .slash => "/"
  | .percent => "%"
  | .doubleStar => "**"
  | .doubleSlash => "//"
  | .tilde => "~"
  | .dot => "."
  | .comma => ","
  | .colon => ":"
  | .pipe => "|"
  | .assign => "="
  | .equal => "=="
  | .notEqual => "!="
  | .less => "<"
  | .lessEqual => "<="
  | .greater => ">"
  | .greaterEqual => ">="
  | .parenOpen => "("
  | .parenClose => ")"
  | .bracketOpen => "["
  | .bracketClose => "]"
  | .braceOpen => "\x7b"
  | .braceClose => "\x7d"

/-- What a token is called in messages. The words and texts themselves are not
    shown. -/
def Token.label : Token → String
  | .text _ => "template-data"
  | .exprStart => "start of variable block"
  | .exprEnd => "end of variable block"
  | .tagStart => "start of block"
  | .tagEnd => "end of block"
  | .name _ => "identifier"
  | .string _ => "string"
  | .integer _ => "integer"
  | .float _ => "float"
  | .symbol sign => "\x60" ++ sign.spelling ++ "\x60"

/-- Why a text is no template. -/
inductive ParseFault where
  | unexpectedCharacter
  | unclosedString
  | unclosedComment
  | unclosedRaw
  | trailingUnderscore
  | invalidInteger
  | oversizedInteger
  | invalidFloat
  | invalidEscape
  | unexpectedEnd (expected : String)
  | unexpected (found expected : String)
  | misplaced (found : String)
  | noStatement (found : String)
  | unknownStatement (name : String)
  | reservedTarget (name : String)
  | positionalAfterNamed
  | tooManyArguments
  | tooDeep
  | missingFilter
  | missingCall (found : String)
  | blockInMacro
  | repeatedBlock (name : String)
  | mismatchedBlock (found expected : String)
deriving DecidableEq, Repr

/-- The technical wording of a fault. It is not meant for readers; advice for
    them is chosen by the words that occur in it. -/
def ParseFault.message : ParseFault → String
  | .unexpectedCharacter => "syntax error: unexpected character"
  | .unclosedString => "syntax error: unexpected end of string"
  | .unclosedComment => "syntax error: unexpected end of comment"
  | .unclosedRaw => "syntax error: unexpected end of raw block"
  | .trailingUnderscore => "syntax error: '_' may not occur at end of number"
  | .invalidInteger => "syntax error: invalid integer"
  | .oversizedInteger => "syntax error: invalid integer (too large)"
  | .invalidFloat => "syntax error: invalid float"
  | .invalidEscape => "bad string escape"
  | .unexpectedEnd expected => s!"syntax error: unexpected end of input, expected {expected}"
  | .unexpected found expected => s!"syntax error: unexpected {found}, expected {expected}"
  | .misplaced found => s!"syntax error: unexpected {found}"
  | .noStatement found => s!"syntax error: unknown {found}, expected statement"
  | .unknownStatement name => s!"syntax error: unknown statement {name}"
  | .reservedTarget name => s!"syntax error: cannot assign to reserved variable name {name}"
  | .positionalAfterNamed => "syntax error: non-keyword arg after keyword arg"
  | .tooManyArguments => "syntax error: Too many arguments in function call"
  | .tooDeep => "syntax error: template exceeds maximum recursion limits"
  | .missingFilter => "syntax error: expected a filter"
  | .missingCall found => s!"syntax error: expected call expression in call block, got {found}"
  | .blockInMacro => "syntax error: block tags in macros are not allowed"
  | .repeatedBlock name => s!"syntax error: block '{name}' defined twice"
  | .mismatchedBlock found expected =>
    s!"syntax error: mismatching name on block. Got \x60{found}\x60, expected \x60{expected}\x60"

end PromptPacks.Template
