import PromptPacks.Template.Lexer

namespace PromptPacks.Template

/-- A place among the tokens of a template. `last` is the offset of the token
    passed last, where faults are shown; the blocks already defined and the
    surroundings are kept for the rules on blocks. -/
structure Cursor where
  tokens : List (Located Token)
  fault : Option (ParseFault × Option Nat)
  last : Nat
  blocks : List String
  inProcedure : Bool

abbrev Parser := StateT Cursor (Except (Located ParseFault))

namespace Parser

def fail {α : Type} (fault : ParseFault) : Parser α := fun cursor =>
  .error ⟨fault, cursor.last⟩

/-- The next token, which is not passed. A fault of the text comes up only here,
    where its token would be needed. -/
def peek : Parser (Option Token) := fun cursor =>
  match cursor.tokens, cursor.fault with
  | token :: _, _ => .ok (some token.value, cursor)
  | [], some (fault, offset) => .error ⟨fault, offset.getD cursor.last⟩
  | [], none => .ok (none, cursor)

def next : Parser (Option Token) := fun cursor =>
  match cursor.tokens, cursor.fault with
  | token :: rest, _ => .ok (some token.value, { cursor with tokens := rest, last := token.offset })
  | [], some (fault, offset) => .error ⟨fault, offset.getD cursor.last⟩
  | [], none => .ok (none, cursor)

def take (expected : String) : Parser Token := do
  match ← next with
  | some token => pure token
  | none => fail (.unexpectedEnd expected)

def isNext (token : Token) : Parser Bool := do
  return (← peek) == some token

def skip (token : Token) : Parser Bool := do
  if ← isNext token then
    let _ ← next
    return true
  else return false

def skipWord (word : String) : Parser Bool :=
  skip (.name word)

def skipSymbol (sign : Symbol) : Parser Bool :=
  skip (.symbol sign)

/-- Passes the next token, which has to be the given one. -/
def expect (token : Token) : Parser Unit := do
  let found ← take token.label
  if found == token then pure () else fail (.unexpected found.label token.label)

/-- Passes the next token, which has to be the given sign. -/
def expectSymbol (sign : Symbol) : Parser Unit :=
  expect (.symbol sign)

/-- Passes the next token, which has to be the given word. -/
def expectWord (word : String) : Parser Unit := do
  let found ← take word
  if found == .name word then pure () else fail (.unexpected found.label word)

def expectName : Parser String := do
  match ← take "identifier" with
  | .name word => pure word
  | found => fail (.unexpected found.label "identifier")

/-- What a step of a loop has reached. -/
inductive Progress (α β : Type) where
  | again (state : α)
  | done (result : β)

/-- Repeats a step for at most some number of rounds. -/
def rounds {α β : Type} (step : α → Parser (Progress α β)) : Nat → α → Parser β
  | 0, _ => fail .tooDeep
  | n + 1, state => do
    match ← step state with
    | .again state => rounds step n state
    | .done result => pure result

/-- Repeats a step until it is done. Every step that asks for another one passes
    a token, so the tokens that are left bound the rounds. -/
def loop {α β : Type} (step : α → Parser (Progress α β)) (state : α) : Parser β := do
  rounds step ((← get).tokens.length + 1) state

/-- How often the given token stands next to itself here; all of them are
    passed. -/
def countSkipped (token : Token) : Parser Nat :=
  loop (fun n => do
    if ← skip token then return .again (n + 1) else return .done n) 0

/-- Items between commas up to a closing sign. A comma may stand before the
    closing sign. -/
def commaSeparated {α : Type} (closing : Symbol) (item : List α → Parser α) : Parser (List α) :=
  loop (fun items => do
    if ← skipSymbol closing then return .done items.reverse
    if !items.isEmpty then
      expectSymbol .comma
      if ← skipSymbol closing then return .done items.reverse
    return .again ((← item items) :: items)) []

def run {α : Type} (parser : Parser α) (source : Tokens) : Except (Located ParseFault) α :=
  match parser ⟨source.tokens, source.fault, 0, [], false⟩ with
  | .ok (result, _) => .ok result
  | .error fault => .error fault

end Parser

end PromptPacks.Template
