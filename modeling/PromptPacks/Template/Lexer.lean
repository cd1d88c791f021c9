import PromptPacks.Template.Escape
import PromptPacks.Template.Numeral
import PromptPacks.Text.Blank
import PromptPacks.Text.Position

namespace PromptPacks.Template

open PromptPacks.Text

/-- The two kinds of brackets around what is not text. -/
inductive Delimiter where
  | expr
  | tag
deriving DecidableEq

/-- The characters that end an expression or a tag. -/
def Delimiter.closing : Delimiter → List Char
  | .expr => ['\x7d', '\x7d']
  | .tag => ['%', '\x7d']

/-- The token for the end of an expression or a tag. -/
def Delimiter.endToken : Delimiter → Token
  | .expr => .exprEnd
  | .tag => .tagEnd

/-- Where the reading of a template stands: in text, or between delimiters with
    a number of brackets open. -/
inductive Mode where
  | text
  | inside (kind : Delimiter) (depth : Int)
deriving DecidableEq

/-- One step of reading: it passes `extra` characters beyond the first and may
    give a token that starts after `start` of them, or it stops at a fault. A
    fault without a position is placed where the reader of the tokens stands. -/
inductive Step where
  | pass (token : Option (Nat × Token)) (extra : Nat) (mode : Mode)
  | stop (fault : ParseFault) (position : Option Nat)

/-- Whether an opening delimiter stands at the start of a text. -/
def opens : List Char → Bool
  | '\x7b' :: c :: _ => c == '\x7b' || c == '%' || c == '#'
  | _ => false

/-- The number of characters before the next opening delimiter. -/
def leadLength : List Char → Nat
  | [] => 0
  | c :: rest => if opens (c :: rest) then 0 else leadLength rest + 1

/-- The number of characters of a sign for white space, where there may be one. -/
def signLength : List Char → Nat
  | c :: _ => if c == '-' || c == '+' then 1 else 0
  | [] => 0

/-- The number of white-space characters at the start of a text if a minus sign
    asks for their removal. -/
def removedLength (sign : Option Char) (cs : List Char) : Nat :=
  if sign == some '-' then (cs.takeWhile isBlank).length else 0

/-- A word between ASCII white space at the start of a text: the number of all
    these characters. -/
def spacedWord? (word : List Char) (cs : List Char) : Option Nat :=
  let space := (cs.takeWhile isAsciiBlank).length
  let afterSpace := cs.drop space
  if word.isPrefixOf afterSpace then
    some (space + word.length + ((afterSpace.drop word.length).takeWhile isAsciiBlank).length)
  else none

/-- A tag that holds one word only, after its opening delimiter: the number of
    its characters and the sign before its end. -/
def plainTag? (word : List Char) (cs : List Char) : Option (Nat × Option Char) :=
  match spacedWord? word (cs.drop (signLength cs)) with
  | none => none
  | some length =>
    let afterWord := cs.drop (signLength cs + length)
    let sign := signLength afterWord
    if Delimiter.tag.closing.isPrefixOf (afterWord.drop sign) then
      some (signLength cs + length + sign + 2, if sign = 1 then afterWord.head? else none)
    else none

/-- The end of a raw block: the number of characters before its tag, the number
    of those of the tag, the sign after the tag's opening and the one before its
    end. -/
structure RawEnd where
  bodyLength : Nat
  tagLength : Nat
  openingSign : Option Char
  closingSign : Option Char

/-- The end of a raw block that stands at the start of a text. -/
def rawEndHere? : List Char → Option RawEnd
  | '\x7b' :: '%' :: inner =>
    match plainTag? "endraw".toList inner with
    | some (length, sign) => some ⟨0, length + 2, inner.head?, sign⟩
    | none => none
  | _ => none

def rawEnd? : List Char → Option RawEnd
  | [] => none
  | c :: rest =>
    match rawEndHere? (c :: rest) with
    | some ending => some ending
    | none =>
      (rawEnd? rest).map fun ending => { ending with bodyLength := ending.bodyLength + 1 }

/-- A raw block, `start` characters after its opening: its text is passed on as
    it is, less the white space that signs remove. -/
def rawStep (cs : List Char) (start : Nat) (sign : Option Char) : Step :=
  let body := cs.drop start
  match rawEnd? body with
  | none => .stop .unclosedRaw (some cs.length)
  | some ending =>
    let content := body.take ending.bodyLength
    let content := content.drop (removedLength sign content)
    let content := if ending.openingSign == some '-' then trimEnd content else content
    let passed := start + ending.bodyLength + ending.tagLength
    .pass (some (start, .text content))
      (passed + removedLength ending.closingSign (cs.drop passed) - 1) .text

/-- The number of characters before the end of a comment. -/
def commentLength? : List Char → Option Nat
  | [] => none
  | '#' :: '\x7d' :: _ => some 0
  | _ :: rest => (commentLength? rest).map (· + 1)

def commentStep (cs : List Char) : Step :=
  let body := cs.drop 2
  match commentLength? body with
  | none => .stop .unclosedComment (some cs.length)
  | some length =>
    let passed := length + 4
    let sign := (body.take length).getLast?
    .pass none (passed + removedLength sign (cs.drop passed) - 1) .text

def openingStep (cs : List Char) : Step :=
  match cs with
  | _ :: '#' :: _ => commentStep cs
  | _ :: '%' :: inner =>
    match plainTag? "raw".toList inner with
    | some (length, sign) => rawStep cs (length + 2) sign
    | none => .pass (some (0, .tagStart)) (1 + signLength inner) (.inside .tag 0)
  | _ => .pass (some (0, .exprStart)) (1 + signLength (cs.drop 2)) (.inside .expr 0)

/-- The step in text: the text up to the next opening delimiter is one token,
    less the white space before a minus sign. Without such text the delimiter
    itself is passed. -/
def textStep (cs : List Char) : Step :=
  let length := leadLength cs
  if length = 0 then openingStep cs
  else
    let lead := cs.take length
    let lead := if (cs.drop (length + 2)).head? == some '-' then trimEnd lead else lead
    .pass (if lead.isEmpty then none else some (0, .text lead)) (length - 1) .text

/-- The sign of two characters at the start of a text. -/
def doubleSymbol? : List Char → Option Symbol
  | '/' :: '/' :: _ => some .doubleSlash
  | '*' :: '*' :: _ => some .doubleStar
  | '=' :: '=' :: _ => some .equal
  | '!' :: '=' :: _ => some .notEqual
  | '>' :: '=' :: _ => some .greaterEqual
  | '<' :: '=' :: _ => some .lessEqual
  | _ => none

def singleSymbol? (c : Char) : Option Symbol :=
  match c with
  | '+' => some .plus
  | '-' => some .minus
  | '*' => some .star
  | '/' => some .slash
  | '%' => some .percent
  | '~' => some .tilde
  | '.' => some .dot
  | ',' => some .comma
  | ':' => some .colon
  | '|' => some .pipe
  | '=' => some .assign
  | '<' => some .less
  | '>' => some .greater
  | '(' => some .parenOpen
  | ')' => some .parenClose
  | '[' => some .bracketOpen
  | ']' => some .bracketClose
  | '\x7b' => some .braceOpen
  | '\x7d' => some .braceClose
  | _ => none

/-- How much a sign changes the number of open brackets. -/
def Symbol.nesting : Symbol → Int
  | .parenOpen | .bracketOpen | .braceOpen => 1
  | .parenClose | .bracketClose | .braceClose => -1
  | _ => 0

/-- The end of an expression or tag at the start of a text: the number of its
    characters, and the sign it starts with, if any. -/
def closing? (kind : Delimiter) (cs : List Char) : Option (Nat × Option Char) :=
  if kind.closing.isPrefixOf cs then some (2, none)
  else if signLength cs = 1 && kind.closing.isPrefixOf (cs.drop 1) then some (3, cs.head?)
  else none

/-- A string: its quotes are left out and its escapes resolved. -/
def stringStep (quote : Char) (rest : List Char) (mode : Mode) : Step :=
  match stringLength? quote rest with
  | none => .stop .unclosedString (some (rest.length + 1))
  | some length =>
    match unescape? (rest.take length) with
    | some content => .pass (some (0, .string (String.ofList content))) (length + 1) mode
    | none => .stop .invalidEscape none

def wordStep (kind : Delimiter) (depth : Int) (c : Char) (rest : List Char) : Step :=
  let mode := Mode.inside kind depth
  match doubleSymbol? (c :: rest) with
  | some sign => .pass (some (0, .symbol sign)) 1 mode
  | none =>
    match singleSymbol? c with
    | some sign => .pass (some (0, .symbol sign)) 0 (.inside kind (depth + sign.nesting))
    | none =>
      if c == '"' || c == '\'' then stringStep c rest mode
      else if c.isDigit then
        match scanNumeral (c :: rest) with
        | (length, .ok token) => .pass (some (0, token)) (length - 1) mode
        | (length, .error fault) => .stop fault (some length)
      else
        match leadingName (c :: rest) with
        | some name => .pass (some (0, .name (String.ofList name))) (name.length - 1) mode
        | none => .stop .unexpectedCharacter (some 0)

/-- The step between delimiters. The closing delimiter only counts where no
    bracket is open. -/
def insideStep (kind : Delimiter) (depth : Int) (c : Char) (rest : List Char) : Step :=
  if isAsciiBlank c then .pass none (rest.takeWhile isAsciiBlank).length (.inside kind depth)
  else
    match if depth = 0 then closing? kind (c :: rest) else none with
    | some (length, sign) =>
      .pass (some (0, kind.endToken))
        (length + removedLength sign ((c :: rest).drop length) - 1) .text
    | none => wordStep kind depth c rest

def step (mode : Mode) (c : Char) (rest : List Char) : Step :=
  match mode with
  | .text => textStep (c :: rest)
  | .inside kind depth => insideStep kind depth c rest

/-- The tokens of a template up to its end or to the first fault. -/
structure Tokens where
  tokens : List (Located Token)
  fault : Option (ParseFault × Option Nat)

/-- The tokens of a text that starts at a byte offset. Each step passes at least
    one character. -/
def tokensFrom (mode : Mode) (offset : Nat) : List Char → Tokens
  | [] => ⟨[], none⟩
  | c :: rest =>
    match step mode c rest with
    | .stop fault position =>
      ⟨[], some (fault, position.map fun n => offset + byteSize ((c :: rest).take n))⟩
    | .pass token extra next =>
      let after := tokensFrom next (offset + byteSize (c :: rest.take extra)) (rest.drop extra)
      match token with
      | none => after
      | some (start, token) =>
        ⟨⟨token, offset + byteSize ((c :: rest).take start)⟩ :: after.tokens, after.fault⟩
termination_by cs => cs.length
decreasing_by simp only [List.length_drop, List.length_cons]; omega

def tokensOf (source : List Char) : Tokens :=
  tokensFrom .text 0 source

end PromptPacks.Template
