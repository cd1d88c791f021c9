import PromptPacks.Text.Blank
import PromptPacks.Text.Position
import PromptPacks.Text.Search

namespace PromptPacks.Template

open PromptPacks.Text

/-- A text without the sign at its start, where there is one. -/
def dropSign : List Char → List Char
  | c :: rest => if c == '-' || c == '+' then rest else c :: rest
  | [] => []

def tagOpening : List Char := ['\x7b', '%']

def tagClosing : List Char := ['%', '\x7d']

/-- What follows a tag of one word at the start of a text. -/
def afterTag? (word cs : List Char) : Option (List Char) := do
  let inside ← after? tagOpening cs
  let behind ← after? word ((dropSign inside).dropWhile isBlank)
  after? tagClosing (dropSign (behind.dropWhile isBlank))

def spaces (c : Char) : List Char :=
  List.replicate c.utf8Size ' '

/-- Blanks parts of a text without a change of byte offsets. `parts?` tells at
    each place that belongs to no earlier part whether one starts there, and
    which of its characters are blanked; `pending` tells this for the characters
    of a part already begun. -/
def blankParts (parts? : List Char → Option (List Bool)) : List Bool → List Char → List Char
  | _, [] => []
  | isBlanked :: pending, c :: rest =>
    (if isBlanked then spaces c else [c]) ++ blankParts parts? pending rest
  | [], c :: rest =>
    match parts? (c :: rest) with
    | some (isBlanked :: pending) =>
      (if isBlanked then spaces c else [c]) ++ blankParts parts? pending rest
    | _ => c :: blankParts parts? [] rest

/-- A raw block at the start of a text: its body is blanked, its two tags are
    kept. -/
def rawPart? (cs : List Char) : Option (List Bool) := do
  let body ← afterTag? "raw".toList cs
  let length ← distanceTo? (fun rest => (afterTag? "endraw".toList rest).isSome) body
  let behind ← afterTag? "endraw".toList (body.drop length)
  some (List.replicate (cs.length - body.length) false ++ List.replicate length true
    ++ List.replicate (body.length - length - behind.length) false)

/-- A comment at the start of a text, which is blanked. -/
def commentPart? (cs : List Char) : Option (List Bool) := do
  let body ← after? ['\x7b', '#'] cs
  let length ← distanceTo? (['#', '\x7d'].isPrefixOf ·) body
  some (List.replicate (length + 4) true)

/-- A text of which the bodies of raw blocks and the comments are blanked. -/
def masked (source : List Char) : List Char :=
  blankParts commentPart? [] (blankParts rawPart? [] source)

/-- The number of characters of a quoted text after its opening quote, the
    closing one included. A backslash takes the next character with it, line
    feeds only where `escapesLineFeed` holds. -/
def quotedLength? (escapesLineFeed : Bool) (quote : Char) : List Char → Option Nat
  | [] => none
  | [c] => if c == quote then some 1 else none
  | c :: d :: rest =>
    if c == quote then some 1
    else if c == '\\' then
      if d == '\n' && !escapesLineFeed then none
      else (quotedLength? escapesLineFeed quote rest).map (· + 2)
    else (quotedLength? escapesLineFeed quote (d :: rest)).map (· + 1)

def isQuote (c : Char) : Bool :=
  c == '\'' || c == '"'

/-- A quoted text at the start of a text, which is blanked. -/
def stringPart? : List Char → Option (List Bool)
  | [] => none
  | c :: rest =>
    if isQuote c then
      (quotedLength? false c rest).map fun length => List.replicate (length + 1) true
    else none

def withoutStrings (body : List Char) : List Char :=
  blankParts stringPart? [] body

end PromptPacks.Template
