import PromptPacks.Json.Value
import PromptPacks.Number.Decimal
import PromptPacks.Text.Units

namespace PromptPacks.Json

open PromptPacks.Number PromptPacks.Text

/-- The text after the white space that may stand between the parts of a
    document. -/
def skipSpace (cs : List Char) : List Char :=
  cs.dropWhile fun c => c == ' ' || c == '\t' || c == '\n' || c == '\r'

/-- The character that an escape of one letter stands for. -/
def letterEscape? (c : Char) : Option Nat :=
  if c == '"' || c == '\\' || c == '/' then some c.toNat
  else if c == 'b' then some 0x08
  else if c == 'f' then some 0x0C
  else if c == 'n' then some 0x0A
  else if c == 'r' then some 0x0D
  else if c == 't' then some 0x09
  else none

/-- The code units of a string up to its closing quote, and what follows.
    Escapes may give the halves of a surrogate pair, so units are numbers and
    not characters yet. -/
def readUnits : List Char → Option (List Nat × List Char)
  | [] => none
  | '"' :: rest => some ([], rest)
  | '\\' :: 'u' :: a :: b :: c :: d :: rest =>
    match digitsFrom? 16 0 [a, b, c, d], readUnits rest with
    | some unit, some (units, tail) => some (unit :: units, tail)
    | _, _ => none
  | '\\' :: c :: rest =>
    match letterEscape? c, readUnits rest with
    | some unit, some (units, tail) => some (unit :: units, tail)
    | _, _ => none
  | c :: rest =>
    if c.toNat < 0x20 then none
    else (readUnits rest).map fun (units, tail) => (c.toNat :: units, tail)

/-- A string after its opening quote, and what follows it. -/
def readString (cs : List Char) : Option (String × List Char) :=
  match readUnits cs with
  | some (units, tail) => (joinUnits units).map fun chars => (String.ofList chars, tail)
  | none => none

/-- Whether a text has the form of a number: digits without superfluous zeros,
    then a fraction and an exponent that each need a digit. -/
def isNumeral (cs : List Char) : Bool :=
  let unsigned := match cs with
    | '-' :: rest => rest
    | rest => rest
  let whole := unsigned.takeWhile Char.isDigit
  let afterWhole := unsigned.dropWhile Char.isDigit
  let (fractionFine, afterFraction) := match afterWhole with
    | '.' :: rest => (!(rest.takeWhile Char.isDigit).isEmpty, rest.dropWhile Char.isDigit)
    | rest => (true, rest)
  !whole.isEmpty && (whole.length == 1 || whole.head? != some '0') && fractionFine &&
    (readExponent? afterFraction).isSome

/-- The nearest double to a numeral, as long as it is a finite one. -/
def finiteNumber? (cs : List Char) : Option Json :=
  ((readFloat? cs).filter isFinite).map .float

/-- The number that a numeral stands for. One without a fraction and an exponent
    is a whole number if it fits into 64 bits, with or without a sign bit; any
    other is the nearest double. -/
def numberOf? (cs : List Char) : Option Json :=
  if !isNumeral cs then none
  else
    match readInt? cs with
    | some n =>
      if minInt64 ≤ n && n ≤ maxUnsigned64 && !(n == 0 && cs.head? == some '-') then
        some (.integer n)
      else finiteNumber? cs
    | none => finiteNumber? cs

def isNumeralChar (c : Char) : Bool :=
  c.isDigit || c == '-' || c == '+' || c == '.' || c == 'e' || c == 'E'

mutual

/-- One value at the start of a text, and what follows it. The first argument
    bounds the depth and the number of parts; the length of the text is enough,
    as each part takes a character. -/
def readValue : Nat → List Char → Option (Json × List Char)
  | 0, _ => none
  | fuel + 1, cs =>
    match skipSpace cs with
    | 'n' :: 'u' :: 'l' :: 'l' :: rest => some (.null, rest)
    | 't' :: 'r' :: 'u' :: 'e' :: rest => some (.bool true, rest)
    | 'f' :: 'a' :: 'l' :: 's' :: 'e' :: rest => some (.bool false, rest)
    | '"' :: rest => (readString rest).map fun (s, tail) => (.string s, tail)
    | '[' :: rest =>
      match skipSpace rest with
      | ']' :: tail => some (.array [], tail)
      | _ => (readItems fuel rest).map fun (items, tail) => (.array items, tail)
    | '\x7b' :: rest =>
      match skipSpace rest with
      | '\x7d' :: tail => some (.object [], tail)
      | _ => (readFields fuel rest).map fun (fields, tail) => (.object fields, tail)
    | rest =>
      (numberOf? (rest.takeWhile isNumeralChar)).map fun n => (n, rest.dropWhile isNumeralChar)

/-- The items of an array from the first one to the closing bracket. -/
def readItems : Nat → List Char → Option (List Json × List Char)
  | 0, _ => none
  | fuel + 1, cs =>
    match readValue fuel cs with
    | none => none
    | some (item, rest) =>
      match skipSpace rest with
      | ']' :: tail => some ([item], tail)
      | ',' :: more => (readItems fuel more).map fun (items, tail) => (item :: items, tail)
      | _ => none

/-- The fields of an object from the first one to the closing brace. -/
def readFields : Nat → List Char → Option (List (String × Json) × List Char)
  | 0, _ => none
  | fuel + 1, cs =>
    match skipSpace cs with
    | '"' :: rest =>
      match readString rest with
      | none => none
      | some (name, afterName) =>
        match skipSpace afterName with
        | ':' :: afterColon =>
          match readValue fuel afterColon with
          | none => none
          | some (value, afterValue) =>
            match skipSpace afterValue with
            | '\x7d' :: tail => some ([(name, value)], tail)
            | ',' :: more =>
              (readFields fuel more).map fun (fields, tail) => ((name, value) :: fields, tail)
            | _ => none
        | _ => none
    | _ => none

end

def maxDepth : Nat := 127

/-- The document that a whole text stands for. Documents beyond the greatest
    depth are refused. -/
def parse? (text : List Char) : Option Json :=
  match readValue (text.length + 1) text with
  | some (value, rest) =>
    if (skipSpace rest).isEmpty && value.depth ≤ maxDepth then some value else none
  | none => none

end PromptPacks.Json
