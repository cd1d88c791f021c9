import PromptPacks.Json.Value
import PromptPacks.Number.FloatText

namespace PromptPacks.Json

open PromptPacks.Number

/-- The digit of base sixteen with a given value below sixteen. -/
def hexDigit (n : Nat) : Char :=
  Nat.digitChar n

/-- One character of a string. Quotes, backslashes and control characters are
    escaped, the rest stands as it is. -/
def writeChar (c : Char) : List Char :=
  if c == '"' then ['\\', '"']
  else if c == '\\' then ['\\', '\\']
  else if c.toNat == 0x08 then ['\\', 'b']
  else if c.toNat == 0x0C then ['\\', 'f']
  else if c == '\n' then ['\\', 'n']
  else if c == '\r' then ['\\', 'r']
  else if c == '\t' then ['\\', 't']
  else if c.toNat < 0x20 then
    ['\\', 'u', '0', '0', hexDigit (c.toNat / 16), hexDigit (c.toNat % 16)]
  else [c]

def writeString (s : String) : List Char :=
  '"' :: s.toList.flatMap writeChar ++ ['"']

mutual

/-- The text of a document, without white space between its parts. -/
def write : Json → List Char
  | .null => "null".toList
  | .bool b => (if b then "true" else "false").toList
  | .integer n => (toString n).toList
  | .float x => if isFinite x then floatText .interchange x else "null".toList
  | .string s => writeString s
  | .array items => '[' :: writeItems items ++ [']']
  | .object fields => '\x7b' :: writeFields fields ++ ['\x7d']

def writeItems : List Json → List Char
  | [] => []
  | [item] => write item
  | item :: rest => write item ++ ',' :: writeItems rest

def writeFields : List (String × Json) → List Char
  | [] => []
  | [field] => writeField field
  | field :: rest => writeField field ++ ',' :: writeFields rest

/-- One field: its name, a colon and its value. -/
def writeField : String × Json → List Char
  | (name, value) => writeString name ++ ':' :: write value

end

end PromptPacks.Json
