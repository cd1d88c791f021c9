import PromptPacks.Dictionary
import PromptPacks.Json.Value
import PromptPacks.Variable.Rules

namespace PromptPacks

open PromptPacks.Number PromptPacks.Text

/-- A value that a template can be rendered with. -/
inductive ContextValue where
  | bool (b : Bool)
  | integer (n : Int)
  | number (x : Float)
  | text (s : String)
  | list (items : List ContextValue)
deriving Inhabited

namespace ContextValue

/-- The value that a stored text stands for under a declared type. A text that
    does not fit the type stays a text. -/
def coerce (raw : String) : VariableType → ContextValue
  | .number =>
    let digits := trim raw.toList
    match readIntBetween? minInt64 maxInt64 digits with
    | some n => .integer n
    | none =>
      match readFloat? digits with
      | some x => .number x
      | none => .text raw
  | .boolean =>
    match readBool? raw with
    | some b => .bool b
    | none => .text raw
  | .text | .textarea | .enum => .text raw

/-- A whole number as a value: those beyond 64 bits become doubles. -/
def ofInt (n : Int) : ContextValue :=
  if minInt64 ≤ n && n ≤ maxInt64 then .integer n else .number (floatOfInt n)

/-- The value of a scalar document. Texts are coerced by the declared type, if
    there is one. -/
def ofScalar? (type : Option VariableType) : Json → Option ContextValue
  | .bool b => some (.bool b)
  | .integer n => some (ofInt n)
  | .float x => some (.number x)
  | .string s =>
    match type with
    | some type => some (coerce s type)
    | none => some (.text s)
  | .null | .array _ | .object _ => none

/-- The value of a document of any form. Of an array the scalar items count,
    without a declared type; `null` and objects have no value. -/
def ofJson? (type : Option VariableType) : Json → Option ContextValue
  | .array items => some (.list (items.filterMap (ofScalar? none)))
  | value => ofScalar? type value

mutual

/-- The value that a document stands for exactly: no part of it may be `null` or
    an object. -/
def decode? : Json → Option ContextValue
  | .null => none
  | .bool b => some (.bool b)
  | .integer n => some (ofInt n)
  | .float x => some (.number x)
  | .string s => some (.text s)
  | .array items => (decodeItems? items).map .list
  | .object _ => none

/-- The values that the items of an array stand for, if each of them stands for
    one. -/
def decodeItems? : List Json → Option (List ContextValue)
  | [] => some []
  | item :: rest =>
    match decode? item, decodeItems? rest with
    | some value, some values => some (value :: values)
    | _, _ => none

end

end ContextValue

/-- The values that a template is rendered with, by name. -/
abbrev Context := Dictionary ContextValue

end PromptPacks
