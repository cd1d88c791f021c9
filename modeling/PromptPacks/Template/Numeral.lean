import PromptPacks.Number.Decimal
import PromptPacks.Template.Token
import PromptPacks.Text.Word

namespace PromptPacks.Template

open PromptPacks.Number PromptPacks.Text

/-- Where a numeral stands after some of its characters. -/
inductive NumeralState where
  | radix
  | integer
  | fraction
  | exponent
  | exponentDigits
deriving DecidableEq

/-- The state after one more character, if the numeral goes on with it. A point
    only starts a fraction where no name follows; before a name it reads an
    attribute. -/
def NumeralState.next? (base : Nat) (state : NumeralState) (c : Char) (rest : List Char) :
    Option NumeralState :=
  if c == '.' then
    if state = .integer && !rest.head?.any isNameStart then some .fraction else none
  else if c.isDigit then some (if state = .exponent then .exponentDigits else state)
  else if c == '_' then some state
  else if state = .radix then
    if base == 16 && (digitValue? c).isSome then some .radix else none
  else if c == 'e' || c == 'E' then
    if state = .integer || state = .fraction then some .exponent else none
  else if c == '+' || c == '-' then if state = .exponent then some .exponentDigits else none
  else none

/-- The characters that belong to a numeral, and the state after them. -/
def numeralBody (base : Nat) (state : NumeralState) : List Char → List Char × NumeralState
  | [] => ([], state)
  | c :: rest =>
    match state.next? base c rest with
    | some next =>
      let (body, final) := numeralBody base next rest
      (c :: body, final)
    | none => ([], state)

/-- The base that the first two characters of a numeral call for. -/
def numeralBase : List Char → Nat
  | '0' :: c :: _ =>
    if c == 'b' || c == 'B' then 2
    else if c == 'o' || c == 'O' then 8
    else if c == 'x' || c == 'X' then 16
    else 10
  | _ => 10

def integerToken (base : Nat) (digits : List Char) : Except ParseFault Token :=
  match readDigits? base digits with
  | some n =>
    if n < 340282366920938463463374607431768211456 then .ok (.integer n)
    else .error .oversizedInteger
  | none => if digits.isEmpty then .error .oversizedInteger else .error .invalidInteger

/-- The numeral at the start of a text that starts with a digit: the number of
    its characters, and its token or what is wrong with it. Underscores may
    separate digits but not end the numeral. -/
def scanNumeral (cs : List Char) : Nat × Except ParseFault Token :=
  let base := numeralBase cs
  let marker := if base == 10 then 0 else 2
  let (body, final) := numeralBody base (if base == 10 then .integer else .radix) (cs.drop marker)
  let digits := body.filter (· != '_')
  let token :=
    if body.getLast? == some '_' then .error .trailingUnderscore
    else if final = .radix || final = .integer then integerToken base digits
    else match readFloat? digits with
      | some x => .ok (.float x)
      | none => .error .invalidFloat
  (marker + body.length, token)

end PromptPacks.Template
