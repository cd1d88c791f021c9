import PromptPacks.Number.Decimal
import PromptPacks.Text.Units

namespace PromptPacks.Template

open PromptPacks.Number PromptPacks.Text

/-- The number of characters before the closing quote of a string, if it has
    one. A backslash takes the character after it along. -/
def stringLength? (quote : Char) : List Char → Option Nat
  | [] => none
  | '\\' :: _ :: rest => (stringLength? quote rest).map (· + 2)
  | c :: rest => if c == quote then some 0 else (stringLength? quote rest).map (· + 1)

/-- A code in base sixteen with a fixed number of characters, the first of which
    may be a plus sign. -/
def hexCode? : List Char → Option Nat
  | '+' :: digits => readDigits? 16 digits
  | digits => readDigits? 16 digits

/-- The code unit that an escape of one letter stands for. -/
def letterCode? (c : Char) : Option Nat :=
  if c == '"' || c == '\\' || c == '/' || c == '\'' then some c.toNat
  else if c == 'b' then some 0x08
  else if c == 'f' then some 0x0C
  else if c == 'n' then some 0x0A
  else if c == 'r' then some 0x0D
  else if c == 't' then some 0x09
  else none

def isOctalDigit (c : Char) : Bool :=
  '0' ≤ c && c ≤ '7'

/-- Puts a code unit before further ones, where both are there. -/
def withUnit (unit : Option Nat) (units : Option (List Nat)) : Option (List Nat) :=
  match unit, units with
  | some unit, some units => some (unit :: units)
  | _, _ => none

/-- A code of up to three octal digits, which has to fit into a byte. -/
def octalCode? (digits : List Char) : Option Nat :=
  (readDigits? 8 digits).filter (· < 256)

/-- The code units of a string with escapes. A backslash before any other
    character stands for itself. -/
def escapedUnits : List Char → Option (List Nat)
  | [] => some []
  | '\\' :: 'u' :: a :: b :: c :: d :: rest => withUnit (hexCode? [a, b, c, d]) (escapedUnits rest)
  | '\\' :: 'x' :: a :: b :: rest => withUnit (hexCode? [a, b]) (escapedUnits rest)
  | ['\\', 'u'] | ['\\', 'u', _] | ['\\', 'u', _, _] | ['\\', 'u', _, _, _] => none
  | ['\\', 'x'] | ['\\', 'x', _] => none
  | ['\\'] => none
  | '\\' :: a :: rest =>
    match letterCode? a with
    | some unit => withUnit (some unit) (escapedUnits rest)
    | none =>
      if isOctalDigit a then
        match rest with
        | b :: c :: tail =>
          if isOctalDigit b then
            if isOctalDigit c then withUnit (octalCode? [a, b, c]) (escapedUnits tail)
            else withUnit (octalCode? [a, b]) (escapedUnits (c :: tail))
          else withUnit (octalCode? [a]) (escapedUnits (b :: c :: tail))
        | [b] =>
          if isOctalDigit b then octalCode? [a, b] |>.map ([·])
          else withUnit (octalCode? [a]) (escapedUnits [b])
        | [] => octalCode? [a] |>.map ([·])
      else withUnit (some '\\'.toNat) (withUnit (some a.toNat) (escapedUnits rest))
  | c :: rest => withUnit (some c.toNat) (escapedUnits rest)

def unescape? (body : List Char) : Option (List Char) :=
  (escapedUnits body).bind joinUnits

end PromptPacks.Template
