import PromptPacks.Number.Nearest

namespace PromptPacks.Number

def decimalDigits (n : Nat) : List Char :=
  Nat.toDigits 10 n

/-- The value of a character as a digit of base sixteen. -/
def digitValue? (c : Char) : Option Nat :=
  if c.isDigit then some (c.toNat - '0'.toNat)
  else if 'a' ≤ c && c ≤ 'f' then some (c.toNat - 'a'.toNat + 10)
  else if 'A' ≤ c && c ≤ 'F' then some (c.toNat - 'A'.toNat + 10)
  else none

/-- The number that continues `value` by the given digits, each of which has to
    lie below the base. -/
def digitsFrom? (base : Nat) (value : Nat) : List Char → Option Nat
  | [] => some value
  | c :: rest =>
    match digitValue? c with
    | some digit => if digit < base then digitsFrom? base (value * base + digit) rest else none
    | none => none

/-- The number written by a text of at least one digit and nothing else. -/
def readDigits? (base : Nat) (cs : List Char) : Option Nat :=
  if cs.isEmpty then none else digitsFrom? base 0 cs

def splitSign : List Char → Bool × List Char
  | '-' :: rest => (true, rest)
  | '+' :: rest => (false, rest)
  | cs => (false, cs)

/-- A whole number in decimal digits with an optional sign. -/
def readInt? (cs : List Char) : Option Int :=
  let (negative, digits) := splitSign cs
  (readDigits? 10 digits).map fun n => if negative then -(n : Int) else n

/-- A whole number that lies between two bounds, ends included. -/
def readIntBetween? (low high : Int) (cs : List Char) : Option Int :=
  (readInt? cs).filter fun n => low ≤ n && n ≤ high

def minInt64 : Int := -9223372036854775808

def maxInt64 : Int := 9223372036854775807

/-- The greatest integer of 64 bits without a sign. -/
def maxUnsigned64 : Int := 18446744073709551615

/-- A number in scientific form: `coefficient · 10 ^ exponent` with a sign. -/
structure Decimal where
  negative : Bool
  coefficient : Nat
  exponent : Int

/-- The double nearest to a decimal. Exponents so large or small that every
    digit is lost are settled first, so that no power of ten beyond the range of
    doubles is computed. -/
def Decimal.toFloat (d : Decimal) : Float :=
  if d.coefficient = 0 then floatOfBits d.negative 0
  else
    let point := (decimalDigits d.coefficient).length + d.exponent
    if 400 < point then floatOfBits d.negative infinityBits
    else if point < -400 then floatOfBits d.negative 0
    else nearestFloat d.negative (d.coefficient * Nat.pow 10 d.exponent.toNat)
      (Nat.pow 10 (-d.exponent).toNat)

/-- The exponent part of a number, from its letter to the end; an absent part
    counts as zero. -/
def readExponent? : List Char → Option Int
  | [] => some 0
  | c :: rest => if c == 'e' || c == 'E' then readInt? rest else none

/-- A decimal number: digits with an optional point among or beside them, and an
    optional exponent. At least one digit has to stand before the exponent. -/
def readDecimal? (negative : Bool) (cs : List Char) : Option Decimal :=
  let whole := cs.takeWhile Char.isDigit
  let (fraction, tail) :=
    match cs.dropWhile Char.isDigit with
    | '.' :: rest => (rest.takeWhile Char.isDigit, rest.dropWhile Char.isDigit)
    | rest => ([], rest)
  match readDigits? 10 (whole ++ fraction), readExponent? tail with
  | some coefficient, some exponent => some ⟨negative, coefficient, exponent - fraction.length⟩
  | _, _ => none

/-- The double that a text stands for: a decimal number, or one of the words for
    infinity and for an undefined result in any case, with an optional sign. -/
def readFloat? (cs : List Char) : Option Float :=
  let (negative, body) := splitSign cs
  let word := String.ofList (body.map Char.toLower)
  if word == "inf" || word == "infinity" then some (floatOfBits negative infinityBits)
  else if word == "nan" then some (floatOfBits negative (infinityBits + (1 <<< 51)))
  else (readDecimal? negative body).map Decimal.toFloat

end PromptPacks.Number
