import PromptPacks.Number.Nearest

namespace PromptPacks.Number

/-- Applies an operation on the exact value of a finite magnitude that gives a
    whole number, and keeps the sign. Infinite and undefined numbers stay what
    they are. -/
def mapWhole (operation : Nat → Nat → Nat) (x : Float) : Float :=
  if isFinite x then
    nearestFloat (signBit x)
      (operation (exactNumerator (magnitudeBits x)) (exactDenominator (magnitudeBits x))) 1
  else x

/-- The whole number next to a double in the direction of zero. -/
def truncate (x : Float) : Float :=
  mapWhole (· / ·) x

/-- The whole number nearest to a double; a half goes away from zero. -/
def roundAway (x : Float) : Float :=
  mapWhole (fun numerator denominator => (2 * numerator + denominator) / (2 * denominator)) x

/-- The integer part of a finite double; infinities and undefined numbers have
    none. -/
def integerPart? (x : Float) : Option Int :=
  if isFinite x then
    let whole := exactNumerator (magnitudeBits x) / exactDenominator (magnitudeBits x)
    some (if signBit x then -(whole : Int) else whole)
  else none

/-- The integer that a double is equal to, if there is one. -/
def toInt? (x : Float) : Option Int :=
  if isFinite x && exactNumerator (magnitudeBits x) % exactDenominator (magnitudeBits x) == 0 then
    integerPart? x
  else none

/-- The double equal to an integer, if there is one. -/
def exactFloat? (n : Int) : Option Float :=
  let x := floatOfInt n
  if toInt? x == some n then some x else none

/-- The remainder of a division whose quotient is cut toward zero; it is exact
    and has the sign of the dividend. -/
def remainder (x y : Float) : Float :=
  if !isFinite x || x.isNaN || y.isNaN || magnitudeBits y == 0 then 0.0 / 0.0
  else if isInfinite y then x
  else
    let a := magnitudeBits x
    let b := magnitudeBits y
    let dividend := exactNumerator a * exactDenominator b
    let divisor := exactNumerator b * exactDenominator a
    nearestFloat (signBit x) (dividend % divisor) (exactDenominator a * exactDenominator b)

/-- The quotient of a division whose remainder is never negative. -/
def euclideanQuotient (x y : Float) : Float :=
  let quotient := truncate (x / y)
  if remainder x y < 0.0 then
    if 0.0 < y then quotient - 1.0 else quotient + 1.0
  else quotient

/-- A key that puts all doubles in one line: the negative ones by falling
    magnitude, then the positive ones, the undefined ones at the ends. The two
    zeros are told apart. -/
def orderKey (x : Float) : Int :=
  if signBit x then -(magnitudeBits x : Int) - 1 else magnitudeBits x

/-- A power with a whole exponent by repeated squaring, over the lowest `bits`
    bits of the exponent. -/
def squarings : Nat → Float → Nat → Float → Float
  | 0, _, _, result => result
  | bits + 1, base, exponent, result =>
    let next := if exponent % 2 = 1 then result * base else result
    if exponent / 2 = 0 then next else squarings bits (base * base) (exponent / 2) next

/-- Ten to a whole power; negative powers are reciprocals. -/
def tenToThe (power : Int) : Float :=
  let result := squarings 64 10.0 power.natAbs 1.0
  if power < 0 then 1.0 / result else result

/-- A double rounded to a number of decimal places. -/
def roundPlaces (x : Float) (places : Int) : Float :=
  let scale := tenToThe places
  roundAway (scale * x) / scale

end PromptPacks.Number
