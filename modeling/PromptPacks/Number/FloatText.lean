import PromptPacks.Number.Decimal

namespace PromptPacks.Number

/-- The number of digits before the decimal point of a positive quotient between
    the least and the greatest double; zero or less when the quotient lies below
    one tenth. The factor keeps the scaled quotient above one. -/
def pointPosition (numerator denominator : Nat) : Int :=
  (decimalDigits (numerator * Nat.pow 10 400 / denominator)).length - 400

/-- Removes the zeros at the end of a coefficient, at most `limit` of them, and
    raises the exponent instead. -/
def stripZeros : Nat → Nat → Int → Nat × Int
  | 0, coefficient, exponent => (coefficient, exponent)
  | limit + 1, coefficient, exponent =>
    if coefficient % 10 = 0 then stripZeros limit (coefficient / 10) (exponent + 1)
    else (coefficient, exponent)

/-- Whether a decimal reads back as the given finite magnitude. -/
def readsBack (magnitude coefficient : Nat) (exponent : Int) : Bool :=
  nearestBits (coefficient * Nat.pow 10 exponent.toNat) (Nat.pow 10 (-exponent).toNat) == magnitude

/-- The decimal with steps of `10 ^ exponent` that reads back as the magnitude
    and lies nearest to it, if one of its two neighbours on that grid reads
    back. -/
def decimalOnGrid? (magnitude : Nat) (exponent : Int) : Option (Nat × Int) :=
  let numerator := exactNumerator magnitude * Nat.pow 10 (-exponent).toNat
  let denominator := exactDenominator magnitude * Nat.pow 10 exponent.toNat
  let below := numerator / denominator
  let belowFits := readsBack magnitude below exponent
  let aboveFits := readsBack magnitude (below + 1) exponent
  let belowNearer := 2 * (numerator % denominator) ≤ denominator
  if belowFits && (belowNearer || !aboveFits) then some (below, exponent)
  else if aboveFits then some (below + 1, exponent)
  else none

/-- The exact decimal expansion of a finite magnitude: a negative power of two
    is the same power of ten times a power of five. -/
def exactDecimal (magnitude : Nat) : Nat × Int :=
  let exponent := min 0 (binaryExponent magnitude)
  (exactNumerator magnitude * Nat.pow 5 (-exponent).toNat, exponent)

/-- The decimal with the fewest digits that reads back as a positive finite
    magnitude. Seventeen digits always suffice; the exact expansion stands in
    where they do not. -/
def shortestDecimal (magnitude : Nat) : Nat × Int :=
  let point := pointPosition (exactNumerator magnitude) (exactDenominator magnitude)
  let found := (List.range 17).findSome? fun (extra : Nat) =>
    decimalOnGrid? magnitude (point - 1 - extra)
  let (coefficient, exponent) := found.getD (exactDecimal magnitude)
  stripZeros 1100 coefficient exponent

/-- Digits with a decimal point `-exponent` places from their end, and zeros
    where the point lies outside of them. -/
def positional (digits : List Char) (exponent : Int) : List Char :=
  if 0 ≤ exponent then digits ++ List.replicate exponent.toNat '0'
  else
    let places := (-exponent).toNat
    if places < digits.length then
      digits.take (digits.length - places) ++ '.' :: digits.drop (digits.length - places)
    else '0' :: '.' :: List.replicate (places - digits.length) '0' ++ digits

/-- Digits with the point after the first of them and a power of ten. -/
def scientific (digits : List Char) (exponent : Int) : List Char :=
  let power := exponent + digits.length - 1
  let tail := 'e' :: (toString power).toList
  match digits with
  | [] => tail
  | [d] => d :: tail
  | d :: rest => d :: '.' :: rest ++ tail

/-- How doubles are written: positionally when the number of digits before the
    point lies within the bounds, in powers of ten otherwise. -/
structure FloatLayout where
  lowestPoint : Option Int
  highestPoint : Option Int

def FloatLayout.plain : FloatLayout := ⟨none, none⟩

/-- Positional from one ten-thousandth up to below ten to the sixteenth. -/
def FloatLayout.listed : FloatLayout := ⟨some (-3), some 16⟩

/-- Positional from one hundred-thousandth up to below ten to the sixteenth. -/
def FloatLayout.interchange : FloatLayout := ⟨some (-4), some 16⟩

/-- Whether a number with the given point is written positionally. -/
def FloatLayout.isPositional (layout : FloatLayout) (point : Int) : Bool :=
  layout.lowestPoint.all (· ≤ point) && layout.highestPoint.all (point ≤ ·)

/-- The text of a finite magnitude. A positional text always shows a point. -/
def magnitudeText (layout : FloatLayout) (magnitude : Nat) : List Char :=
  let (coefficient, exponent) :=
    if magnitude = 0 then (0, 0) else shortestDecimal magnitude
  let digits := decimalDigits coefficient
  if layout.isPositional (digits.length + exponent) then
    let text := positional digits exponent
    if text.contains '.' then text else text ++ ['.', '0']
  else scientific digits exponent

/-- The text of a double: the fewest digits that read back, or a word. -/
def floatText (layout : FloatLayout) (x : Float) : List Char :=
  if isFinite x then
    (if signBit x then ['-'] else []) ++ magnitudeText layout (magnitudeBits x)
  else if isInfinite x then (if signBit x then "-inf" else "inf").toList
  else "NaN".toList

end PromptPacks.Number
