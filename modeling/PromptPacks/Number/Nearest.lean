namespace PromptPacks.Number

/-- The quotient rounded to the nearest whole number. A half goes to the even
    neighbour. -/
def roundDiv (numerator denominator : Nat) : Nat :=
  let quotient := numerator / denominator
  let rest := 2 * (numerator % denominator)
  if rest < denominator then quotient
  else if denominator < rest then quotient + 1
  else quotient + quotient % 2

/-- The magnitude bits of infinity; every smaller pattern stands for a finite
    magnitude. -/
def infinityBits : Nat :=
  2047 <<< 52

/-- Whether the quotient of two numbers lies below `2 ^ (exponent + 53)`, so
    that a grid with steps of `2 ^ exponent` covers it with 53 bits. -/
def fitsGrid (numerator denominator : Nat) (exponent : Int) : Bool :=
  numerator <<< (-(exponent + 53)).toNat < denominator <<< (exponent + 53).toNat

/-- The exponent of the finest grid of doubles that covers a positive quotient.
    The sizes of the two numbers leave only two candidates above the least
    exponent. -/
def gridExponent (numerator denominator : Nat) : Int :=
  let guess := max (-1074) ((numerator.log2 : Int) - denominator.log2 - 53)
  if fitsGrid numerator denominator guess then guess else guess + 1

/-- The magnitude bits of the double nearest to a quotient. Beyond the exponent
    field, the bits of a double count the grid points below it, so the rounded
    quotient is added to the grid's offset, and a carry moves on to the next
    grid by itself. -/
def nearestBits (numerator denominator : Nat) : Nat :=
  if numerator = 0 then 0
  else
    let exponent := gridExponent numerator denominator
    let steps := roundDiv (numerator <<< (-exponent).toNat) (denominator <<< exponent.toNat)
    min (((exponent + 1074).toNat <<< 52) + steps) infinityBits

def floatOfBits (negative : Bool) (magnitude : Nat) : Float :=
  Float.ofBits (UInt64.ofNat ((if negative then 1 <<< 63 else 0) + magnitude))

def nearestFloat (negative : Bool) (numerator denominator : Nat) : Float :=
  floatOfBits negative (nearestBits numerator denominator)

def floatOfInt (n : Int) : Float :=
  nearestFloat (n < 0) n.natAbs 1

def signBit (x : Float) : Bool :=
  1 <<< 63 ≤ x.toBits.toNat

def magnitudeBits (x : Float) : Nat :=
  x.toBits.toNat % (1 <<< 63)

/-- Whether a double is neither infinite nor undefined. -/
def isFinite (x : Float) : Bool :=
  magnitudeBits x < infinityBits

def isInfinite (x : Float) : Bool :=
  magnitudeBits x == infinityBits

/-- The whole number by which a finite magnitude counts the steps of its grid. -/
def significand (magnitude : Nat) : Nat :=
  if magnitude >>> 52 = 0 then magnitude else magnitude % (1 <<< 52) + (1 <<< 52)

/-- The binary exponent of the grid of a finite magnitude. -/
def binaryExponent (magnitude : Nat) : Int :=
  (max (magnitude >>> 52) 1 : Nat) - 1075

/-- The numerator of the exact value of a finite magnitude. -/
def exactNumerator (magnitude : Nat) : Nat :=
  significand magnitude <<< (binaryExponent magnitude).toNat

/-- The denominator of the exact value of a finite magnitude. -/
def exactDenominator (magnitude : Nat) : Nat :=
  1 <<< (-binaryExponent magnitude).toNat

end PromptPacks.Number
