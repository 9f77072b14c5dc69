import ByteRecord.Number.Power

/-! Binary floating point numbers taken apart and put together exactly: a finite number is
`(-1)^s · m · 2^e`, and a quotient of whole numbers is rounded to the nearest such number, a tie
going to the even mantissa. -/
namespace ByteRecord.Number

structure Binary where
  negative : Bool
  mantissa : Nat
  exponent : Int

/-- The weight of the bit for the sign in the bits of a number. -/
def signWeight : Nat := 0x8000000000000000

/-- The weight of the leading bit of a mantissa, which is not stored; below it stands the rest of the
mantissa, from it on the exponent. -/
def leadingWeight : Nat := 0x10000000000000

/-- Takes a number apart, unless it is infinite or not a number. -/
def Binary.ofFloat? (x : Float) : Option Binary :=
  let bits := x.toBits.toNat
  let negative := bits / signWeight == 1
  let biased : Nat := bits / leadingWeight % 2048
  let fraction : Nat := bits % leadingWeight
  if biased == 2047 then none
  else if biased == 0 then some ⟨negative, fraction, -1074⟩
  else some ⟨negative, fraction + leadingWeight, (biased : Int) - 1075⟩

private def signBit (negative : Bool) : Nat :=
  if negative then signWeight else 0

def infinity (negative : Bool) : Float :=
  Float.ofBits (UInt64.ofNat (signBit negative + 2047 * leadingWeight))

/-- A quotient rounded to a whole number, a tie to the even neighbour. -/
def roundQuotient (numerator denominator : Nat) : Nat :=
  let quotient := numerator / denominator
  let rest := numerator % denominator
  if 2 * rest < denominator then quotient
  else if denominator < 2 * rest then quotient + 1
  else quotient + quotient % 2

/-- The nearest number to `numerator / denominator`; too large a quotient is infinite. -/
def ofQuotient (negative : Bool) (numerator denominator : Nat) : Float :=
  if numerator == 0 then Float.ofBits (UInt64.ofNat (signBit negative)) else
  let estimate : Int := (numerator.log2 : Int) - denominator.log2
  -- the power of two just below the quotient
  let below : Int :=
    if (if 0 ≤ estimate then denominator * twoTo estimate.toNat ≤ numerator
        else denominator ≤ numerator * twoTo (-estimate).toNat) then estimate else estimate - 1
  let exponent := max (below - 52) (-1074)
  let mantissa :=
    if 0 ≤ exponent then roundQuotient numerator (denominator * twoTo exponent.toNat)
    else roundQuotient (numerator * twoTo (-exponent).toNat) denominator
  let (mantissa, exponent) :=
    if mantissa == 2 * leadingWeight then (leadingWeight, exponent + 1) else (mantissa, exponent)
  if 971 < exponent then infinity negative
  else
    let biased := if mantissa < leadingWeight then 0 else (exponent + 1075).toNat
    Float.ofBits (UInt64.ofNat (signBit negative + biased * leadingWeight + mantissa % leadingWeight))

/-- The nearest number to a whole number, or none if it is out of range. -/
def ofInt? (n : Int) : Option Float :=
  let x := ofQuotient (n < 0) n.natAbs 1
  if x.isInf then none else some x

/-- The quotient of two whole numbers, rounded once, or none if it is out of range. -/
def divide? (a b : Int) : Option Float :=
  let x := ofQuotient ((a < 0) != (b < 0)) a.natAbs b.natAbs
  if x.isInf then none else some x

/-- A finite number as a fraction of whole numbers with a positive denominator. -/
def Binary.fraction (x : Binary) : Int × Nat :=
  let magnitude : Nat × Nat :=
    if 0 ≤ x.exponent then (x.mantissa * twoTo x.exponent.toNat, 1)
    else (x.mantissa, twoTo (-x.exponent).toNat)
  (if x.negative then -(magnitude.1 : Int) else magnitude.1, magnitude.2)

def truncate? (x : Float) : Option Int :=
  (Binary.ofFloat? x).map fun parts =>
    let (numerator, denominator) := parts.fraction
    numerator.tdiv denominator

def roundToInt? (x : Float) : Option Int :=
  (Binary.ofFloat? x).map fun parts =>
    let (numerator, denominator) := parts.fraction
    let magnitude := roundQuotient numerator.natAbs denominator
    if numerator < 0 then -(magnitude : Int) else magnitude

/-- Compares a whole number with a finite number exactly. -/
def compareInt (n : Int) (x : Binary) : Ordering :=
  let (numerator, denominator) := x.fraction
  compare (n * denominator) numerator

/-- The remainder of a division towards zero; it has the sign of the dividend and is exact. -/
def remainder (x y : Float) : Float :=
  match Binary.ofFloat? x, Binary.ofFloat? y with
  | some a, some b =>
    let exponent := min a.exponent b.exponent
    let left := a.mantissa * twoTo (a.exponent - exponent).toNat
    let right := b.mantissa * twoTo (b.exponent - exponent).toNat
    let rest := left % right
    if 0 ≤ exponent then ofQuotient a.negative (rest * twoTo exponent.toNat) 1
    else ofQuotient a.negative rest (twoTo (-exponent).toNat)
  | some _, none => if y.isNaN then y else x
  | none, _ => Float.ofBits 0x7ff8000000000000

end ByteRecord.Number
