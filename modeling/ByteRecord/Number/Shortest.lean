import ByteRecord.Number.Binary64
import ByteRecord.Number.Decimal

/-! The shortest decimal text of a binary floating point number: the fewest digits that read back
as the same number, and of those the nearest to it. -/
namespace ByteRecord.Number

/-- Decimal digits `d₁d₂…dₙ`, standing for `0.d₁d₂…dₙ · 10^point`. -/
structure Decimal where
  digits : List Char
  point : Int

/-- How a decimal is written: positional between two exponents, scientific elsewhere. -/
structure DecimalFormat where
  /-- Positional from this position of the point … -/
  firstPoint : Int
  /-- … to this one. -/
  lastPoint : Int
  /-- The least number of digits of an exponent. -/
  exponentDigits : Nat

/-- Floating point numbers are positional from `0.0001` up to sixteen digits before the point, and
an exponent has a sign and at least two digits. -/
def floatFormat : DecimalFormat := ⟨-3, 16, 2⟩

/-- The reals that read back as a number: quarter units `(low, high)` at the given scale, ends
included for an even mantissa. -/
private structure Interval where
  low : Nat
  value : Nat
  high : Nat
  closed : Bool
  /-- All three are divided by this. -/
  denominator : Nat

private def Interval.ofBinary (x : Binary) : Interval :=
  -- below a power of two the neighbours lie half as far apart
  let lowGap := if x.mantissa == leadingWeight && -1074 < x.exponent then 1 else 2
  let scale := x.exponent - 2
  let up := twoTo scale.toNat
  ⟨(4 * x.mantissa - lowGap) * up, 4 * x.mantissa * up, (4 * x.mantissa + 2) * up,
    x.mantissa % 2 == 0, twoTo (-scale).toNat⟩

private def Interval.contains (interval : Interval) (numerator unit : Nat) : Bool :=
  -- compares `numerator / unit` with the ends, both over the interval's denominator
  let point := numerator * interval.denominator
  if interval.closed then interval.low * unit ≤ point && point ≤ interval.high * unit
  else interval.low * unit < point && point < interval.high * unit

/-- The nearest point of the grid `10^scale` that lies in the interval. -/
private def Interval.gridPoint? (interval : Interval) (scale : Int) : Option Nat :=
  let up := tenTo scale.toNat
  let unit := tenTo (-scale).toNat
  -- the value is `value * unit / (denominator * up)` grid steps
  let numerator := interval.value * unit
  let denominator := interval.denominator * up
  let below := numerator / denominator
  let rest := numerator % denominator
  let inside (n : Nat) := interval.contains (n * up) unit
  let nearest := if 2 * rest < denominator then below
    else if denominator < 2 * rest then below + 1 else below + below % 2
  let other := if nearest == below then below + 1 else below
  if inside nearest then some nearest else if inside other then some other else none

/-- How many decimal digits the whole part has; zero or less counts zeros after the point. -/
private def pointOf (value denominator : Nat) : Int :=
  if denominator ≤ value then (Nat.toDigits 10 (value / denominator)).length
  else
    -- the least k with 10^k · value ≥ denominator
    let rec least (fuel k power : Nat) : Nat :=
      match fuel with
      | 0 => k
      | fuel + 1 => if denominator ≤ power * value then k else least fuel (k + 1) (power * 10)
    1 - (least 400 0 1 : Int)

/-- The shortest decimal of a positive number. -/
private def shortestFrom (interval : Interval) (point : Int) : Nat → Nat → Decimal
  | 0, _ => ⟨['0'], 1⟩
  | fuel + 1, count =>
    match interval.gridPoint? (point - count) with
    | some n =>
      let digits := Nat.toDigits 10 n
      let significant := (digits.reverse.dropWhile (· == '0')).reverse
      ⟨significant, point - count + digits.length⟩
    | none => shortestFrom interval point fuel (count + 1)

def Decimal.shortest (x : Binary) : Decimal :=
  if x.mantissa == 0 then ⟨['0'], 1⟩
  else
    let interval := Interval.ofBinary x
    shortestFrom interval (pointOf interval.value interval.denominator) 17 1

def Decimal.text (format : DecimalFormat) (decimal : Decimal) : String :=
  let digits := decimal.digits
  let zeros (n : Int) := List.replicate n.toNat '0'
  String.ofList <|
    if format.firstPoint ≤ decimal.point && decimal.point ≤ format.lastPoint then
      if decimal.point ≤ 0 then '0' :: '.' :: zeros (-decimal.point) ++ digits
      else
        let whole := digits.take decimal.point.toNat ++ zeros (decimal.point - digits.length)
        let fraction := digits.drop decimal.point.toNat
        whole ++ '.' :: (if fraction.isEmpty then ['0'] else fraction)
    else
      let exponent := decimal.point - 1
      let size := Nat.toDigits 10 exponent.natAbs
      let mantissa := match digits with
        | first :: second :: rest => first :: '.' :: second :: rest
        | short => short
      mantissa ++ 'e' :: (if exponent < 0 then '-' else '+') ::
        (zeros (format.exponentDigits - size.length : Int) ++ size)

/-- The text of a floating point number. -/
def floatText (x : Float) : String :=
  match Binary.ofFloat? x with
  | none => if x.isNaN then "nan" else if x < 0 then "-inf" else "inf"
  | some parts =>
    (if parts.negative then "-" else "") ++ (Decimal.shortest parts).text floatFormat

end ByteRecord.Number
