import ByteRecord.Expr.Syntax
import ByteRecord.Lexical.Number
import ByteRecord.Number.Decimal
import ByteRecord.Number.Binary64
import ByteRecord.Text.CharacterNames

/-! What numbers and escapes in string literals stand for. -/
namespace ByteRecord.Expr
open Lexical Number

/-- The value of digits in a base. -/
def valueIn (base : Nat) (digits : List Char) : Nat :=
  digits.foldl (fun value c => value * base + (Hex.digitValue? c).getD 0) 0

def radixOf (letter : Char) : Option Nat :=
  match letter.toLower with
  | 'x' => some 16
  | 'b' => some 2
  | 'o' => some 8
  | _ => none

/-- The number nearest to `m · 10^exponent`. -/
def ofScientific (m : Nat) (exponent : Int) : Float :=
  -- far out of range the magnitude decides, without forming the power
  let magnitude : Int := (Nat.toDigits 10 m).length + exponent
  if m == 0 || magnitude < -400 then 0.0
  else if 400 < magnitude then infinity false
  else if 0 ≤ exponent then ofQuotient false (m * tenTo exponent.toNat) 1
  else ofQuotient false m (tenTo (-exponent).toNat)

private def floatValue (digits : List Char) : Float :=
  let (mantissa, exponent) := digits.span fun c => c != 'e' && c != 'E'
  let (whole, fraction) := mantissa.span (· != '.')
  let fraction := fraction.drop 1
  let (negative, exponentDigits) := match exponent.drop 1 with
    | '-' :: rest => (true, rest)
    | '+' :: rest => (false, rest)
    | rest => (false, rest)
  let magnitude : Int := valueIn 10 exponentDigits
  ofScientific (valueIn 10 (whole ++ fraction))
    ((if negative then -magnitude else magnitude) - fraction.length)

/-- The value of a number literal; a decimal one may not be overlong. -/
def numberValue? (text : List Char) : Option Constant :=
  let digits := text.filter (· != '_')
  match digits with
  | '0' :: letter :: rest =>
    match radixOf letter with
    | some base => some (.int (valueIn base rest))
    | none => decimal? digits
  | _ => decimal? digits
where
  decimal? (digits : List Char) : Option Constant :=
    match digits.getLast? with
    | some 'j' | some 'J' => some (.imaginary (floatValue digits.dropLast))
    | _ =>
      if digits.any fun c => c == '.' || c == 'e' || c == 'E' then some (.float (floatValue digits))
      else if maxDecimalDigits < digits.length then none
      else some (.int (valueIn 10 digits))

/-- Reads a fixed number of hexadecimal digits. -/
def hexCode? (count : Nat) (text : List Char) : Option Nat :=
  let digits := text.take count
  if digits.length == count && digits.all Hex.isDigit then some (valueIn 16 digits) else none

private def simpleEscape? : Char → Option Char
  | '\\' => some '\\'
  | '\'' => some '\''
  | '"' => some '"'
  | 'a' => some (Char.ofNat 7)
  | 'b' => some (Char.ofNat 8)
  | 'f' => some (Char.ofNat 12)
  | 'n' => some '\n'
  | 'r' => some '\r'
  | 't' => some '\t'
  | 'v' => some (Char.ofNat 11)
  | _ => none

private def isOctal (c : Char) : Bool := '0' ≤ c && c ≤ '7'

/-- What an escape after a backslash yields and how many characters it takes. Octal escapes have up
to three digits. A backslash with nothing behind it, which a brace may cut off, stands for itself. -/
def escape? (wide : Bool) (text : List Char) : Option (List Char × Nat) :=
  match text with
  | [] => some (['\\'], 0)
  | c :: rest =>
    match simpleEscape? c with
    | some plain => some ([plain], 1)
    | none =>
      let octal := (text.take 3).takeWhile isOctal
      let code (count : Nat) := do
        let n ← hexCode? count rest
        if n ≤ 0x10ffff then some ([if 0xd800 ≤ n && n ≤ 0xdfff then Char.ofNat 0xfffd
          else Char.ofNat n], count + 1) else none
      if c == '\n' then some ([], 1)
      else if !octal.isEmpty then some ([Char.ofNat (valueIn 8 octal)], octal.length)
      else if c == 'x' then code 2
      else if !wide then some (['\\', c], 1)
      else if c == 'u' then code 4
      else if c == 'U' then code 8
      else if c == 'N' then
        match rest with
        | '\x7b' :: named =>
          let name := named.takeWhile (· != '\x7d')
          if name.length < named.length then
            (Text.namedCharacter? (String.ofList name)).map fun found => ([found], name.length + 3)
          else none
        | _ => none
      else some (['\\', c], 1)

/-- Resolves escapes; `wide` escapes name characters and are for texts only. -/
def unescapeFrom (wide : Bool) : (skip : Nat) → List Char → Option (List Char)
  | _, [] => some []
  | skip + 1, _ :: rest => unescapeFrom wide skip rest
  | 0, '\\' :: rest => do
    let (found, width) ← escape? wide rest
    return found ++ (← unescapeFrom wide width rest)
  | 0, c :: rest => do return c :: (← unescapeFrom wide 0 rest)

end ByteRecord.Expr
