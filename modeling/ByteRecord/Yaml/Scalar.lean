import ByteRecord.Expr.Literal
import ByteRecord.Value.Basic

/-! What plain scalars stand for: null, truth values, numbers in several notations, or their
text. -/
namespace ByteRecord.Yaml

private def digitsIn (base : Nat) (digits : List Char) : Nat :=
  digits.foldl (fun value c => value * base + (Hex.digitValue? c).getD 0) 0

private def isDigitOf (base : Nat) (c : Char) : Bool :=
  c == '_' || (Hex.digitValue? c).any (· < base)

private def splitSign : List Char → Bool × List Char
  | '-' :: rest => (true, rest)
  | '+' :: rest => (false, rest)
  | rest => (false, rest)

/-- A part of a number in base sixty: one digit, or two of which the first is at most five. -/
private def sixtieth? (digits : List Char) : Option Nat :=
  match digits with
  | [a] => if a.isDigit then some (digitsIn 10 [a]) else none
  | [a, b] =>
    if '0' ≤ a && a ≤ '5' && b.isDigit then some (digitsIn 10 [a, b]) else none
  | _ => none

private def sexagesimal? (digits : List Char) : Option Nat :=
  match digits.splitOn ':' with
  | first :: second :: rest =>
    if first.head?.any (fun c => '1' ≤ c && c ≤ '9') && first.all (isDigitOf 10) then do
      let parts ← (second :: rest).mapM sixtieth?
      return parts.foldl (fun value part => value * 60 + part)
        (digitsIn 10 (first.filter (· != '_')))
    else none
  | _ => none

/-- The magnitude of a whole number: binary, octal, decimal, hexadecimal, or in base sixty. -/
private def magnitude? (digits : List Char) : Option Nat :=
  let value (base : Nat) (digits : List Char) : Option Nat :=
    if digits.all (isDigitOf base) then some (digitsIn base (digits.filter (· != '_'))) else none
  match digits with
  | '0' :: 'b' :: rest => if rest.isEmpty then none else value 2 rest
  | '0' :: 'x' :: rest => if rest.isEmpty then none else value 16 rest
  | ['0'] => some 0
  | '0' :: rest => value 8 rest
  | first :: _ =>
    if '1' ≤ first && first ≤ '9' then (value 10 digits).or (sexagesimal? digits) else none
  | [] => none

def int? (text : List Char) : Option Int := do
  let (negative, digits) := splitSign text
  let value ← magnitude? digits
  return if negative then -(value : Int) else value

private def exponent? (text : List Char) : Bool :=
  match text with
  | [] => true
  | e :: sign :: digits =>
    (e == 'e' || e == 'E') && (sign == '+' || sign == '-') && !digits.isEmpty &&
      digits.all Char.isDigit
  | _ => false

/-- A number with a point; an exponent has a sign. -/
private def isPointed (digits : List Char) : Bool :=
  let (whole, rest) := digits.span (isDigitOf 10)
  match rest with
  | '.' :: fraction =>
    let (fraction, exponent) := fraction.span (isDigitOf 10)
    let startsWithDigit (digits : List Char) : Bool := digits.head?.any Char.isDigit
    (if whole.isEmpty then startsWithDigit fraction else startsWithDigit whole) &&
      exponent? exponent
  | _ => false

def float? (text : List Char) : Option Float :=
  let (negative, digits) := splitSign text
  let signed (x : Float) : Float := if negative then -x else x
  if [".inf", ".Inf", ".INF"].contains (String.ofList digits) then
    some (signed (Number.infinity false))
  else if [".nan", ".NaN", ".NAN"].contains (String.ofList text) then some (0.0 / 0.0)
  -- a point in front takes no sign
  else if isPointed digits && (digits.head? != some '.' || digits == text) then
    match Expr.numberValue? (digits.filter (· != '_')) with
    | some (.float x) => some (signed x)
    | _ => none
  else none

private def isNull (text : String) : Bool :=
  ["", "~", "null", "Null", "NULL"].contains text

private def truth? (text : String) : Option Bool :=
  if ["yes", "Yes", "YES", "true", "True", "TRUE", "on", "On", "ON"].contains text then some true
  else if ["no", "No", "NO", "false", "False", "FALSE", "off", "Off", "OFF"].contains text then
    some false
  else none

/-- The value of a plain scalar. -/
def resolve (text : List Char) : Value :=
  let shown := String.ofList text
  if isNull shown then .none
  else match truth? shown, int? text, float? text with
    | some b, _, _ => .bool b
    | _, some n, _ => .int n
    | _, _, some x => .float x
    | _, _, _ => .str shown

end ByteRecord.Yaml
