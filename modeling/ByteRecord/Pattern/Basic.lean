import ByteRecord.Value.Basic
import ByteRecord.Hex.Token
import ByteRecord.Source.Token

/-! Byte patterns: a matcher for each position. -/
namespace ByteRecord

/-- A position whose byte is computed when the pattern is matched. -/
structure Deferred where
  source : String
  /-- An expression, or a function without parameters. -/
  origin : Expr ⊕ Value
  location : Option Source.Location

inductive Matcher where
  | exact (value : Int)
  | wildcard
  | openRange
  | deferred (element : Deferred)

namespace Matcher

/-- A number as at least two hexadecimal digits, the sign counting as one. -/
private def hexText (value : Int) : String :=
  let digits (width : Nat) := Hex.paddedText Hex.upperDigit width value.natAbs
  String.ofList (if value < 0 then '-' :: digits 1 else digits 2)

def text : Matcher → String
  | .exact value => hexText value
  | .wildcard => "__"
  | .openRange => ".."
  | .deferred element => element.source

theorem text_exact (value : Int) : (exact value).text = String.ofList (if value < 0 then
    '-' :: Hex.paddedText Hex.upperDigit 1 value.natAbs
    else Hex.paddedText Hex.upperDigit 2 value.natAbs) := rfl

def isRange : Matcher → Bool
  | .openRange => true
  | _ => false

def exactValue? : Matcher → Option Int
  | .exact value => some value
  | _ => none

def ofToken : Hex.Token → Matcher
  | .exact byte => .exact byte.toNat
  | .wildcard => .wildcard
  | .openRange => .openRange

theorem text_ofToken (token : Hex.Token) : (ofToken token).text = String.ofList token.text := by
  cases token with
  | exact byte =>
    have natural : ¬(byte.toNat : Int) < 0 := by omega
    simp only [ofToken, text, hexText, natural, if_false, Int.natAbs_natCast]
    exact congrArg String.ofList (Hex.paddedText_upperDigit byte.toNat_lt)
  | wildcard => rfl
  | openRange => rfl

end Matcher

namespace Pattern

/-- The form in which a pattern is written. -/
inductive Form where
  | hex
  | bytes
  | array
deriving DecidableEq, Repr

def Form.name : Form → String
  | .hex => "hex"
  | .bytes => "bytes"
  | .array => "array"

end Pattern

structure Pattern where
  matchers : List Matcher
  form : Pattern.Form

namespace Pattern

def size (pattern : Pattern) : Nat :=
  pattern.matchers.length

def hasRanges (pattern : Pattern) : Bool :=
  pattern.matchers.any Matcher.isRange

def isLiteral (pattern : Pattern) : Bool :=
  pattern.matchers.all fun matcher => matcher.exactValue?.isSome

/-- How a pattern is displayed: `[48, 45, __]`. -/
def text (pattern : Pattern) : String :=
  "[" ++ ", ".intercalate (pattern.matchers.map Matcher.text) ++ "]"

/-- The elements that are computed, in order. -/
def deferred (pattern : Pattern) : List Deferred :=
  pattern.matchers.filterMap fun matcher => match matcher with
    | .deferred element => some element
    | _ => none

end Pattern
end ByteRecord
