/-! Operators and brackets, longest first. -/
namespace ByteRecord.Lexical

def operators : List (List Char) :=
  ["**=", "...", "//=", ">>=", "<<=", "!=", "%=", "&=", "**", "*=", "+=", "-=", "->", "//", "/=",
    ":=", "<<", "<=", "==", ">=", ">>", "@=", "^=", "|=", "%", "&", "(", ")", "*", "+", ",", "-",
    ".", "/", ":", ";", "<", "=", ">", "@", "[", "]", "^", "\x7b", "|", "\x7d",
    "~"].map String.toList

/-- The width of the operator that a text begins with, or `0`. -/
def operatorWidth (text : List Char) : Nat :=
  ((operators.find? (·.isPrefixOf text)).map List.length).getD 0

def isOpening (text : String) : Bool :=
  text == "(" || text == "[" || text == "\x7b"

def isClosing (text : String) : Bool :=
  text == ")" || text == "]" || text == "\x7d"

theorem operatorWidth_le (text : List Char) : operatorWidth text ≤ text.length := by
  unfold operatorWidth
  cases found : operators.find? (·.isPrefixOf text) with
  | none => exact Nat.zero_le _
  | some operator =>
    have starts := List.find?_some found
    exact (List.isPrefixOf_iff_prefix.mp starts).length_le

end ByteRecord.Lexical
