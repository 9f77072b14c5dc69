import ByteRecord.Hex.Digit

/-! What a hex literal is made of. -/
namespace ByteRecord.Hex

/-- A pair of characters: two digits, `__` or `..`. -/
inductive Token where
  /-- One byte of this value. -/
  | exact (byte : UInt8)
  /-- Any one byte. -/
  | wildcard
  /-- Any number of bytes. -/
  | openRange
deriving DecidableEq, Repr

/-- The two characters of a token, digits in upper case. -/
def Token.text : Token → List Char
  | .exact byte => upperByte byte
  | .wildcard => ['_', '_']
  | .openRange => ['.', '.']

def Token.accepts (token : Token) (byte : Int) : Bool :=
  match token with
  | .exact value => byte == value.toNat
  | .wildcard | .openRange => true

end ByteRecord.Hex
