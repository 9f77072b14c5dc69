import ByteRecord.Field.Parts
import ByteRecord.Hex.Digit
import ByteRecord.Number.Shortest

/-! Why data is no record. -/
namespace ByteRecord

/-- A failure of the device behind a reader. -/
structure Interruption where
  className : String
  text : String
deriving DecidableEq, Repr

inductive ParseError where
  /-- The stream was interrupted or ended within a field. -/
  | read (field : Field) (received : Nat) (cause : Option Interruption)
  /-- The bytes of a field do not match its pattern. -/
  | mismatch (field : Field) (observed : List UInt8)

namespace ParseError

def className : ParseError → String
  | .read _ _ _ => "ReadError"
  | .mismatch _ _ => "MismatchError"

def field : ParseError → Field
  | .read field _ _ => field
  | .mismatch field _ => field

/-- How many bytes the field asks for. -/
def requested (error : ParseError) : Nat :=
  error.field.size

/-- What the field expects, as it is displayed. -/
def expected (error : ParseError) : String :=
  error.field.pattern.text

def message (error : ParseError) : String :=
  match error with
  | .read _ received (some cause) =>
    "read failed after " ++ Number.natText received ++ " of " ++
      Number.natText error.requested ++ " bytes: " ++ cause.text
  | .read _ received none =>
    "unexpected end of stream: needed " ++ Number.natText error.requested ++ " bytes, got " ++
      Number.natText received
  | .mismatch _ observed =>
    "expected `" ++ error.expected ++ "`, got `" ++ Hex.formatBytes observed ++ "`"

end ParseError
end ByteRecord
