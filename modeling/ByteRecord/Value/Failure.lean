import ByteRecord.Text.Quoted

/-! Why an evaluation fails. -/
namespace ByteRecord

inductive Failure where
  /-- An operation on values of the wrong type. -/
  | type
  /-- A value of the right type that is out of range or malformed. -/
  | value
  | key
  | index
  | unbound (name : String)
  | zeroDivision
  | attribute
  /-- A text that an encoding cannot express. -/
  | encode
  /-- Bytes that are no text in an encoding. -/
  | decode
  /-- A packed layout that is malformed or does not fit its bytes. -/
  | packed
  | overflow
  /-- A construct that can be read but not evaluated. -/
  | unsupported
  /-- An exception of another class. -/
  | other (className : String)
deriving DecidableEq, Repr

namespace Failure

/-- The class under which a failure is reported. -/
def className : Failure → String
  | .type => "TypeError"
  | .value => "ValueError"
  | .key => "KeyError"
  | .index => "IndexError"
  | .unbound _ => "NameError"
  | .zeroDivision => "ZeroDivisionError"
  | .attribute => "AttributeError"
  | .encode => "UnicodeEncodeError"
  | .decode => "UnicodeDecodeError"
  | .packed => "error"
  | .overflow => "OverflowError"
  | .unsupported => "NotImplementedError"
  | .other className => className

/-- An unbound name is shown; other failures only by their class. -/
def message : Failure → String
  | .unbound name => "name " ++ Text.quoted name ++ " is not defined"
  | failure => "<" ++ failure.className ++ ">"

end Failure
end ByteRecord
