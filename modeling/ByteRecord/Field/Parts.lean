import ByteRecord.Pattern.Basic

/-! What the fields of a record consist of: a pattern, and the member that takes the matched bytes or
what a transform makes of them. A field without a member is only matched. -/
namespace ByteRecord

/-- An expression with what it was written as; a catalogue may write it as something else than
a text. -/
structure Expression where
  source : Value
  code : Expr
  location : Option Source.Location

/-- A member of a record, by name or by position. -/
inductive Member where
  | name (name : String)
  | position (position : Nat)
deriving DecidableEq, Repr

/-- What makes a value of matched bytes. -/
inductive Transform where
  | expression (expression : Expression)
  /-- A value that is called with the bytes. -/
  | function (function : Value)

structure Field where
  member : Option Member
  pattern : Pattern
  /-- The name under which the expression of the transform sees the bytes. -/
  binding : Option String
  transform : Option Transform
  location : Option Source.Location

namespace Field

def isMember (field : Field) : Bool :=
  field.member.isSome

def size (field : Field) : Nat :=
  field.pattern.size

end Field
end ByteRecord
