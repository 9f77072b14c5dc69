import ByteRecord.Fault.Cause

/-! Errors in specifications: their kind, their cause, and where they stand. -/
namespace ByteRecord

inductive SpecificationKind where
  | hexLiteral
  | pattern
  | field
  | struct
  | layout
deriving DecidableEq, Repr

def SpecificationKind.className : SpecificationKind → String
  | .hexLiteral => "HexLexError"
  | .pattern => "PatternSyntaxError"
  | .field => "FieldSyntaxError"
  | .struct => "StructSyntaxError"
  | .layout => "LayoutError"

structure SpecificationError where
  kind : SpecificationKind
  cause : Cause
  location : Option Source.Location
  /-- The format that the specification belongs to, as its messages show it. -/
  format : Option String

namespace SpecificationError

/-- What is wrong, without where and without advice. -/
def summary (error : SpecificationError) : String :=
  match error.format with
  | some name => "format " ++ name ++ ": " ++ error.cause.message
  | none => error.cause.message

def hint? (error : SpecificationError) : Option String :=
  error.cause.hint?

/-- The whole message: where, what, and on a second line what to do about it. -/
def message (error : SpecificationError) : String :=
  let place := match error.location with
    | some location =>
      "line " ++ Number.natText location.line ++ ", column " ++
        Number.natText location.column ++ ": "
    | none => ""
  let advice := match error.hint? with
    | some hint => "\nhelp: " ++ hint
    | none => ""
  place ++ error.summary ++ advice

/-- The error at a place, unless it has one already. -/
def locateIfMissing (error : SpecificationError) (location : Option Source.Location) :
    SpecificationError :=
  { error with location := error.location.or location }

end SpecificationError
end ByteRecord
