import ByteRecord.Expr.Compile
import ByteRecord.Fault.Basic

/-! Expressions embedded in specifications. -/
namespace ByteRecord

namespace Expression

/-- Reads a text as an expression. -/
def codeOf (location : Option Source.Location) (kind : SpecificationKind) (text : List Char) :
    Except Fault Expr :=
  match Expr.compile text with
  | .ok code => .ok code
  | .error .malformed =>
    .error (.ofCauseAt location kind (.invalidExpression (String.ofList text)))

/-- The expression that the text of a value spells. -/
def ofValue (source : Value) : Except Fault Expression :=
  if source.hasOverlong then .error (.failure .value)
  else do
    return ⟨source, ← codeOf none .struct source.plainText.toList, none⟩

end Expression
end ByteRecord
