import ByteRecord.Expr.Interpreter
import ByteRecord.Field.Parts

/-! The value of a field. -/
namespace ByteRecord.Field

/-- The value that a field stores for matched bytes. With a binding the expression sees a copy of
the scope with the bytes in it; without one it sees the scope itself. -/
def evaluate (interpreter : Interpreter σ) (field : Field) (raw : List UInt8) :
    Effect σ Value :=
  match field.transform, field.binding with
  | none, _ => return .bytes raw
  | some (.expression e), some binding =>
    .evaluateApart interpreter (·.set binding (.bytes raw)) e.code
  | some (.expression e), none => .evaluate interpreter e.code
  | some (.function f), _ => .call interpreter f ⟨[.bytes raw], []⟩

end ByteRecord.Field
