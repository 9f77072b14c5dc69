import ByteRecord.Catalogue.Compile
import ByteRecord.Proofs.Effect.Unchanged
import ByteRecord.Proofs.Expr.Results

/-! The conversions of a catalogue: transforms that make a number of the bytes of their field. Each
has no side effects, whatever the bytes are, and it succeeds on as many bytes as it needs. -/
namespace ByteRecord
open ByteRecord.Expr (Gives GivesAll)

inductive Conversion where
  /-- The whole number that all bytes spell. -/
  | whole (isLittle : Bool)
  /-- The first byte. -/
  | first
  /-- The floating point number of eight bytes. -/
  | double

namespace Conversion

def code : Conversion → Expr
  | whole isLittle => .group (.call (.attribute (.name "int") "from_bytes")
      [.name "raw", .const (.str (if isLittle then "little" else "big"))])
  | first => .group (.subscript (.name "raw") (.const (.int 0)))
  | double => .group (.subscript (.call (.attribute (.name "struct") "unpack")
      [.const (.str "<d"), .name "raw"]) (.const (.int 0)))

/-- The conversion of which this is the expression. -/
def ofCode? : Expr → Option Conversion
  | .group (.call (.attribute (.name "int") "from_bytes") [.name "raw", .const (.str "little")]) =>
    some (whole true)
  | .group (.call (.attribute (.name "int") "from_bytes") [.name "raw", .const (.str "big")]) =>
    some (whole false)
  | .group (.subscript (.name "raw") (.const (.int 0))) => some first
  | .group (.subscript (.call (.attribute (.name "struct") "unpack")
      [.const (.str "<d"), .name "raw"]) (.const (.int 0))) => some double
  | _ => none

theorem code_of_ofCode? {e : Expr} {conversion : Conversion}
    (read : ofCode? e = some conversion) : e = conversion.code := by
  unfold ofCode? at read
  split at read <;> cases read <;> rfl

def fits : Conversion → Nat → Bool
  | whole _, _ => true
  | first, count => 0 < count
  | double, count => count == 8

def result (conversion : Conversion) (raw : List UInt8) : Except Failure Value :=
  match conversion with
  | whole isLittle => .ok (.int (Value.ofBytes isLittle false raw))
  | first => Value.item (.bytes raw) (.int 0)
  | double => do Value.item (.tuple (← Value.unpack ['<', 'd'] raw)) (.int 0)

theorem result_of_fits {conversion : Conversion} {raw : List UInt8}
    (fits : conversion.fits raw.length = true) : ∃ value, conversion.result raw = .ok value := by
  cases conversion with
  | whole isLittle => exact ⟨_, rfl⟩
  | first =>
    cases raw with
    | nil => cases fits
    | cons byte raw => exact ⟨_, Value.item_bytes_zero byte raw⟩
  | double =>
    rw [result, Value.unpack_double (eq_of_beq fits)]
    exact ⟨_, rfl⟩

/-- A scope in which conversions mean what they mean by themselves. -/
structure Prepared (scope : Scope) : Prop where
  struct : scope.get? "struct" = some (.module .struct)
  int : scope.get? "int" = none

/-- The expression of a conversion comes to its result, whatever the bytes are. -/
theorem gives (conversion : Conversion) {scope : Scope} (prepared : Prepared scope)
    (raw : List UInt8) (counts : Expr.Counts) :
    Gives ⟨scope.set "raw" (.bytes raw), counts⟩ conversion.code (conversion.result raw) := by
  let world : World Expr.Counts := ⟨scope.set "raw" (.bytes raw), counts⟩
  have bytes : Gives world (.name "raw") (.ok (.bytes raw)) := by
    refine .name ?_
    rw [Scope.get?_set_self]
    rfl
  cases conversion with
  | whole isLittle =>
    have int : Gives world (.name "int") (.ok (.type .int)) := by
      refine .name ?_
      rw [Scope.get?_set_of_ne _ _ (by decide), prepared.int]
      rfl
    have order := GivesAll.cons bytes (.cons (.str (if isLittle then "little" else "big")) .nil
      nofun nofun nofun) nofun nofun nofun
    have called := (int.attributeOf "from_bytes" rfl).call order
    refine .group ?_
    cases isLittle <;> exact called
  | first => exact .group (bytes.subscript (.int 0))
  | double =>
    have struct : Gives world (.name "struct") (.ok (.module .struct)) := by
      refine .name ?_
      rw [Scope.get?_set_of_ne _ _ (by decide), prepared.struct]
      rfl
    have layout := GivesAll.cons (.str "<d") (.cons bytes .nil nofun nofun nofun) nofun nofun nofun
    have called := (struct.attributeOf "unpack" rfl).call layout
    -- What is unpacked is a tuple, of which the conversion takes the first item.
    have unpacks : Value.call (.builtin .unpack) ⟨[.str "<d", .bytes raw], []⟩ =
        (Value.unpack ['<', 'd'] raw).map .tuple := rfl
    rw [unpacks] at called
    have number := called.subscript (.int 0)
    refine .group ?_
    rw [result]
    cases unpacked : Value.unpack ['<', 'd'] raw with
    | error failure =>
      rw [unpacked] at number
      exact number
    | ok values =>
      rw [unpacked] at number
      exact number

end Conversion
end ByteRecord
