import ByteRecord.Expr.Interpreter
import ByteRecord.Pattern.Basic

/-! Matching bytes against a pattern. Computed elements are evaluated from left to right, each in a
copy of the scope, and only as far as the bytes agree. -/
namespace ByteRecord

namespace Deferred

def outcome (interpreter : Interpreter σ) (element : Deferred) (scope : Scope) :
    StateM σ (Except Fault Value) :=
  match element.origin with
  | .inl e => interpreter.evaluateApart e scope
  | .inr function => interpreter.call function ⟨[], []⟩

/-- What a value means as an element: a whole number that is a byte. -/
def byteOf (element : Deferred) (value : Value) : Except Fault Nat :=
  match value with
  | .int n =>
    if 0 ≤ n && n ≤ 255 then .ok n.toNat
    else .error (.ofCauseAt element.location .pattern (.elementOutOfRange element.source n))
  | value => .error (.ofCauseAt element.location .pattern (.elementNotWhole element.source value))

def refusal (element : Deferred) (fault : Fault) : Fault :=
  if fault.isOrdinary then
    .ofCauseAt element.location .pattern (.elementFails element.source fault.reason)
  else fault

/-- A fault in an element is an error in its pattern, unless it ends the program. -/
theorem refusal_cases (element : Deferred) (fault : Fault) :
    (∃ className, fault = .exit className ∧ element.refusal fault = .exit className) ∨
      element.refusal fault = .specification
        ⟨.pattern, .elementFails element.source fault.reason, element.location, none⟩ := by
  cases fault with
  | exit className => exact .inl ⟨className, rfl, rfl⟩
  | _ => exact .inr rfl

def resolve (interpreter : Interpreter σ) (element : Deferred) (scope : Scope) :
    Action σ Nat := ExceptT.mk do
  match ← element.outcome interpreter scope with
  | .ok value => return element.byteOf value
  | .error fault => return .error (element.refusal fault)

end Deferred

def Matcher.accepts (interpreter : Interpreter σ) (matcher : Matcher) (byte : UInt8)
    (scope : Scope) : Action σ Bool :=
  match matcher with
  | .exact value => return value == byte.toNat
  | .wildcard | .openRange => return true
  | .deferred element => do return (← element.resolve interpreter scope) == byte.toNat

namespace Pattern

/-- Whether matchers take the bytes at their positions, up to the end of either. -/
def acceptsAll (interpreter : Interpreter σ) (scope : Scope) :
    List Matcher → List UInt8 → Action σ Bool
  | matcher :: matchers, byte :: data => do
    if ← matcher.accepts interpreter byte scope then acceptsAll interpreter scope matchers data
    else return false
  | _, _ => return true

/-- Whether bytes match a pattern. Without a range the lengths must be equal; with one, what stands
before it must match the head of the bytes and what stands behind it their end. -/
def accepts (interpreter : Interpreter σ) (pattern : Pattern) (data : List UInt8)
    (scope : Scope) : Action σ Bool :=
  let before := pattern.matchers.takeWhile fun matcher => !matcher.isRange
  match pattern.matchers.drop before.length with
  | [] =>
    if data.length == pattern.size then acceptsAll interpreter scope pattern.matchers data
    else return false
  | _ :: after => do
    if data.length < before.length + after.length then return false
    else if ← acceptsAll interpreter scope before (data.take before.length) then
      acceptsAll interpreter scope after (data.drop (data.length - after.length))
    else return false

end Pattern
end ByteRecord
