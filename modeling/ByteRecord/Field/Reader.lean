import ByteRecord.Field.Basic
import ByteRecord.Pattern.Reader

/-! Fields in specification texts: `member: [binding @] pattern [=> expression]`. -/
namespace ByteRecord.Field
open Source

/-- Reads a member: `_` for none, a name, or a position in digits. -/
def readMember : Reading Value := do
  let token := (← get).current
  if token.kind == .name then
    let _ ← Reading.next
    return if token.text == "_" then .none else .str token.text
  else if token.kind == .number && token.text.toList.all Text.isAsciiDigit then
    let _ ← Reading.next
    match Number.readInt? token.text.toList with
    | some position => return .int position
    | none => throw (.failure .value)
  else Reading.fail .field .member

def requireMember (member : Value) : Reading Unit := do
  match member with
  | .none => throw (.ofCauseAt (some (← get).location) .field .skipWithTransform)
  | _ => return

/-- Reads a binding: a name and `@`. -/
def readBinding (member : Value) : Reading Value := do
  let cursor ← get
  if !cursor.atName then return .none
  else if !(cursor.peek 1).isOp "@" then Reading.fail .field .patternAfterName
  else
    requireMember member
    let name ← Reading.next
    let _ ← Reading.next
    return .str name.text

def readTransform (member binding : Value) : Reading (Option Transform) := do
  let isBound := match binding with
    | .none => false
    | _ => true
  if isBound || (← get).atArrow then
    requireMember member
    Reading.expectArrow .field .arrowAndExpression
    return some (.expression (← Reading.takeCompiled false .field))
  else return none

def read : Reading Field := do
  let location := (← get).location
  let member ← readMember
  let _ ← Reading.expectOp ":" .field .colon
  let binding ← readBinding member
  let pattern ← Pattern.read
  let transform ← readTransform member binding
  ofParts member pattern binding transform (some location)

end ByteRecord.Field
