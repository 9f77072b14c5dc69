import ByteRecord.Expr.Elements
import ByteRecord.Pattern.Forms
import ByteRecord.Source.Cursor

/-! Patterns in specification texts: string literals are hex literals or byte strings, and a list
display is an array whose elements are bytes, `_`, or expressions. -/
namespace ByteRecord.Pattern
open Source

def ofLiteral (literal : String) (location : Location) : Except Fault Pattern :=
  let text := literal.toList
  let read := if text.contains '\x00' then none else Expr.ofText? text
  match read with
  | some (.const (.bytes data)) => .ok (ofBytes data)
  | some (.const (.str digits)) =>
    (ofHex digits.toList).mapError (.mapSpecification ({ · with location := some location }))
  | _ => .error (.ofCauseAt (some location) .pattern (.stringLiteral literal))

/-- An expression that stands for a range of numbers. -/
def isRangeExpr (e : Expr) : Bool :=
  match e with
  | .const .ellipsis => true
  | .call function _ => match function.ungroup with
    | .name "range" => true
    | _ => false
  | _ => false

/-- A literal, possibly with signs before it. -/
def isLiteralExpr : Expr → Bool
  | .const _ => true
  | .unary .plus operand | .unary .minus operand => isLiteralExpr operand
  | .group inner => isLiteralExpr inner
  | _ => false

/-- The whole number that a literal with at most one sign spells. -/
def literalInt? (e : Expr) : Option Int :=
  match e with
  | .const (.int n) => some n
  | .unary sign operand =>
    match sign, operand.ungroup with
    | .plus, .const (.int n) => some n
    | .minus, .const (.int n) => some (-n)
    | _, _ => none
  | _ => none

def elementMatcher (location : Location) (element : Expr.Element) : Except Fault Matcher :=
  let source := String.ofList element.text
  let refuse (cause : Cause) : Except Fault Matcher :=
    .error (.ofCauseAt (some location) .pattern cause)
  if isRangeExpr element.expr then refuse .range
  else match element.expr with
    | .name "_" => .ok .wildcard
    | .starred _ => refuse (.unpacking source)
    | e =>
      if isLiteralExpr e then
        match literalInt? e with
        | some n =>
          (exactByte n).mapError (.mapSpecification ({ · with location := some location }))
        | none => refuse (.literalAsByte source)
      else do
        let code ← Expression.codeOf (some location) .pattern element.text
        return .deferred ⟨source, .inl code, some location⟩

def ofDisplay (text : List Char) (location : Location) : Except Fault Pattern :=
  let text := Text.trim text
  let refuse (cause : Cause) : Except Fault Pattern :=
    .error (.ofCauseAt (some location) .pattern cause)
  if text.contains '\x00' then refuse (.invalidArray (String.ofList text))
  else match Expr.Display.ofText text with
    | .malformed => refuse (.invalidArray (String.ofList text))
    | .other => refuse (.notArray (String.ofList text))
    | .list elements => do
      return ⟨← elements.mapM (elementMatcher location), .array⟩

def read : Reading Pattern := do
  let cursor ← get
  let token := cursor.current
  if token.kind == .string then
    let _ ← Reading.next
    ofLiteral token.text token.start
  else if cursor.atOp "[" then
    let (text, location) ← Reading.takeExpression true .pattern
    ofDisplay text location
  else Reading.fail .pattern .pattern

/-- The pattern that a text begins with. -/
def ofSource (text : List Char) : Except Fault Pattern := do
  (read.run (← Cursor.ofText text)).1

end ByteRecord.Pattern
