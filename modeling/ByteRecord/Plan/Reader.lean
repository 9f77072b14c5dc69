import ByteRecord.Field.Reader
import ByteRecord.Plan.Basic
import ByteRecord.Value.Vocabulary

/-! Plans in specification texts:
`[reader =>] type.path \x7b field, … [..rest] \x7d`. -/
namespace ByteRecord.Plan
open Source

structure Declaration where
  reader : Option Expression
  path : List String
  target : Value
  fields : List Field
  rest : Option Expression

/-- Reads the reader, if an arrow follows the expression that comes first. -/
def readReader : Reading (Option Expression) := do
  let start ← get
  if start.atEnd then return none
  else
    let _ ← Reading.takeExpression true .struct
    if (← get).atArrow then
      set start
      let reader ← Reading.takeCompiled true .struct
      Reading.expectArrow .struct .arrow
      return some reader
    else
      set start
      return none

/-- Reads the names of a path after the first; each takes a dot and a name. -/
def readPathFrom : (fuel : Nat) → Reading (List String)
  | 0 => return []
  | fuel + 1 => do
    if (← get).atOp "." then
      let _ ← Reading.next
      if (← get).atName then
        let name ← Reading.next
        return name.text :: (← readPathFrom fuel)
      else Reading.fail .struct .nameAfterDot
    else return []

def readPath : Reading (List String) := do
  let cursor ← get
  if cursor.atName then
    let name ← Reading.next
    return name.text :: (← readPathFrom cursor.tokens.length)
  else Reading.fail .struct .typePath

private def followPath (path : String) (value : Value) : List String → Except Cause Value
  | [] => .ok value
  | part :: rest => match value.attribute? part with
    | some value => followPath path value rest
    | none => .error (.missingAttribute path part)

/-- The value that a path leads to; it must be something to call. -/
def resolvePath (scope : Scope) (path : List String) : Except Cause Value := do
  let shown := ".".intercalate path
  let head := path.headD ""
  match (scope.get? head).or (Value.predefined? head) with
  | none => .error (.undefinedType shown head)
  | some value =>
    let target ← followPath shown value path.tail
    if target.isCallable then .ok target else .error (.notCallable shown)

private theorem followPath_refused {path : String} {value : Value} {parts : List String}
    (refused : followPath path value parts = .error cause) : cause.isWritable = true := by
  induction parts generalizing value with
  | nil => cases refused
  | cons part rest ih =>
    rw [followPath] at refused
    split at refused
    · exact ih refused
    · cases refused
      rfl

theorem resolvePath_refused {scope : Scope} {path : List String}
    (refused : resolvePath scope path = .error cause) : cause.isWritable = true := by
  unfold resolvePath at refused
  extract_lets shown head at refused
  split at refused
  · cases refused
    rfl
  · rcases bind_error_iff.mp refused with failed | ⟨target, -, refused⟩
    · exact followPath_refused failed
    · split at refused
      · cases refused
      · cases refused
        rfl

def readBody : (fuel : Nat) → Reading (List Field × Option Expression)
  | 0 => return ([], none)
  | fuel + 1 => do
    let cursor ← get
    if cursor.atOp "\x7d" then return ([], none)
    else if cursor.atRest then
      Reading.skip 2
      return ([], some (← Reading.takeCompiled false .struct))
    else
      let field ← Field.read
      if (← get).atOp "\x7d" then return ([field], none)
      else
        let _ ← Reading.expectOp "," .field .separator
        let (fields, rest) ← readBody fuel
        return (field :: fields, rest)

/-- Reads a whole specification; its path is looked up in a scope. -/
def readDeclaration (scope : Scope) : Reading Declaration := do
  let reader ← readReader
  let location := (← get).location
  let path ← readPath
  let target ← (resolvePath scope path).mapError (Fault.ofCauseAt (some location) .struct)
  let _ ← Reading.expectOp "\x7b" .struct (.fieldsOf (".".intercalate path))
  let (fields, rest) ← readBody ((← get).tokens.length + 1)
  let _ ← Reading.expectOp "\x7d" .struct .closing
  if (← get).atEnd then return ⟨reader, path, target, fields, rest⟩
  else Reading.fail .struct .finish

/-- The plan that a specification text describes. -/
def ofText (interpreter : Interpreter σ) (scope : Scope) (source : String) : Action σ Plan := do
  let cursor ← Cursor.ofText source.toList
  let declaration ← (readDeclaration scope).run cursor |>.1
  build interpreter (.call declaration.target) declaration.fields
    (declaration.rest.map .expression) scope declaration.reader
    (.str (".".intercalate declaration.path))

end ByteRecord.Plan
