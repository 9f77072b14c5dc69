import ByteRecord.Catalogue.Format
import ByteRecord.Plan.Run

/-! Plans from formats. Records are mappings from members to values. -/
namespace ByteRecord.Format

/-- The scope of a format's expressions: packed layouts and the given names. -/
def scope (names : Scope) : Scope :=
  .layer ⟨[("struct", .module .struct)]⟩ names

def fieldOf (definition : FieldDefinition) : Except Fault Field := do
  let transform ← match definition.transform with
    | .none => .ok none
    | source => (Expression.ofValue source).map fun e => some (.expression e)
  Field.ofParts definition.member definition.pattern definition.binding transform none

/-- The field of a definition in a format of a name. The name says where its expression stands; with a
null character in it no expression is read. -/
def fieldIn (name : Value) (definition : FieldDefinition) : Except Fault Field :=
  match definition.transform with
  | .none => fieldOf definition
  | _ =>
    if name.plainText.toList.contains '\x00' then .error (.failure .value) else fieldOf definition

theorem fieldOf_of_fieldIn {name : Value} {definition : FieldDefinition} {field : Field}
    (made : fieldIn name definition = .ok field) : fieldOf definition = .ok field := by
  unfold fieldIn at made
  split at made
  · exact made
  · split at made
    · cases made
    · exact made

/-- The fields of the plan of a format, whose name must not be too long to be written. -/
def planFields (format : Format) : Except Fault (List Field) :=
  if format.name.hasOverlong then .error (.failure .value)
  else format.fields.mapM (fieldIn format.name)

def compile (interpreter : Interpreter σ) (format : Format) (names : Scope) : Action σ Plan := do
  let fields ← format.planFields
  let rest := match format.rest with
    | .none => none
    | value => some (.value value)
  Plan.build interpreter .entries fields rest (scope names) none format.name

end ByteRecord.Format
