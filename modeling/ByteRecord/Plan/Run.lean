import ByteRecord.Field.Evaluate
import ByteRecord.Plan.Assemble
import ByteRecord.Plan.Buffer

/-! Running a plan: each field reads its bytes into the buffer, they are matched, and the field's
value is stored. The first field that cannot be read or does not match ends the parse, with an
error that is part of the outcome. -/
namespace ByteRecord

structure Outcome where
  value : Except ParseError Value
  consumed : Nat

namespace Outcome

def isOk (outcome : Outcome) : Bool :=
  outcome.value.toBool

/-- The record; a stored error is raised. -/
def unwrap (outcome : Outcome) : Except Fault Value :=
  outcome.value.mapError .parse

end Outcome

namespace Plan

structure Run (σ ρ : Type) where
  world : World σ
  reader : ρ
  /-- Holds the bytes of one field after another. -/
  buffer : List UInt8

/-- A computation on a parse; a fault is none of the data but of an expression or a reader. -/
abbrev Running (σ ρ α : Type) := ExceptT Fault (StateM (Run σ ρ)) α

namespace Running

/-- An effect within a parse; reader and buffer stay as they are. -/
def ofEffect (effect : Effect σ α) : Running σ ρ α := ExceptT.mk fun run =>
  let (result, world) := effect.run run.world
  (result, { run with world })

def fill [Reader ρ] (count : Nat) : Running σ ρ Filling := ExceptT.mk fun run =>
  let (filling, view, reader) := Filling.fill (run.buffer.take count) run.reader
  (.ok filling, { run with reader, buffer := view ++ run.buffer.drop count })

def filled (count : Nat) : Running σ ρ (List UInt8) := ExceptT.mk fun run =>
  (.ok (run.buffer.take count), run)

end Running

def memberValue (interpreter : Interpreter σ) (field : Field) (raw : List UInt8) :
    Effect σ Members :=
  match field.member with
  | none => return []
  | some member => do return [(member, ← field.evaluate interpreter raw)]

/-- Matches the bytes of a field: what the field stores, or a mismatch. -/
def matchField (interpreter : Interpreter σ) (field : Field) (raw : List UInt8) :
    Effect σ (Except ParseError Members) := do
  if ← .apart (field.pattern.accepts interpreter raw) then
    return .ok (← memberValue interpreter field raw)
  else return .error (.mismatch field raw)

/-- What a fault of a reader comes to: a read error that it raises is returned like one of the parse
itself. -/
def passedOn : Fault → Except Fault (Except ParseError Members × Nat)
  | .parse (.read field received cause) => .ok (.error (.read field received cause), received)
  | fault => .error fault

/-- A fault of a reader ends the parse, raised or returned. -/
theorem passedOn_cases (fault : Fault) :
    (∃ field received cause, fault = .parse (.read field received cause) ∧
      passedOn fault = .ok (.error (.read field received cause), received)) ∨
    (∀ field received cause, fault ≠ .parse (.read field received cause)) ∧
      passedOn fault = .error fault := by
  unfold passedOn
  split
  · next field received cause => exact .inl ⟨field, received, cause, rfl, rfl⟩
  · next other => exact .inr ⟨other, rfl⟩

theorem passedOn_ne (fault : Fault) (own : Members) (taken : Nat) :
    passedOn fault ≠ .ok (.ok own, taken) := by
  rcases passedOn_cases fault with ⟨_, _, _, -, same⟩ | ⟨-, same⟩ <;> rw [same] <;> nofun

/-- Reads one field; answers what it stores and how many bytes were taken. -/
def runField [Reader ρ] (interpreter : Interpreter σ) (field : Field) :
    Running σ ρ (Except ParseError Members × Nat) := do
  match ← Running.fill field.size with
  | .failed fault => passedOn fault
  | .short received cause => return (.error (.read field received cause), received)
  | .full =>
    let raw ← Running.filled field.size
    return (← Running.ofEffect (matchField interpreter field raw), field.size)

/-- Reads fields in order; answers the values of the members and how many bytes were taken. -/
def runFields [Reader ρ] (interpreter : Interpreter σ) :
    (consumed : Nat) → List Field → Running σ ρ (Except ParseError Members × Nat)
  | consumed, [] => return (.ok [], consumed)
  | consumed, field :: rest => do
    let (result, taken) ← runField interpreter field
    match result with
    | .error error => return (.error error, consumed + taken)
    | .ok own =>
      let (result, consumed) ← runFields interpreter (consumed + taken) rest
      return (result.map (own ++ ·), consumed)

section
variable [Reader ρ] (interpreter : Interpreter σ)

theorem runField_eq (field : Field) (run : Run σ ρ) :
    (runField interpreter field).run run =
      match Filling.fill (run.buffer.take field.size) run.reader with
      | (.failed fault, view, reader) =>
        (passedOn fault, ⟨run.world, reader, view ++ run.buffer.drop field.size⟩)
      | (.short received cause, view, reader) =>
        (.ok (.error (.read field received cause), received),
          ⟨run.world, reader, view ++ run.buffer.drop field.size⟩)
      | (.full, view, reader) =>
        let buffer := view ++ run.buffer.drop field.size
        let (result, world) :=
          (matchField interpreter field (buffer.take field.size)).run run.world
        (result.map (·, field.size), ⟨world, reader, buffer⟩) := by
  unfold runField
  rw [run_bind]
  simp only [Running.fill, ExceptT.run_mk]
  cases Filling.fill (run.buffer.take field.size) run.reader with
  | mk filling rest =>
    obtain ⟨view, reader⟩ := rest
    cases filling with
    | failed fault => exact run_lift (passedOn fault) _
    | short received cause => rfl
    | full =>
      simp only [run_bind, Running.filled, Running.ofEffect, ExceptT.run_mk]
      cases (matchField interpreter field
        ((view ++ run.buffer.drop field.size).take field.size)).run run.world with
      | mk result world => cases result <;> rfl

theorem runFields_nil (consumed : Nat) (run : Run σ ρ) :
    (runFields interpreter consumed []).run run = (.ok (.ok [], consumed), run) := rfl

theorem runFields_cons (consumed : Nat) (field : Field) (rest : List Field) (run : Run σ ρ) :
    (runFields interpreter consumed (field :: rest)).run run =
      match (runField interpreter field).run run with
      | (.error fault, run) => (.error fault, run)
      | (.ok (.error error, taken), run) => (.ok (.error error, consumed + taken), run)
      | (.ok (.ok own, taken), run) =>
        let (result, run) := (runFields interpreter (consumed + taken) rest).run run
        (result.map fun (result, consumed) => (result.map (own ++ ·), consumed), run) := by
  rw [runFields, run_bind]
  cases (runField interpreter field).run run with
  | mk first run =>
    cases first with
    | error fault => rfl
    | ok answer =>
      obtain ⟨result, taken⟩ := answer
      cases result with
      | error error => rfl
      | ok own =>
        simp only [run_bind]
        cases (runFields interpreter (consumed + taken) rest).run run with
        | mk later run => cases later <;> rfl

variable {interpreter} in
theorem of_runFields_cons {field : Field} {rest : List Field} {start after : Run σ ρ}
    {stored : Members} (read : (runFields interpreter consumed (field :: rest)).run start =
      (.ok (.ok stored, total), after)) :
    ∃ own taken others middle,
      (runField interpreter field).run start = (.ok (.ok own, taken), middle) ∧
      (runFields interpreter (consumed + taken) rest).run middle =
        (.ok (.ok others, total), after) ∧
      stored = own ++ others := by
  obtain ⟨⟨result, taken⟩, middle, first, read⟩ := run_bind_ok_iff.mp read
  cases result with
  | error error => cases read
  | ok own =>
    obtain ⟨⟨others, all⟩, last, later, read⟩ := run_bind_ok_iff.mp read
    cases others with
    | error error => cases read
    | ok others =>
      cases read
      exact ⟨own, taken, others, middle, first, later, rfl⟩

end

def run [Reader ρ] (interpreter : Interpreter σ) (plan : Plan) : Running σ ρ Outcome := do
  let (result, consumed) ← runFields interpreter 0 plan.fields
  match result with
  | .ok members =>
    let value ← Running.ofEffect (plan.assemble interpreter members)
    return ⟨.ok value, consumed⟩
  | .error error => return ⟨.error error, consumed⟩

theorem run_eq [Reader ρ] (interpreter : Interpreter σ) (plan : Plan) (start : Run σ ρ) :
    (plan.run interpreter).run start =
      match (runFields interpreter 0 plan.fields).run start with
      | (.error fault, run) => (.error fault, run)
      | (.ok (.error error, consumed), run) => (.ok ⟨.error error, consumed⟩, run)
      | (.ok (.ok members, consumed), run) =>
        let (result, world) := (plan.assemble interpreter members).run run.world
        (result.map fun value => ⟨.ok value, consumed⟩, { run with world }) := by
  unfold Plan.run
  rw [run_bind]
  cases (runFields interpreter 0 plan.fields).run start with
  | mk read run =>
    cases read with
    | error fault => rfl
    | ok answer =>
      obtain ⟨result, consumed⟩ := answer
      cases result with
      | error error => rfl
      | ok members =>
        simp only [run_bind, Running.ofEffect, ExceptT.run_mk]
        cases (plan.assemble interpreter members).run run.world with
        | mk value world => cases value <;> rfl

def buffer (plan : Plan) : List UInt8 :=
  .replicate plan.bufferSize 0

/-- The world that a parse starts in, with further names above those of the plan. -/
def world (plan : Plan) (names : Scope) (state : σ) : World σ :=
  ⟨plan.scope.layer names, state⟩

/-- Reads one record from a reader, with further names above those of the plan; also answers what
is left of the reader. -/
def parseStream [Reader ρ] (interpreter : Interpreter σ) (plan : Plan) (names : Scope)
    (reader : ρ) (state : σ) : (Except Fault Outcome × ρ) × σ :=
  let (result, run) := (plan.run interpreter).run ⟨plan.world names state, reader, plan.buffer⟩
  ((result, run.reader), run.world.state)

def streamOf (interpreter : Interpreter σ) (plan : Plan) (source : Value) :
    Effect σ Stream := do
  match source, plan.reader with
  | .none, none => throw (.noReader plan.name.plainText)
  | .none, some reader => do Stream.ofValue (← Effect.evaluate interpreter reader.code)
  | source, _ => Stream.ofValue source

/-- Reads one record from a value, or from the plan's own reader if there is none. -/
def parse (interpreter : Interpreter σ) (plan : Plan) (names : Scope) (source : Value) :
    Action σ Outcome := ExceptT.mk fun state =>
  match (plan.streamOf interpreter source).run (plan.world names state) with
  | (.error fault, world) => (.error fault, world.state)
  | (.ok stream, world) =>
    let (result, run) := (plan.run interpreter).run ⟨world, stream, plan.buffer⟩
    (result, run.world.state)

theorem parse_unsupplied (interpreter : Interpreter σ) {plan : Plan} {names : Scope} {source : Value}
    {state : σ} {world : World σ}
    (given : (plan.streamOf interpreter source).run (plan.world names state) =
      (.error fault, world)) :
    (plan.parse interpreter names source).run state = (.error fault, world.state) := by
  rw [parse, ExceptT.run_mk, given]

theorem parse_supplied (interpreter : Interpreter σ) {plan : Plan} {names : Scope} {source : Value}
    {state : σ} {world : World σ}
    (given : (plan.streamOf interpreter source).run (plan.world names state) =
      (.ok stream, world)) :
    (plan.parse interpreter names source).run state =
      (((plan.run interpreter).run ⟨world, stream, plan.buffer⟩).1,
        ((plan.run interpreter).run ⟨world, stream, plan.buffer⟩).2.world.state) := by
  rw [parse, ExceptT.run_mk, given]
  rfl

def parseBytes (interpreter : Interpreter σ) (plan : Plan) (names : Scope) (data : List UInt8) :
    Action σ Outcome := ExceptT.mk fun state =>
  let ((result, _), state) := plan.parseStream interpreter names (Stream.bytes data) state
  (result, state)

/-- Reads one record from the start of a file, given what opening it yields. -/
def parseFile (interpreter : Interpreter σ) (plan : Plan) (names : Scope)
    (content : Except Fault (List UInt8)) : Action σ Outcome := do
  plan.parseBytes interpreter names (← content)

def failureReport (plan : Plan) (outcome : Outcome) : Option String :=
  match outcome.value with
  | .ok _ => none
  | .error error =>
    some ("plan " ++ plan.name.plainText ++ " failed at byte " ++
      Number.natText outcome.consumed ++ ": " ++ error.message)

end Plan
end ByteRecord
