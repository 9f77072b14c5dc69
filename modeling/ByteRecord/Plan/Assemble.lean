import ByteRecord.Plan.Basic

/-! The record made of the values of the fields. Positions become arguments by position, names
arguments by name; what no field supplies may come from a rest. -/
namespace ByteRecord.Plan

abbrev Members := List (Member × Value)

def positional (members : Members) : List Value :=
  let found := members.filterMap fun (member, value) =>
    member.position?.map fun k => (k, value)
  (found.mergeSort fun a b => a.1 ≤ b.1).map (·.2)

def named (members : Members) : List (String × Value) :=
  members.filterMap fun (member, value) => member.name?.map fun name => (name, value)

def construct (interpreter : Interpreter σ) (target : Target) (arguments : Value.Arguments) :
    Effect σ Value :=
  match target with
  | .call function => .call interpreter function arguments
  | .entries =>
    let byPosition := arguments.positional.zipIdx.map fun (value, k) => (Value.int k, value)
    let byName := arguments.named.map fun (name, value) => (Value.str name, value)
    return .dict (Value.ofEntries (byPosition ++ byName))

/-- The entries of a mapping as named values; every key must be a text. -/
def namedEntries (entries : List (Value × Value)) : Except Failure (List (String × Value)) :=
  entries.mapM fun entry => match entry with
    | (.str name, value) => .ok (name, value)
    | _ => .error .type

/-- Sets a named value; a known name keeps its place. -/
def setNamed (values : List (String × Value)) (name : String) (value : Value) :
    List (String × Value) :=
  if values.any (·.1 == name) then
    values.map fun (other, old) => if other == name then (other, value) else (other, old)
  else values ++ [(name, value)]

/-- The parts of a record by name, with the values of positions under the names of the fields in
order. No part may be given twice. -/
def changes (fieldNames : List String) (args : List Value) (own : List (String × Value)) :
    Except Failure (List (String × Value)) :=
  let byPosition := fieldNames.zip args
  if own.any fun (name, _) => byPosition.any (·.1 == name) then .error .type
  else .ok (byPosition ++ own)

/-- The arguments for a copy of a record: the parts that are changed, and then all others as they
are. -/
def copyArguments (parts changed : List (String × Value)) : Value.Arguments :=
  ⟨[], changed ++ parts.filter fun (name, _) => !changed.any (·.1 == name)⟩

/-- Fills in what the fields do not supply: from a mapping, or by changing a record. The copy of a
plain record is made by the class of that record, in the place of the target; a tuple with names is
copied as it is. -/
def fillFromRest (interpreter : Interpreter σ) (target : Target) (rest : Value)
    (args : List Value) (own : List (String × Value)) : Effect σ Value :=
  match rest with
  | .dict entries => do
    let given ← Effect.ofResult (namedEntries entries)
    let all := own.foldl (fun values (name, value) => setNamed values name value) given
    construct interpreter target ⟨args, all⟩
  | .record t parts => match t.kind with
    | .plain => do
      let changed ← Effect.ofResult (changes (parts.map (·.1)) args own)
      Effect.call interpreter (.type (.record t)) (copyArguments parts changed)
    | .tuple => do
      let changed ← Effect.ofResult (changes (parts.map (·.1)) args own)
      return .record t (← Effect.ofResult (Value.replaceParts parts changed))
    | .loose => throw (.notFillable t.name)
  | .type (.record ⟨_, .tuple, _⟩) => throw (.failure .type)
  | rest => throw (.notFillable rest.typeName)

def assemble (interpreter : Interpreter σ) (plan : Plan) (members : Members) :
    Effect σ Value := do
  let args := positional members
  let own := named members
  match plan.rest with
  | none => construct interpreter plan.target ⟨args, own⟩
  | some (.value rest) => fillFromRest interpreter plan.target rest args own
  | some (.expression e) =>
    let rest ← Effect.evaluate interpreter e.code
    fillFromRest interpreter plan.target rest args own

end ByteRecord.Plan
