import ByteRecord.Value.Equality
import ByteRecord.Yaml.Scalar
import ByteRecord.Yaml.Text

/-! Documents: mappings and sequences, in blocks by indentation or in brackets, of scalars. -/
namespace ByteRecord.Yaml

private def isDash (place : Place) : Bool :=
  place.head? == some '-' && place.isSeparated

private def fuelOf (place : Place) : Nat :=
  2 * place.rest.length + 8

def scalar (inFlow : Bool) (indent : Nat) (place : Place) : Option (Value × Place) :=
  match place.head? with
  | some '\'' =>
    (singleQuoted (fuelOf place) place.advanced).map fun (text, place) =>
      (.str (String.ofList text), place)
  | some '"' =>
    (doubleQuoted (fuelOf place) place.advanced).map fun (text, place) =>
      (.str (String.ofList text), place)
  | _ =>
    if beginsPlain inFlow place then
      let (text, place) := plain inFlow indent (fuelOf place) place
      some (resolve text, place)
    else none

private def entry? (entries : List (Value × Value)) (key value : Value) :
    Option (List (Value × Value)) :=
  if key.isHashable then some (Value.insert entries key value) else none

mutual

def flowNode : (fuel : Nat) → Place → Option (Value × Place)
  | 0, _ => none
  | fuel + 1, place =>
    match place.head? with
    | some '[' => flowItems fuel [] place.advanced.skipSpace
    | some '\x7b' => flowEntries fuel [] place.advanced.skipSpace
    | _ => scalar true 0 place

/-- Reads the items of a sequence up to its closing bracket. An item with a colon is a mapping with
one entry. -/
def flowItems : (fuel : Nat) → List Value → Place → Option (Value × Place)
  | 0, _, _ => none
  | fuel + 1, items, place =>
    if place.head? == some ']' then some (.list items, place.advanced)
    else do
      let (item, place) ← flowNode fuel place
      let (item, place) ← flowPair fuel item place.skipSpace
      match place.head? with
      | some ',' => flowItems fuel (items ++ [item]) place.advanced.skipSpace
      | some ']' => some (.list (items ++ [item]), place.advanced)
      | _ => none

def flowPair : (fuel : Nat) → Value → Place → Option (Value × Place)
  | 0, _, _ => none
  | fuel + 1, item, place =>
    if place.head? == some ':' then do
      let (value, place) ← flowValue fuel place.advanced.skipSpace
      return (.dict (← entry? [] item value), place)
    else some (item, place)

/-- Reads a value after a colon; it may be missing. -/
def flowValue : (fuel : Nat) → Place → Option (Value × Place)
  | 0, _ => none
  | fuel + 1, place =>
    match place.head? with
    | some ',' | some ']' | some '\x7d' => some (.none, place)
    | _ => do
      let (value, place) ← flowNode fuel place
      return (value, place.skipSpace)

/-- Reads the entries of a mapping up to its closing brace. -/
def flowEntries : (fuel : Nat) → List (Value × Value) → Place → Option (Value × Place)
  | 0, _, _ => none
  | fuel + 1, entries, place =>
    if place.head? == some '\x7d' then some (.dict entries, place.advanced)
    else do
      let (key, place) ← flowNode fuel place
      let place := place.skipSpace
      let (value, place) ←
        if place.head? == some ':' then flowValue fuel place.advanced.skipSpace
        else some (.none, place)
      let entries ← entry? entries key value
      match place.head? with
      | some ',' => flowEntries fuel entries place.advanced.skipSpace
      | some '\x7d' => some (.dict entries, place.advanced)
      | _ => none

end

/-- Reads a scalar or a value in brackets; a plain scalar goes on in lines indented by at least
`indent`. -/
def leaf (indent : Nat) (place : Place) : Option (Value × Place) :=
  match place.head? with
  | some '[' | some '\x7b' => flowNode (fuelOf place) place
  | _ => scalar false indent place

/-- The place behind the colon that makes a key of what was read from `start` to `stop`, on one
line. -/
private def colonAfter? (start stop : Place) : Option Place :=
  let stop := stop.skipBlanks
  if stop.line == start.line && stop.head? == some ':' && stop.isSeparated then
    some stop.advanced
  else none

mutual

/-- Reads a node that begins here, inside blocks that end at columns below `indent`. -/
def blockNode : (fuel : Nat) → (indent : Nat) → Place → Option (Value × Place)
  | 0, _, _ => none
  | fuel + 1, indent, place =>
    if isDash place then blockItems fuel place.column [] place
    else do
      let (value, stop) ← leaf indent place
      match colonAfter? place stop with
      | some after => blockEntries fuel place.column [] value after
      | none => some (value, stop)

/-- Reads the items of a sequence whose dashes stand in a column. -/
def blockItems : (fuel : Nat) → (column : Nat) → List Value → Place → Option (Value × Place)
  | 0, _, _, _ => none
  | fuel + 1, column, items, place => do
    let dash := place.advanced
    let next := dash.skipSpace
    let (item, place) ←
      if next.rest.isEmpty || next.column ≤ column then some (Value.none, dash)
      else blockNode fuel (column + 1) next
    let next := place.skipSpace
    if next.column == column && isDash next then blockItems fuel column (items ++ [item]) next
    else if next.rest.isEmpty || next.column ≤ column then some (.list (items ++ [item]), place)
    else none

/-- Reads the value after a colon and then the further entries of a mapping whose keys stand in a
column. -/
def blockEntries : (fuel : Nat) → (column : Nat) → List (Value × Value) → (key : Value) → Place →
    Option (Value × Place)
  | 0, _, _, _, _ => none
  | fuel + 1, column, entries, key, place => do
    let next := place.skipSpace
    let (value, place) ←
      if next.rest.isEmpty then some (Value.none, place)
      else if next.line == place.line then leaf (column + 1) next
      else if column < next.column then blockNode fuel (column + 1) next
      else if next.column == column && isDash next then blockItems fuel column [] next
      else some (Value.none, place)
    let entries ← entry? entries key value
    let next := place.skipSpace
    if next.rest.isEmpty || next.column < column then some (.dict entries, place)
    else if next.column == column && next.line != place.line then
      let (key, stop) ← leaf (column + 1) next
      let after ← colonAfter? next stop
      blockEntries fuel column entries key after
    else none

end

def read? (text : String) : Option Value := do
  let place := (Place.ofText text.toList).skipSpace
  if place.rest.isEmpty then return .none
  else
    let (value, place) ← blockNode (fuelOf place) 0 place
    if place.skipSpace.rest.isEmpty then return value else none

end ByteRecord.Yaml
