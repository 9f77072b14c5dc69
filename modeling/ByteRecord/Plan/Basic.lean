import ByteRecord.Pattern.Match
import ByteRecord.Plan.Layout

/-! Plans: fields to be read in order, and the record that is made of their values. -/
namespace ByteRecord

inductive Target where
  /-- A value that is called with the members as arguments. -/
  | call (function : Value)
  /-- A mapping from positions and names to the values. -/
  | entries

/-- Where members come from that no field supplies. -/
inductive Rest where
  | expression (expression : Expression)
  | value (value : Value)

structure Plan where
  target : Target
  fields : List Field
  rest : Option Rest
  /-- The names that the expressions of the plan see. -/
  scope : Scope
  /-- Supplies the stream when a parse is given none. -/
  reader : Option Expression
  name : Value

namespace Plan

def size (plan : Plan) : Nat :=
  (plan.fields.map Field.size).foldr (· + ·) 0

/-- The number of bytes of the longest field. -/
def bufferSize (plan : Plan) : Nat :=
  (plan.fields.map Field.size).foldl max 0

def members (plan : Plan) : List Member :=
  plan.fields.filterMap Field.member

def defaultName : Target → Value
  | .entries => .str "_record"
  | .call function => match function.attribute? "__qualname__" with
    | some name => if name.truth then name else .str function.quotedText
    | none => .str function.quotedText

def text (plan : Plan) : String :=
  "<StructPlan " ++ plan.name.plainText ++ " fields=" ++ Number.natText plan.fields.length ++
    " size=" ++ Number.natText plan.size ++ ">"

def report (plan : Plan) : String :=
  "compiled plan " ++ plan.name.plainText ++ ": " ++ Number.natText plan.fields.length ++
    " fields, " ++ Number.natText plan.bufferSize ++ " byte buffer, " ++
    Number.natText plan.size ++ " bytes per record"

/-- Evaluates the elements of one field; an error without a place gets that of the field. -/
def checkElements (interpreter : Interpreter σ) (scope : Scope) (field : Field) :
    List Deferred → Action σ Unit
  | [] => return
  | element :: rest => do
    let _ ← ExceptT.adapt (.mapSpecification (·.locateIfMissing field.location))
      (element.resolve interpreter scope)
    checkElements interpreter scope field rest

/-- Evaluates every computed element once, in order, so that what cannot be a byte is found before
any data is read. -/
def checkSymbols (interpreter : Interpreter σ) (scope : Scope) : List Field → Action σ Unit
  | [] => return
  | field :: rest => do
    checkElements interpreter scope field field.pattern.deferred
    checkSymbols interpreter scope rest

/-- A plan, if its fields obey the layout rules and its computed elements are bytes. A name that is
empty or missing is replaced by that of the target. -/
def build (interpreter : Interpreter σ) (target : Target) (fields : List Field)
    (rest : Option Rest) (scope : Scope) (reader : Option Expression) (name : Value) :
    Action σ Plan := do
  Layout.check fields
  checkSymbols interpreter scope fields
  return ⟨target, fields, rest, scope, reader,
    if name.truth then name else defaultName target⟩

end Plan
end ByteRecord
