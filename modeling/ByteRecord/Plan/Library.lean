import ByteRecord.Plan.Reader
import ByteRecord.Plan.Run

/-! The library as expressions see it that import it: they can read hex literals and parse records in
the middle of another parse. What these functions raise, the expression raises. -/
namespace ByteRecord.Library

/-- The state of the calls that are no calls of the library, and the outcomes of the parses that
expressions have made so far. -/
structure Memory (σ : Type) where
  inner : σ
  outcomes : List Outcome

def module : Value :=
  .record ⟨"module", .loose, []⟩ [("hex_literal", .external "hex_literal" []),
    ("parse_struct", .external "parse_struct" [])]

def within (action : Action σ α) : Action (Memory σ) α := ExceptT.mk fun memory =>
  let (result, inner) := action.run memory.inner
  (result, { memory with inner })

/-- An outcome as a value; what it holds is found in the memory. -/
def keep (outcome : Outcome) : Action (Memory σ) Value := do
  let index := (← get).outcomes.length
  modify fun memory => { memory with outcomes := memory.outcomes ++ [outcome] }
  return .record ⟨"ParseResult", .plain, ["value", "error", "consumed"]⟩ [
    ("ok", .bool outcome.isOk), ("consumed", .int outcome.consumed),
    ("unwrap", .external "unwrap" [.int index])]

/-- Calls the library, or else whatever is called otherwise. -/
def call (base : Value → Value.Arguments → Action σ Value) (function : Value)
    (arguments : Value.Arguments) : Action (Memory σ) Value :=
  match function, arguments with
  | .builtin (.other "__import__"), ⟨[.str "hexstruct"], []⟩ => return module
  | .external "hex_literal" [], ⟨[.str literal], []⟩ => do
    return .bytes (← Pattern.hexLiteral literal.toList)
  | .external "parse_struct" [], ⟨[reader, .str source], []⟩ => do
    let plan ← within (Plan.ofText (.ofCalls base) .empty source)
    keep (← within (plan.parse (.ofCalls base) .empty reader))
  | .external "unwrap" [.int index], ⟨[], []⟩ => do
    match (← get).outcomes[index.toNat]? with
    | some outcome => outcome.unwrap
    | none => throw (.failure .index)
  | function, arguments => within (base function arguments)

def interpreter (base : Value → Value.Arguments → Action σ Value) : Interpreter (Memory σ) :=
  .ofCalls (call base)

end ByteRecord.Library
