import ByteRecord.Catalogue.Compile
import ByteRecord.Catalogue.Path
import ByteRecord.Value.Index

/-! Identification: which formats of a catalogue data could be. -/
namespace ByteRecord.Catalogue

structure Identifier where
  plans : List (Format × Plan)

namespace Identifier

def build (interpreter : Interpreter σ) (formats : List Format) (names : Scope) :
    Action σ Identifier := do
  return ⟨← formats.mapM fun format => do return (format, ← format.compile interpreter names)⟩

/-- The size of the largest record: no plan looks further. -/
def reach (identifier : Identifier) : Nat :=
  (identifier.plans.map (·.2.size)).foldl max 0

def outcomes (interpreter : Interpreter σ) (identifier : Identifier) (data : List UInt8) :
    Action σ (List (Format × Outcome)) :=
  identifier.plans.mapM fun (format, plan) => do
    return (format, ← plan.parseBytes interpreter .empty data)

/-- Formats by size, the largest first; equal sizes keep their order. -/
def bySize (formats : List Format) : List Format :=
  formats.mergeSort fun a b => b.size ≤ a.size

def parsed (outcomes : List (Format × Outcome)) : List Format :=
  bySize ((outcomes.filter (·.2.isOk)).map (·.1))

def identify (interpreter : Interpreter σ) (identifier : Identifier) (data : List UInt8) :
    Action σ (List Format) := do
  return parsed (← identifier.outcomes interpreter data)

/-- The formats of a file, of which only as much is read as the plans need. -/
def identifyFile (interpreter : Interpreter σ) (identifier : Identifier) (content : List UInt8) :
    Action σ (List Format) :=
  identifier.identify interpreter (content.take identifier.reach)

/-- The formats whose extensions hold the suffix of a path. -/
def byExtension (identifier : Identifier) (path : String) : Except Fault (List Format) :=
  (identifier.plans.map (·.1)).filterM fun format =>
    (Value.occursIn (.str (suffix path)) format.extensions).mapError .failure

end Identifier

def mismatchReport (format : Format) (outcome : Outcome) : Option String :=
  match outcome.value with
  | .ok _ => none
  | .error error => some (format.name.plainText ++ " does not match: " ++ error.message)

end ByteRecord.Catalogue
