import ByteRecord.Fault.Parse
import ByteRecord.Fault.Specification
import ByteRecord.Value.Failure

/-! Everything that can end a computation: an error in a specification, an error of a parse that is
raised instead of returned, a wrong use of a plan, or an evaluation that failed. -/
namespace ByteRecord

inductive Fault where
  | specification (error : SpecificationError)
  | parse (error : ParseError)
  | failure (failure : Failure)
  /-- The program is to end; this is not caught like an error. -/
  | exit (className : String)
  /-- A plan without a reader is run without one. -/
  | noReader (plan : String)
  /-- A value of this type yields no bytes. -/
  | notReadable (typeName : String)
  /-- A value of this type has no members to fill in. -/
  | notFillable (typeName : String)
  | missingFile
  /-- A directory stands where a file is wanted. -/
  | directory

theorem bind_ok_iff {first : Except ε α} {next : α → Except ε β} {result : β} :
    (first >>= next) = .ok result ↔ ∃ middle, first = .ok middle ∧ next middle = .ok result := by
  cases first with
  | error fault => exact ⟨nofun, nofun⟩
  | ok middle => exact ⟨fun later => ⟨middle, rfl, later⟩, fun ⟨_, same, later⟩ => by cases same; exact later⟩

theorem bind_error_iff {first : Except ε α} {next : α → Except ε β} {error : ε} :
    (first >>= next) = .error error ↔
      first = .error error ∨ ∃ middle, first = .ok middle ∧ next middle = .error error := by
  cases first with
  | error other =>
    constructor
    · intro failed
      cases failed
      exact .inl rfl
    · rintro (failed | ⟨_, same, -⟩)
      · cases failed
        rfl
      · cases same
  | ok middle =>
    constructor
    · exact fun later => .inr ⟨middle, rfl, later⟩
    · rintro (failed | ⟨_, same, later⟩)
      · cases failed
      · cases same
        exact later

theorem mapError_ok_iff {result : Except ε α} : result.mapError change = .ok value ↔
    result = .ok value := by
  cases result with
  | error fault => exact ⟨nofun, nofun⟩
  | ok other =>
    have kept : (Except.ok other : Except ε α).mapError change = .ok other := rfl
    rw [kept, Except.ok.injEq, Except.ok.injEq]

theorem mapError_error_iff {result : Except ε α} {fault : ε'} :
    result.mapError change = .error fault ↔
      ∃ raised, result = .error raised ∧ change raised = fault := by
  cases result with
  | error raised =>
    constructor
    · exact fun same => ⟨raised, rfl, Except.error.inj same⟩
    · rintro ⟨_, same, rfl⟩
      cases same
      rfl
  | ok value => exact ⟨nofun, nofun⟩

theorem map_error_iff {result : Except ε α} : result.map change = .error fault ↔
    result = .error fault := by
  cases result with
  | error other => rw [Except.map, Except.error.injEq, Except.error.injEq]
  | ok value => exact ⟨nofun, nofun⟩

namespace Fault

/-- A specification error at a place; one that cannot be written is a value failure. -/
def ofCauseAt (location : Option Source.Location) (kind : SpecificationKind) (cause : Cause) :
    Fault :=
  if cause.isWritable then .specification ⟨kind, cause, location, none⟩ else .failure .value

/-- An error can be written, or it is a value failure. -/
theorem ofCauseAt_cases (location : Option Source.Location) (kind : SpecificationKind)
    (cause : Cause) :
    (cause.isWritable = true ∧
      ofCauseAt location kind cause = .specification ⟨kind, cause, location, none⟩) ∨
    (cause.isWritable = false ∧ ofCauseAt location kind cause = .failure .value) := by
  unfold ofCauseAt
  split
  · next writable => exact .inl ⟨writable, rfl⟩
  · next unwritable => exact .inr ⟨Bool.not_eq_true _ ▸ unwritable, rfl⟩

def ofCause : SpecificationKind → Cause → Fault :=
  ofCauseAt none

def ofHex : Hex.LexFault → Fault
  | .error error => .ofCause .hexLiteral (.hexLiteral error)
  | .noOrphan => .failure .index

/-- Changes the error of a specification. -/
def mapSpecification (change : SpecificationError → SpecificationError) : Fault → Fault
  | .specification error => .specification (change error)
  | fault => fault

/-- The class under which a fault is reported. -/
def className : Fault → String
  | .specification error => error.kind.className
  | .parse error => error.className
  | .failure cause => cause.className
  | .exit className => className
  | .noReader _ | .notReadable _ | .notFillable _ => "TypeError"
  | .missingFile => "FileNotFoundError"
  | .directory => "IsADirectoryError"

def isOrdinary : Fault → Bool
  | .exit _ => false
  | _ => true

/-- How a fault is told as the reason of another one: an unbound name is shown, everything else only
by its class. -/
def reason : Fault → String
  | .failure cause => cause.message
  | fault => "<" ++ fault.className ++ ">"

/-- The words for a wrong use of a plan. -/
def usage? : Fault → Option String
  | .noReader plan => some ("plan " ++ plan ++ " has no reader expression; pass a reader")
  | .notReadable typeName =>
    some ("expected a bytes-like object or a binary stream, got " ++ typeName)
  | .notFillable typeName =>
    some ("cannot fill remaining members from " ++ typeName ++
      "; use a mapping, a dataclass instance or a namedtuple")
  | _ => none

end Fault

/-! What ends a computation, if it is a fault of a kind. -/

def specificationOf? : Except Fault α → Option SpecificationError
  | .error (.specification error) => some error
  | _ => none

def failureOf? : Except Fault α → Option Failure
  | .error (.failure cause) => some cause
  | _ => none

theorem specificationOf?_eq_some {result : Except Fault α} :
    specificationOf? result = some error ↔ result = .error (.specification error) := by
  unfold specificationOf?
  split
  · simp
  · next other => simpa using other error

theorem failureOf?_eq_some {result : Except Fault α} :
    failureOf? result = some cause ↔ result = .error (.failure cause) := by
  unfold failureOf?
  split
  · simp
  · next other => simpa using other cause

end ByteRecord
