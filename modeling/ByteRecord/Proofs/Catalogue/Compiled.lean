import ByteRecord.Catalogue.Identify
import ByteRecord.Proofs.Plan.Symbols

/-! What it says of a format that it compiles. Its plan has its fields and takes as many bytes as they
do. And if the expressions have no side effects, a run of the plan in the same state finds no fault in
a specification in an element: it was evaluated there before. So it is with all formats of an
identifier, whose runs follow one another. -/
namespace ByteRecord

namespace Plan
variable {interpreter : Interpreter σ} {plan : Plan}

section
variable [Reader ρ] {start after : Run σ ρ}

theorem runField_consumed {field : Field} {own : Members}
    (read : (runField interpreter field).run start = (.ok (.ok own, taken), after)) :
    taken = field.size := by
  obtain ⟨filling, middle, -, read⟩ := run_bind_ok_iff.mp read
  cases filling with
  | failed fault => exact absurd (run_lift_ok_iff.mp read).1 (passedOn_ne fault own taken)
  | short received cause => cases read
  | full =>
    obtain ⟨raw, _, -, read⟩ := run_bind_ok_iff.mp read
    obtain ⟨result, _, -, read⟩ := run_bind_ok_iff.mp read
    cases read
    rfl

theorem runFields_consumed {fields : List Field} {consumed total : Nat} {stored : Members}
    (read : (runFields interpreter consumed fields).run start = (.ok (.ok stored, total), after)) :
    total = consumed + (fields.map Field.size).foldr (· + ·) 0 := by
  induction fields generalizing consumed start stored with
  | nil =>
    cases read
    rfl
  | cons field fields ih =>
    obtain ⟨own, taken, others, middle, first, later, rfl⟩ := of_runFields_cons read
    rw [ih later, runField_consumed first, List.map_cons, List.foldr_cons, Nat.add_assoc]

theorem run_consumed
    (ran : ((plan.run interpreter).run start).1 = .ok ⟨.ok value, consumed⟩) :
    consumed = plan.size := by
  obtain ⟨⟨result, total⟩, middle, read, made⟩ := run_bind_ok_iff.mp (Prod.ext ran rfl)
  cases result with
  | error error => cases made
  | ok members =>
    obtain ⟨value, last, -, made⟩ := run_bind_ok_iff.mp made
    cases made
    rw [runFields_consumed read, Nat.zero_add, size]

end

theorem parse_consumed {names : Scope} {source value : Value} {state : σ}
    (parsed : ((plan.parse interpreter names source).run state).1 = .ok ⟨.ok value, consumed⟩) :
    consumed = plan.size := by
  cases given : (plan.streamOf interpreter source).run (plan.world names state) with
  | mk result world =>
    cases result with
    | error fault =>
      rw [parse_unsupplied interpreter given] at parsed
      cases parsed
    | ok stream =>
      rw [parse_supplied interpreter given] at parsed
      exact run_consumed parsed

/-- Without further names the elements of a plan see its own scope, as they do when they are
checked. -/
theorem SideEffectFree.elements {state : σ}
    (free : plan.SideEffectFree interpreter (plan.world .empty state)) :
    ∀ field ∈ plan.fields, ∀ element ∈ field.pattern.deferred,
      Keeps (element.resolve interpreter plan.scope) state := by
  intro field present element member
  have own := (free.fields field present).elements element member
  rwa [world, Scope.layer_empty] at own

/-- A plan whose elements passed in a state finds no fault in a specification when it is run in that
state, unless something else raises one. -/
theorem run_faultless [Reader ρ] {state later : σ}
    (wellFormed : ∀ field ∈ plan.fields, field.WellFormed)
    (checked : (checkSymbols interpreter plan.scope plan.fields).run state = (.ok (), later))
    (free : plan.SideEffectFree interpreter (plan.world .empty state))
    (spares : plan.Spares Fault.IsSpecification interpreter (plan.world .empty state)) {reader : ρ}
    (unread : Reader.Spares Fault.IsSpecification reader) (error : SpecificationError) :
    ((plan.run interpreter).run ⟨plan.world .empty state, reader, plan.buffer⟩).1 ≠
      .error (.specification error) := by
  intro raised
  obtain ⟨field, present, element, member, -, refused⟩ :=
    run_specification wellFormed free spares unread raised
  obtain ⟨-, bytes⟩ := of_checkSymbols free.elements checked
  obtain ⟨byte, resolved⟩ := bytes field present element member
  rw [Scope.layer_empty, resolved] at refused
  cases refused

end Plan

namespace Format
variable {interpreter : Interpreter σ} {format : Format} {plan : Plan} {names : Scope}

theorem pattern_of_fieldOf {definition : FieldDefinition} {field : Field}
    (made : fieldOf definition = .ok field) : field.pattern = definition.pattern := by
  unfold fieldOf at made
  split at made
  all_goals
    obtain ⟨transform, -, parts⟩ := bind_ok_iff.mp made
    obtain ⟨-, _, _, -, -, -, -, rfl⟩ := Field.ofParts_ok_iff.mp parts
    rfl

theorem size_of_fieldOf {definition : FieldDefinition} {field : Field}
    (made : fieldOf definition = .ok field) : field.size = definition.pattern.size := by
  rw [Field.size, pattern_of_fieldOf made]

theorem of_compile (compiled : (format.compile interpreter names).run state = (.ok plan, later)) :
    plan.fields.length = format.fields.length ∧ plan.size = format.size := by
  obtain ⟨fields, _, made, built⟩ := run_bind_ok_iff.mp compiled
  obtain ⟨each, -⟩ := run_lift_ok_iff.mp made
  obtain ⟨rfl, -⟩ := Plan.of_build built
  have each := mapM_ok_iff.mp (of_planFields each)
  refine ⟨each.length_eq.symm, ?_⟩
  have sizes : format.fields.map (·.pattern.size) = plan.fields.map Field.size := by
    rw [← List.forall₂_eq_eq_eq, List.forall₂_map_left_iff, List.forall₂_map_right_iff]
    exact each.imp fun _ _ own => (size_of_fieldOf own).symm
  rw [Plan.size, size, sizes]

def SideEffectFree (interpreter : Interpreter σ) (format : Format) (names : Scope) (state : σ) :
    Prop :=
  ∀ plan, ((format.compile interpreter names).run state).1 = .ok plan →
    plan.SideEffectFree interpreter (plan.world .empty state)

/-- Besides its computed elements, nothing in a format ends in a fault of a kind when its plan is run in
a state. -/
def Spares (Kind : Fault → Prop) (interpreter : Interpreter σ) (format : Format) (names : Scope)
    (state : σ) : Prop :=
  ∀ plan, ((format.compile interpreter names).run state).1 = .ok plan →
    plan.Spares Kind interpreter (plan.world .empty state)

/-- What is checked when a format compiles, if it has no side effects, leaves the state as it is. -/
theorem compile_keeps (compiled : ((format.compile interpreter names).run state).1 = .ok plan)
    (free : format.SideEffectFree interpreter names state) :
    Keeps (format.compile interpreter names) state := by
  obtain ⟨-, -, checked⟩ := (Plan.Obtained.format (Prod.ext compiled rfl)).built
  exact (Plan.of_checkSymbols (free plan compiled).elements checked).1

theorem parseBytes_keeps (compiled : ((format.compile interpreter names).run state).1 = .ok plan)
    (free : format.SideEffectFree interpreter names state) (data : List UInt8) :
    Keeps (plan.parseBytes interpreter .empty data) state :=
  (free plan compiled).parseStream (Stream.bytes data)

theorem faultless (compiled : ((format.compile interpreter names).run state).1 = .ok plan)
    (free : format.SideEffectFree interpreter names state)
    (spares : format.Spares Fault.IsSpecification interpreter names state) (data : List UInt8)
    (error : SpecificationError) :
    ((plan.parseBytes interpreter .empty data).run state).1 ≠ .error (.specification error) := by
  obtain ⟨wellFormed, -, checked⟩ := (Plan.Obtained.format (Prod.ext compiled rfl)).built
  exact Plan.run_faultless wellFormed checked (free plan compiled) (spares plan compiled)
    ((Stream.bytes data).spares Fault.foreign_isSpecification) error

end Format

namespace Catalogue.Identifier
variable {interpreter : Interpreter σ} {formats : List Format} {names : Scope} {state : σ}

/-- Formats that all compile, without side effects, make an identifier of their plans. -/
theorem build_ok
    (compiles : ∀ format ∈ formats, ∃ plan,
      ((format.compile interpreter names).run state).1 = .ok plan)
    (free : ∀ format ∈ formats, format.SideEffectFree interpreter names state) :
    ∃ identifier, (build interpreter formats names).run state = (.ok identifier, state) ∧
      ∀ entry ∈ identifier.plans, entry.1 ∈ formats ∧
        ((entry.1.compile interpreter names).run state).1 = .ok entry.2 := by
  let entryOf (format : Format) : Action σ (Format × Plan) := do
    return (format, ← format.compile interpreter names)
  have run_entryOf : ∀ format ∈ formats, ∃ plan,
      ((format.compile interpreter names).run state).1 = .ok plan ∧
        (entryOf format).run state = (.ok (format, plan), state) := by
    intro format present
    obtain ⟨plan, compiled⟩ := compiles format present
    have kept := Format.compile_keeps compiled (free format present)
    exact ⟨plan, compiled, run_bind_ok_iff.mpr ⟨plan, state, Prod.ext compiled kept, rfl⟩⟩
  have all : (formats.mapM entryOf).run state =
      (formats.mapM fun format => ((entryOf format).run state).1, state) := by
    refine Keeps.run_mapM fun format present => ?_
    obtain ⟨plan, -, own⟩ := run_entryOf format present
    rw [Keeps, own]
  cases made : formats.mapM fun format => ((entryOf format).run state).1 with
  | error fault =>
    obtain ⟨format, present, failed⟩ := exists_of_mapM_error made
    obtain ⟨plan, -, own⟩ := run_entryOf format present
    rw [own] at failed
    cases failed
  | ok plans =>
    refine ⟨⟨plans⟩, ?_, fun entry listed => ?_⟩
    · rw [build, run_bind, all, made]
      rfl
    · obtain ⟨format, present, found⟩ := exists_of_forall₂ (mapM_ok_iff.mp made) listed
      obtain ⟨plan, compiled, own⟩ := run_entryOf format present
      rw [own] at found
      cases found
      exact ⟨present, compiled⟩

theorem outcomes_faultless {identifier : Identifier}
    (compiled : ∀ entry ∈ identifier.plans,
      ((entry.1.compile interpreter names).run state).1 = .ok entry.2)
    (free : ∀ entry ∈ identifier.plans, entry.1.SideEffectFree interpreter names state)
    (spares : ∀ entry ∈ identifier.plans,
      entry.1.Spares Fault.IsSpecification interpreter names state)
    (data : List UInt8) (error : SpecificationError) :
    ((identifier.outcomes interpreter data).run state).1 ≠ .error (.specification error) := by
  let outcomeOf (entry : Format × Plan) : Action σ (Format × Outcome) := do
    return (entry.1, ← entry.2.parseBytes interpreter .empty data)
  have all : (identifier.outcomes interpreter data).run state =
      (identifier.plans.mapM fun entry => ((outcomeOf entry).run state).1, state) :=
    Keeps.run_mapM fun entry listed =>
      (Format.parseBytes_keeps (compiled entry listed) (free entry listed) data).bind fun _ => .pure _
  rw [all]
  intro failed
  obtain ⟨entry, listed, raised⟩ := exists_of_mapM_error failed
  rcases run_bind_error_iff.mp raised with own | ⟨_, _, -, made⟩
  · exact Format.faultless (compiled entry listed) (free entry listed) (spares entry listed) data
      error own
  · cases made

end Catalogue.Identifier
end ByteRecord
