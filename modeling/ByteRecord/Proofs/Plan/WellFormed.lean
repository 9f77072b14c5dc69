import ByteRecord.Catalogue.Compile
import ByteRecord.Proofs.Effect.Unchanged
import ByteRecord.Proofs.Plan.Layout
import ByteRecord.Proofs.Stream.HeldBytes
import ByteRecord.Proofs.Specification.Declarations

/-! Plans are well formed, however they are made: from a specification text, from a format of a
catalogue, or from fields that are put together one by one. Every way leads through the same checks
of a field, of the list of fields, and of the computed elements. -/
namespace ByteRecord

namespace Deferred
variable {interpreter : Interpreter σ} {scope : Scope} {state : σ} {element : Deferred}

theorem byteOf_ok_iff {value : Value} :
    element.byteOf value = .ok byte ↔ value = .int byte ∧ byte ≤ 255 := by
  unfold byteOf
  split
  · next n =>
    split
    · next within =>
      simp only [Bool.and_eq_true, decide_eq_true_eq] at within
      rw [Except.ok.injEq, Value.int.injEq]
      omega
    · next beyond =>
      simp only [Bool.and_eq_true, decide_eq_true_eq] at beyond
      rw [Value.int.injEq]
      refine ⟨nofun, fun ⟨same, small⟩ => absurd ?_ beyond⟩
      omega
  · next other =>
    exact ⟨nofun, fun ⟨same, _⟩ => absurd same (other byte)⟩

theorem run_resolve (interpreter : Interpreter σ) (element : Deferred) (scope : Scope) (state : σ) :
    (element.resolve interpreter scope).run state =
      match (element.outcome interpreter scope).run state with
      | (.ok value, later) => (element.byteOf value, later)
      | (.error fault, later) => (.error (element.refusal fault), later) := by
  cases given : (element.outcome interpreter scope).run state with
  | mk result later =>
    have answer : element.outcome interpreter scope state = (result, later) := given
    simp only [resolve, ExceptT.run_mk, bind, StateT.bind, answer]
    cases result <;> rfl

theorem outcome_of_resolve
    (resolved : (element.resolve interpreter scope).run state = (.ok byte, later)) :
    (element.outcome interpreter scope).run state = (.ok (.int byte), later) ∧ byte ≤ 255 := by
  cases given : (element.outcome interpreter scope).run state with
  | mk result after =>
    rw [run_resolve, given] at resolved
    cases result with
    | error fault => cases resolved
    | ok value =>
      obtain ⟨own, rfl⟩ := Prod.mk.inj resolved
      obtain ⟨rfl, small⟩ := byteOf_ok_iff.mp own
      exact ⟨rfl, small⟩

end Deferred

namespace Field

/-- Fields that are put together from parts, as they are or with the pattern in any form. -/
inductive Made : Field → Prop
  | skip {given : Pattern.Given} (made : Field.skip given = .ok field) : Made field
  | bound {member binding : Value} {given : Pattern.Given} {transform : Option Transform}
    (made : Field.bound member given transform binding = .ok field) : Made field
  | parts {member binding : Value} {pattern : Pattern} {transform : Option Transform}
    {location : Option Source.Location}
    (made : ofParts member pattern binding transform location = .ok field) : Made field

/-- What holds of a field by itself. -/
structure WellFormed (field : Field) : Prop where
  fixed : .openRange ∉ field.pattern.matchers
  /-- A field without a member is only matched. -/
  matched : field.member = none → field.binding = none ∧ field.transform = none
  named : ∀ name, field.member = some (.name name) → Text.isFreeName name
  bound : ∀ name, field.binding = some name → Text.isFreeName name ∧ field.transform.isSome

theorem wellFormed_of_ofParts {field : Field} {value given : Value} {pattern : Pattern}
    {transform : Option Transform} {location : Option Source.Location}
    (made : ofParts value pattern given transform location = .ok field) : field.WellFormed := by
  obtain ⟨fixed, member, binding, member_of, binding_of, alone, needs, rfl⟩ :=
    ofParts_ok_iff.mp made
  refine ⟨?_, alone, ?_, ?_⟩
  · intro present
    have ranges : pattern.hasRanges = true := List.any_eq_true.mpr ⟨_, present, rfl⟩
    rw [fixed] at ranges
    cases ranges
  · rintro name rfl
    cases member_of with
    | name free => exact free
  · rintro name rfl
    cases binding_of with
    | name free => exact ⟨free, needs rfl⟩

theorem Made.wellFormed {field : Field} (made : Made field) : field.WellFormed := by
  cases made with
  | skip made =>
    obtain ⟨pattern, -, made⟩ := bind_ok_iff.mp made
    exact wellFormed_of_ofParts made
  | bound made =>
    unfold Field.bound at made
    split at made
    · cases made
    · cases made
    · obtain ⟨pattern, -, made⟩ := bind_ok_iff.mp made
      exact wellFormed_of_ofParts made
  | parts made => exact wellFormed_of_ofParts made

theorem wellFormed_of_read {field : Field} {cursor after : Source.Cursor}
    (result : read.run cursor = (.ok field, after)) : field.WellFormed := by
  rw [read, Source.Reading.run_get_bind] at result
  obtain ⟨value, _, -, result⟩ := run_bind_ok_iff.mp result
  obtain ⟨mark, _, -, result⟩ := run_bind_ok_iff.mp result
  obtain ⟨given, _, -, result⟩ := run_bind_ok_iff.mp result
  obtain ⟨pattern, _, -, result⟩ := run_bind_ok_iff.mp result
  obtain ⟨transform, _, -, result⟩ := run_bind_ok_iff.mp result
  exact wellFormed_of_ofParts (run_lift_ok_iff.mp result).1

end Field

/-- The name of a format decides whether its fields are made, not which ones. -/
theorem Format.of_planFields {format : Format} {made : List Field} (each : format.planFields = .ok made) :
    format.fields.mapM fieldOf = .ok made := by
  rw [planFields] at each
  split at each
  · cases each
  · apply mapM_ok_iff.mpr
    exact (mapM_ok_iff.mp each).imp fun _ _ => fieldOf_of_fieldIn

namespace Plan
variable {interpreter : Interpreter σ} {state later : σ} {plan : Plan}

theorem adapt_ok_iff {action : Action σ α} :
    (ExceptT.adapt change action).run state = (.ok value, later) ↔
      action.run state = (.ok value, later) := by
  rw [run_adapt, Prod.mk.injEq, mapError_ok_iff, ← Prod.mk.injEq]
  exact Iff.rfl

/-- Elements that pass, and that leave the state as it is, are bytes in that state. -/
theorem of_checkElements {scope : Scope} {field : Field} {elements : List Deferred}
    (keeps : ∀ element ∈ elements, Keeps (element.resolve interpreter scope) state)
    (checked : (checkElements interpreter scope field elements).run state = (.ok (), later)) :
    later = state ∧
      ∀ element ∈ elements, ∃ byte, (element.resolve interpreter scope).run state =
        (.ok byte, state) := by
  induction elements with
  | nil =>
    cases checked
    exact ⟨rfl, List.forall_mem_nil _⟩
  | cons element elements ih =>
    obtain ⟨first, others⟩ := List.forall_mem_cons.mp keeps
    obtain ⟨byte, middle, resolved, checked⟩ := run_bind_ok_iff.mp checked
    rw [adapt_ok_iff, first.run_eq] at resolved
    obtain ⟨own, rfl⟩ := Prod.mk.inj resolved
    obtain ⟨rfl, rest⟩ := ih others checked
    exact ⟨rfl, List.forall_mem_cons.mpr ⟨⟨byte, first.run_eq.trans (by rw [own])⟩, rest⟩⟩

theorem of_checkSymbols {scope : Scope} {fields : List Field}
    (keeps : ∀ field ∈ fields, ∀ element ∈ field.pattern.deferred,
      Keeps (element.resolve interpreter scope) state)
    (checked : (checkSymbols interpreter scope fields).run state = (.ok (), later)) :
    later = state ∧ ∀ field ∈ fields, ∀ element ∈ field.pattern.deferred,
      ∃ byte, (element.resolve interpreter scope).run state = (.ok byte, state) := by
  induction fields with
  | nil =>
    cases checked
    exact ⟨rfl, List.forall_mem_nil _⟩
  | cons field fields ih =>
    obtain ⟨first, others⟩ := List.forall_mem_cons.mp keeps
    obtain ⟨_, middle, own, later_checked⟩ := run_bind_ok_iff.mp checked
    obtain ⟨rfl, own⟩ := of_checkElements first own
    obtain ⟨rfl, rest⟩ := ih others later_checked
    exact ⟨rfl, List.forall_mem_cons.mpr ⟨own, rest⟩⟩

/-- What is built keeps the layout rules, and its computed elements have passed. -/
theorem of_build {target : Target} {fields : List Field} {rest : Option Rest} {scope : Scope}
    {reader : Option Expression} {name : Value}
    (built : (build interpreter target fields rest scope reader name).run state =
      (.ok plan, later)) :
    plan.fields = fields ∧ plan.scope = scope ∧ Layout.check fields = .ok () ∧
      (checkSymbols interpreter scope fields).run state = (.ok (), later) := by
  obtain ⟨_, _, layout, checked⟩ := run_bind_ok_iff.mp built
  obtain ⟨passed, rfl⟩ := run_lift_ok_iff.mp layout
  obtain ⟨_, _, symbols, made⟩ := run_bind_ok_iff.mp checked
  cases made
  exact ⟨rfl, rfl, passed, symbols⟩

theorem checkSymbols_of_deferred_eq_nil {fields : List Field} (interpreter : Interpreter σ)
    (scope : Scope) (none : ∀ field ∈ fields, field.pattern.deferred = []) (state : σ) :
    (checkSymbols interpreter scope fields).run state = (.ok (), state) := by
  induction fields with
  | nil => rfl
  | cons field fields ih =>
    obtain ⟨own, none⟩ := List.forall_mem_cons.mp none
    rw [checkSymbols, own, run_bind]
    exact ih none

/-- Fields that keep the layout rules and have no computed elements make a plan. -/
theorem run_build {fields : List Field} (layout : Layout.check fields = .ok ())
    (none : ∀ field ∈ fields, field.pattern.deferred = []) (interpreter : Interpreter σ)
    (target : Target) (rest : Option Rest) (scope : Scope) (reader : Option Expression)
    (name : Value) (state : σ) :
    (build interpreter target fields rest scope reader name).run state =
      (.ok ⟨target, fields, rest, scope, reader,
        if name.truth then name else defaultName target⟩, state) := by
  rw [build, layout]
  exact run_bind_ok_iff.mpr ⟨(), state, rfl, run_bind_ok_iff.mpr ⟨(), state,
    checkSymbols_of_deferred_eq_nil interpreter scope none state, rfl⟩⟩

/-- The ways to a plan, with the states of the interpreter before and after. -/
inductive Obtained (interpreter : Interpreter σ) (state : σ) (plan : Plan) (later : σ) : Prop
  | text {scope : Scope}
    (compiled : (ofText interpreter scope source).run state = (.ok plan, later))
  | format {format : Format}
    (compiled : (format.compile interpreter names).run state = (.ok plan, later))
  | fields {fields : List Field} {target : Target} {rest : Option Rest} {scope : Scope}
    {reader : Option Expression} {name : Value} (made : ∀ field ∈ fields, Field.Made field)
    (built : (build interpreter target fields rest scope reader name).run state =
      (.ok plan, later))

theorem wellFormed_of_readBody {fields : List Field} {rest : Option Expression}
    {cursor after : Source.Cursor}
    (result : (readBody fuel).run cursor = (.ok (fields, rest), after)) :
    ∀ field ∈ fields, field.WellFormed := by
  induction fuel generalizing cursor fields with
  | zero =>
    cases result
    exact List.forall_mem_nil _
  | succ fuel ih =>
    rw [readBody, Source.Reading.run_get_bind] at result
    split at result
    · cases result
      exact List.forall_mem_nil _
    · split at result
      · obtain ⟨_, _, -, result⟩ := run_bind_ok_iff.mp result
        obtain ⟨_, _, -, result⟩ := run_bind_ok_iff.mp result
        cases result
        exact List.forall_mem_nil _
      · obtain ⟨field, _, field_read, result⟩ := run_bind_ok_iff.mp result
        have own := Field.wellFormed_of_read field_read
        rw [Source.Reading.run_get_bind] at result
        split at result
        · cases result
          exact List.forall_mem_singleton.mpr own
        · obtain ⟨_, _, -, result⟩ := run_bind_ok_iff.mp result
          obtain ⟨⟨others, _⟩, _, more, result⟩ := run_bind_ok_iff.mp result
          cases result
          exact List.forall_mem_cons.mpr ⟨own, ih more⟩

/-- Every way to a plan builds it of well-formed fields. -/
theorem Obtained.built (obtained : Obtained interpreter state plan later) :
    (∀ field ∈ plan.fields, field.WellFormed) ∧ Layout.check plan.fields = .ok () ∧
      (checkSymbols interpreter plan.scope plan.fields).run state = (.ok (), later) := by
  have of_fields {target : Target} {fields : List Field} {rest : Option Rest} {scope : Scope}
      {reader : Option Expression} {name : Value} (own : ∀ field ∈ fields, field.WellFormed)
      (built : (build interpreter target fields rest scope reader name).run state =
        (.ok plan, later)) :
      (∀ field ∈ plan.fields, field.WellFormed) ∧ Layout.check plan.fields = .ok () ∧
        (checkSymbols interpreter plan.scope plan.fields).run state = (.ok (), later) := by
    obtain ⟨rfl, rfl, layout, symbols⟩ := of_build built
    exact ⟨own, layout, symbols⟩
  cases obtained with
  | text compiled =>
    obtain ⟨cursor, _, opened, behind_tokens⟩ := run_bind_ok_iff.mp compiled
    obtain ⟨-, rfl⟩ := run_lift_ok_iff.mp opened
    obtain ⟨declaration, _, read, built⟩ := run_bind_ok_iff.mp behind_tokens
    obtain ⟨declared, rfl⟩ := run_lift_ok_iff.mp read
    obtain ⟨_, _, -, _, _, -, _, -, _, _, -, fields, rest, _, body_read, _, -, -, rfl⟩ :=
      run_readDeclaration_ok_iff.mp (Prod.ext declared rfl)
    exact of_fields (wellFormed_of_readBody body_read) built
  | format compiled =>
    obtain ⟨fields, _, made, built⟩ := run_bind_ok_iff.mp compiled
    obtain ⟨each, rfl⟩ := run_lift_ok_iff.mp made
    refine of_fields (fun field present => ?_) built
    have each := mapM_ok_iff.mp (Format.of_planFields each)
    obtain ⟨definition, -, own⟩ := exists_of_forall₂ each present
    unfold Format.fieldOf at own
    split at own
    all_goals
      obtain ⟨transform, -, parts⟩ := bind_ok_iff.mp own
      exact Field.wellFormed_of_ofParts parts
  | fields made built => exact of_fields (fun field member => (made field member).wellFormed) built

/-- What holds of a plan as a whole. -/
structure WellFormed (plan : Plan) : Prop where
  fields : ∀ field ∈ plan.fields, field.WellFormed
  apart : Layout.SkipsApart plan.fields
  distinct : plan.members.Nodup
  /-- The positions are the numbers below their count. -/
  positions : ∀ k, .position k ∈ plan.members ↔ k < (Layout.positions plan.fields).length
  fits : ∀ field ∈ plan.fields, field.size ≤ plan.bufferSize
  longest : plan.bufferSize = 0 ∨ ∃ field ∈ plan.fields, field.size = plan.bufferSize

theorem bufferSize_attained (plan : Plan) :
    plan.bufferSize = 0 ∨ ∃ field ∈ plan.fields, field.size = plan.bufferSize := by
  have attained (sizes : List Nat) (least : Nat) :
      sizes.foldl max least = least ∨ sizes.foldl max least ∈ sizes := by
    induction sizes generalizing least with
    | nil => exact .inl rfl
    | cons first rest ih =>
      rw [List.foldl_cons, List.mem_cons]
      rcases ih (max least first) with same | later
      · rw [same]
        omega
      · exact .inr (.inr later)
  rcases attained (plan.fields.map Field.size) 0 with none | some
  · exact .inl none
  · exact .inr (List.mem_map.mp some)

theorem wellFormed_of_check (own : ∀ field ∈ plan.fields, field.WellFormed)
    (layout : Layout.check plan.fields = .ok ()) : plan.WellFormed := by
  obtain ⟨apart, distinct, filled⟩ := (Layout.check_ok_iff _).mp layout
  exact ⟨own, apart, distinct, fun k => Layout.mem_positions.symm.trans
    (Layout.mem_positions_iff filled distinct), fun _ => size_le_bufferSize, plan.bufferSize_attained⟩

/-- Every plan is well formed. Its computed elements, if they have no side effects, give bytes in the
scope of the plan. -/
theorem wellFormed_of_obtained (obtained : Obtained interpreter state plan later) :
    plan.WellFormed ∧
      ((∀ field ∈ plan.fields, ∀ element ∈ field.pattern.deferred,
        Keeps (element.resolve interpreter plan.scope) state) →
      later = state ∧ ∀ field ∈ plan.fields, ∀ element, .deferred element ∈ field.pattern.matchers →
        ∃ byte : Nat, byte ≤ 255 ∧ (element.outcome interpreter plan.scope).run state =
          (.ok (.int byte), state)) := by
  obtain ⟨own, layout, symbols⟩ := obtained.built
  refine ⟨wellFormed_of_check own layout, fun keeps => ?_⟩
  obtain ⟨same, bytes⟩ := of_checkSymbols keeps symbols
  refine ⟨same, fun field member element present => ?_⟩
  obtain ⟨byte, resolved⟩ := bytes field member element (Pattern.mem_deferred.mpr present)
  obtain ⟨given, small⟩ := Deferred.outcome_of_resolve resolved
  exact ⟨byte, small, given⟩

/-- The general statement for a plan with a computed element in a field without a member. -/
theorem wellFormed_of_obtained_symbolic :
    let element : Deferred := ⟨"n", .inl (.name "n"), none⟩
    let symbolic : Field := ⟨none, ⟨[.deferred element], .array⟩, none, none, none⟩
    let named : Field := ⟨some (.name "a"), ⟨[.exact 1, .wildcard], .hex⟩, none, none, none⟩
    let plan : Plan :=
      ⟨.entries, [symbolic, named], none, ⟨[("n", .int 7)]⟩, none, .str "record"⟩
    Obtained .standard (fun _ => 0) plan (fun _ => 0) ∧
      (∀ field ∈ plan.fields, ∀ element ∈ field.pattern.deferred,
        Keeps (element.resolve .standard plan.scope) (fun _ => 0)) ∧
      plan.WellFormed ∧
      ∃ byte : Nat, byte ≤ 255 ∧ (element.outcome .standard plan.scope).run (fun _ => 0) =
        (.ok (.int byte), fun _ => 0) := by
  intro element symbolic named plan
  have skip : Field.skip (.array [.matcher (.deferred element)]) = .ok symbolic := rfl
  have bound : Field.bound (.str "a") (.value (.str "01 __")) none .none = .ok named := rfl
  have made : ∀ field ∈ [symbolic, named], Field.Made field := by
    simp only [List.forall_mem_cons]
    exact ⟨.skip skip, .bound bound, List.forall_mem_nil _⟩
  have built : (build .standard .entries [symbolic, named] none plan.scope none
      (.str "record")).run (fun _ => 0) = (.ok plan, fun _ => 0) := rfl
  have obtained : Obtained .standard (fun _ => 0) plan (fun _ => 0) := .fields made built
  have keeps : ∀ field ∈ plan.fields, ∀ element ∈ field.pattern.deferred,
      Keeps (element.resolve .standard plan.scope) (fun _ => 0) := by
    simp only [plan, List.forall_mem_cons]
    refine ⟨?_, List.forall_mem_nil _, List.forall_mem_nil _⟩
    simp only [symbolic, Pattern.deferred, List.filterMap_cons, List.filterMap_nil,
      List.forall_mem_cons]
    exact ⟨rfl, List.forall_mem_nil _⟩
  obtain ⟨own, elements⟩ := wellFormed_of_obtained obtained
  exact ⟨obtained, keeps, own, (elements keeps).2 symbolic List.mem_cons_self element
    List.mem_cons_self⟩

end Plan
end ByteRecord
