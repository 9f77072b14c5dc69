import Mathlib.Data.List.Flatten
import ByteRecord.Proofs.Effect.Sights
import ByteRecord.Proofs.Expr.Assignments
import ByteRecord.Proofs.Plan.WellFormed

/-! What the expressions of a parse see of each other. Every expression is evaluated in the names of
the plan and of the call. A transform with a binding has a copy of them, with its own binding set; a
transform without one has the names themselves, so what it assigns in passing is there for all that is
evaluated after it, and so is what the reader assigns. Nothing else is. -/
namespace ByteRecord

/-- The names that a field sets in the scope: those that its transform assigns if it has no binding. -/
def Field.assigned (field : Field) : List String :=
  match field.transform, field.binding with
  | some (.expression e), none => e.code.assigned
  | _, _ => []

/-- What a field evaluates in a scope. -/
inductive Field.Sees (field : Field) (scope : Scope) : Sight → Prop
  | element (present : element ∈ field.pattern.deferred) (written : element.origin = .inl e) :
    Sees field scope ⟨e, scope⟩
  | unbound (transform : field.transform = some (.expression e)) (binding : field.binding = none) :
    Sees field scope ⟨e.code, scope⟩
  | bound (transform : field.transform = some (.expression e)) (binding : field.binding = some name)
    (raw : List UInt8) : Sees field scope ⟨e.code, scope.set name (.bytes raw)⟩

namespace Plan

/-- The names that are set in a parse before the field at an index. -/
def assignedBefore (plan : Plan) (i : Nat) : List String :=
  (plan.reader.map (·.code.assigned)).getD [] ++ (plan.fields.take i).flatMap Field.assigned

/-- What a plan evaluates in a scope: each field and the rest in one that differs by what was
assigned before at most. -/
inductive Sees (plan : Plan) (scope : Scope) : Sight → Prop
  | reader (given : plan.reader = some e) : Sees plan scope ⟨e.code, scope⟩
  | field (at_index : plan.fields[i]? = some field)
    (assigned : Scope.Assigned (plan.assignedBefore i) scope later) (sees : field.Sees later sight) :
    Sees plan scope sight
  | rest (given : plan.rest = some (.expression e))
    (assigned : Scope.Assigned (plan.assignedBefore plan.fields.length) scope later) :
    Sees plan scope ⟨e.code, later⟩

/-- What a plan evaluates in a scope that nothing changes. -/
inductive SeesOnly (plan : Plan) (scope : Scope) : Sight → Prop
  | reader (given : plan.reader = some e) : SeesOnly plan scope ⟨e.code, scope⟩
  | field (present : field ∈ plan.fields) (sees : field.Sees scope sight) :
    SeesOnly plan scope sight
  | rest (given : plan.rest = some (.expression e)) : SeesOnly plan scope ⟨e.code, scope⟩

end Plan

section
variable {interpreter : Interpreter σ} {Allowed : Sight → Prop} {scope : Scope}

theorem Deferred.resolve_shows {element : Deferred}
    (allowed : ∀ e, element.origin = .inl e → Allowed ⟨e, scope⟩) (state : σ) :
    Shows Watched.mk state (element.resolve interpreter scope)
      (element.resolve interpreter.watched scope) Allowed := by
  obtain ⟨own, seen, watched⟩ : ∃ own, (∀ sight ∈ own, Allowed sight) ∧ ∀ before,
      (element.outcome interpreter.watched scope).run ⟨state, before⟩ =
        (((element.outcome interpreter scope).run state).1,
          ⟨((element.outcome interpreter scope).run state).2, before ++ own⟩) := by
    unfold outcome
    cases origin : element.origin with
    | inl e => exact ⟨[_], List.forall_mem_singleton.mpr (allowed e origin), fun _ => rfl⟩
    | inr function =>
      refine ⟨[], List.forall_mem_nil _, fun before => ?_⟩
      rw [List.append_nil]
      rfl
  refine ⟨own, seen, fun before => ?_⟩
  rw [run_resolve, run_resolve, watched]
  cases (element.outcome interpreter scope).run state with
  | mk result later => cases result <;> rfl

theorem Matcher.accepts_shows {matcher : Matcher}
    (allowed : ∀ element e, matcher = .deferred element → element.origin = .inl e →
      Allowed ⟨e, scope⟩) (byte : UInt8) (state : σ) :
    Shows Watched.mk state (matcher.accepts interpreter byte scope)
      (matcher.accepts interpreter.watched byte scope) Allowed := by
  cases matcher with
  | exact value => exact .pure _
  | wildcard => exact .pure _
  | openRange => exact .pure _
  | deferred element =>
    exact (element.resolve_shows (fun e => allowed element e rfl) state).bind fun _ _ _ => .pure _

theorem Pattern.acceptsAll_shows {matchers : List Matcher}
    (allowed : ∀ element e, .deferred element ∈ matchers → element.origin = .inl e →
      Allowed ⟨e, scope⟩) (data : List UInt8) (state : σ) :
    Shows Watched.mk state (acceptsAll interpreter scope matchers data)
      (acceptsAll interpreter.watched scope matchers data) Allowed := by
  induction matchers generalizing data state with
  | nil => exact .pure _
  | cons matcher matchers ih =>
    cases data with
    | nil => exact .pure _
    | cons byte data =>
      refine Shows.bind (matcher.accepts_shows (fun element e same =>
        allowed element e (same ▸ List.mem_cons_self)) byte state) fun accepted after _ => ?_
      cases accepted with
      | false => exact .pure _
      | true =>
        exact ih (fun element e present => allowed element e (List.mem_cons_of_mem _ present))
          data after

theorem Pattern.accepts_shows {pattern : Pattern}
    (allowed : ∀ element ∈ pattern.deferred, ∀ e, element.origin = .inl e → Allowed ⟨e, scope⟩)
    (data : List UInt8) (state : σ) :
    Shows Watched.mk state (pattern.accepts interpreter data scope)
      (pattern.accepts interpreter.watched data scope) Allowed := by
  have part {matchers : List Matcher} (within : matchers ⊆ pattern.matchers) (data : List UInt8)
      (state : σ) : Shows Watched.mk state (acceptsAll interpreter scope matchers data)
        (acceptsAll interpreter.watched scope matchers data) Allowed :=
    acceptsAll_shows (fun element e present => allowed element (mem_deferred.mpr (within present)) e)
      data state
  rcases pattern.accepts_parts data with never | ⟨before, head, after, tail, front, back, same⟩
  · rw [never, never]
    exact .pure _
  · rw [same, same]
    refine (part head front state).bind fun accepted later _ => ?_
    cases accepted with
    | false => exact .pure _
    | true => exact part tail back later

end

section
variable {interpreter : Interpreter σ} (field : Field)

theorem Field.evaluate_assigns (assigns : interpreter.AssignsOnly) (raw : List UInt8) :
    Assigns World.scope field.assigned (field.evaluate interpreter raw) := by
  unfold evaluate assigned
  cases field.transform with
  | none => exact .pure _
  | some transform =>
    cases transform with
    | function f => exact .of_kept fun _ => rfl
    | expression e =>
      cases field.binding with
      | none => exact fun world => assigns e.code world.scope world.state
      | some binding => exact .of_kept fun _ => rfl

theorem Field.evaluate_shows (raw : List UInt8) (world : World σ) :
    Shows World.watched world (field.evaluate interpreter raw)
      (field.evaluate interpreter.watched raw) (field.Sees world.scope) := by
  unfold evaluate
  cases transform : field.transform with
  | none => exact .pure _
  | some value =>
    cases value with
    | function f => exact .call interpreter f _
    | expression e =>
      cases binding : field.binding with
      | none => exact .evaluate interpreter e.code (.unbound transform binding)
      | some name => exact .evaluateApart interpreter e.code _ (.bound transform binding raw)

namespace Plan

theorem memberValue_assigns (assigns : interpreter.AssignsOnly) (raw : List UInt8) :
    Assigns World.scope field.assigned (memberValue interpreter field raw) := by
  unfold memberValue
  cases field.member with
  | none => exact .pure _
  | some member => exact (field.evaluate_assigns assigns raw).bind fun _ => .pure _

theorem memberValue_shows (raw : List UInt8) (world : World σ) :
    Shows World.watched world (memberValue interpreter field raw)
      (memberValue interpreter.watched field raw) (field.Sees world.scope) := by
  unfold memberValue
  cases field.member with
  | none => exact .pure _
  | some member => exact (field.evaluate_shows raw world).bind fun _ _ _ => .pure _

theorem matchField_assigns (assigns : interpreter.AssignsOnly) (raw : List UInt8) :
    Assigns World.scope field.assigned (matchField interpreter field raw) := by
  refine Assigns.bind (.of_kept fun _ => rfl) fun accepted => ?_
  cases accepted with
  | false => exact .pure _
  | true => exact (memberValue_assigns field assigns raw).bind fun _ => .pure _

theorem matchField_shows (raw : List UInt8) (world : World σ) :
    Shows World.watched world (matchField interpreter field raw)
      (matchField interpreter.watched field raw) (field.Sees world.scope) := by
  have matched : Shows Watched.mk world.state (field.pattern.accepts interpreter raw world.scope)
      (field.pattern.accepts interpreter.watched raw world.scope) (field.Sees world.scope) :=
    Pattern.accepts_shows (fun element present e written => .element present written) raw world.state
  refine (Shows.apart matched).bind fun accepted after ran => ?_
  have same : after.scope = world.scope := (congrArg (·.2.scope) ran).symm
  cases accepted with
  | false => exact .pure _
  | true =>
    rw [← same]
    exact (memberValue_shows field raw after).bind fun _ _ _ => .pure _

section
variable [Reader ρ]

theorem runField_assigns (assigns : interpreter.AssignsOnly) :
    Assigns (fun run : Run σ ρ => run.world.scope) field.assigned (runField interpreter field) := by
  refine Assigns.bind (.of_kept fun _ => rfl) fun filling => ?_
  cases filling with
  | failed fault => exact .of_kept fun run => congrArg (·.2.world.scope) (run_lift (passedOn fault) run)
  | short received cause => exact .pure _
  | full =>
    refine Assigns.bind (.of_kept fun _ => rfl) fun raw => ?_
    exact Assigns.bind (fun run => matchField_assigns field assigns raw run.world) fun _ => .pure _

theorem runField_shows (run : Run σ ρ) :
    Shows Run.watched run (runField interpreter field) (runField interpreter.watched field)
      (field.Sees run.world.scope) := by
  refine Shows.bind (.silent fun _ => rfl) fun filling after ran => ?_
  have same : after.world = run.world := (congrArg (·.2.world) ran).symm
  cases filling with
  | failed fault => exact .lift _
  | short received cause => exact .pure _
  | full =>
    rw [← same]
    refine Shows.bind (.silent fun _ => rfl) fun raw _ ran => ?_
    obtain ⟨-, rfl⟩ := Prod.mk.inj ran
    exact (Shows.ofEffect (matchField_shows field raw after.world)).bind fun _ _ _ => .pure _

end
end Plan
end

namespace Plan
variable {interpreter : Interpreter σ} {plan : Plan}

theorem assignedBefore_length (plan : Plan) : plan.assignedBefore plan.fields.length =
    plan.assignedBefore 0 ++ plan.fields.flatMap Field.assigned := by
  simp only [assignedBefore, List.take_length, List.take_zero, List.flatMap_nil, List.append_nil]

theorem assignedBefore_succ (at_index : plan.fields[i]? = some field) :
    plan.assignedBefore (i + 1) = plan.assignedBefore i ++ field.assigned := by
  simp only [assignedBefore, List.take_add_one, at_index, Option.toList_some, List.flatMap_append,
    List.flatMap_singleton, List.append_assoc]

/-- From a field of the plan on, all is evaluated in scopes that differ from that of the plan by
earlier assignments at most. -/
theorem runFields_shows [Reader ρ] (assigns : interpreter.AssignsOnly) {base : Scope}
    (fields : List Field) (consumed : Nat) (run : Run σ ρ) (rest : plan.fields.drop i = fields)
    (before : Scope.Assigned (plan.assignedBefore i) base run.world.scope) :
    Shows Run.watched run (runFields interpreter consumed fields)
      (runFields interpreter.watched consumed fields) (plan.Sees base) := by
  induction fields generalizing i consumed run with
  | nil => exact .pure _
  | cons field fields ih =>
    have at_index : plan.fields[i]? = some field := by
      rw [← List.head?_drop, rest, List.head?_cons]
    have own : Shows Run.watched run (runField interpreter field)
        (runField interpreter.watched field) (plan.Sees base) :=
      (runField_shows field run).mono fun sight sees => .field at_index before sees
    refine own.bind fun answer after ran => ?_
    obtain ⟨result, taken⟩ := answer
    cases result with
    | error error => exact .pure _
    | ok members =>
      have further : plan.fields.drop (i + 1) = fields := by
        rw [← List.drop_drop, rest, List.drop_one, List.tail_cons]
      have assigned : Scope.Assigned field.assigned run.world.scope after.world.scope := by
        have change : Scope.Assigned field.assigned run.world.scope
            ((runField interpreter field).run run).2.world.scope :=
          runField_assigns field assigns run
        rwa [ran] at change
      have later : Scope.Assigned (plan.assignedBefore (i + 1)) base after.world.scope := by
        rw [assignedBefore_succ at_index]
        exact (before.mono (List.subset_append_left _ _)).trans
          (assigned.mono (List.subset_append_right _ _))
      exact (ih (consumed + taken) after further later).bind fun _ _ _ => .pure _

theorem runFields_assigns [Reader ρ] (assigns : interpreter.AssignsOnly) (fields : List Field)
    (consumed : Nat) :
    Assigns (fun run : Run σ ρ => run.world.scope) (fields.flatMap Field.assigned)
      (runFields interpreter consumed fields) := by
  induction fields generalizing consumed with
  | nil => exact .pure _
  | cons field fields ih =>
    rw [List.flatMap_cons]
    refine (runField_assigns field assigns).left.bind fun answer => ?_
    obtain ⟨result, taken⟩ := answer
    cases result with
    | error error => exact .pure _
    | ok members => exact (ih (consumed + taken)).right.bind fun _ => .pure _

section
variable {Allowed : Sight → Prop} (world : World σ)

theorem construct_shows (target : Target) (arguments : Value.Arguments) :
    Shows World.watched world (construct interpreter target arguments)
      (construct interpreter.watched target arguments) Allowed := by
  cases target with
  | call function => exact .call interpreter function arguments
  | entries => exact .pure _

theorem fillFromRest_shows (target : Target) (rest : Value) (args : List Value)
    (own : List (String × Value)) :
    Shows World.watched world (fillFromRest interpreter target rest args own)
      (fillFromRest interpreter.watched target rest args own) Allowed := by
  unfold fillFromRest
  split
  · exact (Shows.lift _).bind fun given after _ => construct_shows after target _
  · split
    · exact (Shows.lift _).bind fun _ _ _ => .call interpreter _ _
    · exact (Shows.lift _).bind fun _ _ _ => (Shows.lift _).bind fun _ _ _ => .pure _
    · exact .throw _
  · exact .throw _
  · exact .throw _

theorem assemble_shows (members : Members)
    (allowed : ∀ e, plan.rest = some (.expression e) → Allowed ⟨e.code, world.scope⟩) :
    Shows World.watched world (plan.assemble interpreter members)
      (plan.assemble interpreter.watched members) Allowed := by
  unfold Plan.assemble
  dsimp only
  split
  · exact construct_shows world _ _
  · exact fillFromRest_shows world _ _ _ _
  · next e given =>
    refine Shows.bind (.evaluate interpreter e.code (allowed e given)) fun rest after _ => ?_
    exact fillFromRest_shows after _ rest _ _

theorem streamOf_assigns (assigns : interpreter.AssignsOnly) (source : Value) :
    Assigns World.scope (plan.assignedBefore 0) (plan.streamOf interpreter source) := by
  unfold streamOf
  split
  · exact .throw _
  · next reader given =>
    have own : Assigns World.scope (plan.assignedBefore 0)
        (Effect.evaluate interpreter reader.code) := by
      intro world
      refine Scope.Assigned.mono (assigns reader.code world.scope world.state) ?_
      rw [assignedBefore, given]
      exact List.subset_append_left _ _
    exact own.bind fun _ => .of_kept fun _ => rfl
  · exact .of_kept fun _ => rfl

theorem streamOf_shows (source : Value) :
    Shows World.watched world (plan.streamOf interpreter source)
      (plan.streamOf interpreter.watched source) (plan.Sees world.scope) := by
  unfold streamOf
  split
  · exact .throw _
  · next reader given =>
    exact Shows.bind (.evaluate interpreter reader.code (.reader given)) fun _ _ _ => .lift _
  · exact .lift _

end

theorem run_shows [Reader ρ] (assigns : interpreter.AssignsOnly) {base : Scope} (run : Run σ ρ)
    (before : Scope.Assigned (plan.assignedBefore 0) base run.world.scope) :
    Shows Run.watched run (plan.run interpreter) (plan.run interpreter.watched)
      (plan.Sees base) := by
  refine (runFields_shows assigns plan.fields 0 run rfl before).bind fun answer after ran => ?_
  obtain ⟨result, consumed⟩ := answer
  cases result with
  | error error => exact .pure _
  | ok members =>
    have change : Scope.Assigned (plan.fields.flatMap Field.assigned) run.world.scope
        ((runFields interpreter 0 plan.fields).run run).2.world.scope :=
      runFields_assigns assigns plan.fields 0 run
    rw [ran] at change
    have assigned : Scope.Assigned (plan.assignedBefore plan.fields.length) base
        after.world.scope := by
      rw [assignedBefore_length]
      exact (before.mono (List.subset_append_left _ _)).trans
        (change.mono (List.subset_append_right _ _))
    refine Shows.bind (.ofEffect (assemble_shows after.world members fun e given => ?_))
      fun _ _ _ => .pure _
    exact .rest given assigned

theorem parse_shows (assigns : interpreter.AssignsOnly) (names : Scope) (source : Value) (state : σ) :
    Shows Watched.mk state (plan.parse interpreter names source)
      (plan.parse interpreter.watched names source) (plan.Sees (plan.scope.layer names)) := by
  obtain ⟨own, allowed, asked⟩ : Shows World.watched (plan.world names state)
      (plan.streamOf interpreter source) (plan.streamOf interpreter.watched source)
      (plan.Sees (plan.scope.layer names)) := streamOf_shows _ source
  have assigned : Scope.Assigned (plan.assignedBefore 0) (plan.scope.layer names)
      ((plan.streamOf interpreter source).run (plan.world names state)).2.scope :=
    streamOf_assigns assigns source (plan.world names state)
  cases given : (plan.streamOf interpreter source).run (plan.world names state) with
  | mk result world =>
    rw [given] at asked assigned
    cases result with
    | error fault =>
      refine ⟨own, allowed, fun before => ?_⟩
      rw [parse_unsupplied interpreter given]
      exact parse_unsupplied interpreter.watched (asked before)
    | ok stream =>
      have start : Scope.Assigned (plan.assignedBefore 0) (plan.scope.layer names)
          (Run.mk world stream plan.buffer).world.scope := assigned
      obtain ⟨more, further, ran⟩ := run_shows assigns _ start
      refine ⟨own ++ more, List.forall_mem_append.mpr ⟨allowed, further⟩, fun before => ?_⟩
      have supplied : (plan.streamOf interpreter.watched source).run
          (plan.world names ⟨state, before⟩) = (.ok stream, world.watched (before ++ own)) :=
        asked before
      have later := ran (before ++ own)
      rw [Run.watched] at later
      rw [parse_supplied interpreter given, parse_supplied interpreter.watched supplied, later,
        ← List.append_assoc]
      rfl

/-- Without a transform or a reader that assigns anything in the scope itself, every expression sees
the names of the plan and of the call as they are, apart from its own binding. -/
theorem Sees.only {scope : Scope} (sees : plan.Sees scope sight)
    (none : plan.assignedBefore plan.fields.length = []) : plan.SeesOnly scope sight := by
  have unchanged {later : Scope} {names : List String} (assigned : Scope.Assigned names scope later)
      (within : names ⊆ plan.assignedBefore plan.fields.length) : later = scope := by
    rw [none] at within
    exact (assigned.mono within).eq_of_nil
  cases sees with
  | reader given => exact .reader given
  | rest given assigned =>
    obtain rfl := unchanged assigned (List.Subset.refl _)
    exact .rest given
  | @field i field later sight at_index assigned sees =>
    have earlier : plan.assignedBefore i ⊆ plan.assignedBefore plan.fields.length := by
      simp only [assignedBefore, List.take_length]
      exact (((List.take_sublist i plan.fields).flatMap Field.assigned).append_left _).subset
    obtain rfl := unchanged assigned earlier
    exact .field (List.mem_of_getElem? at_index) sees

/-- What expressions see of each other. A field changes the scope by what its transform assigns
without a binding, and in no other way. In a parse, from a value or from any reader, the reader of the
plan is evaluated in the names of the plan and of the call, and every other expression in these as
changed by such assignments before it, a transform with a binding in a copy with its own binding set.
Where nothing is assigned like that, they are not changed at all. This is so for every interpreter
that sets in a scope only what the expression itself assigns. -/
theorem sees_assignments_only (assigns : interpreter.AssignsOnly) (plan : Plan) (names : Scope) :
    (∀ (field : Field) (raw : List UInt8) (world : World σ),
      let scope := ((field.evaluate interpreter raw).run world).2.scope
      Scope.Assigned field.assigned world.scope scope ∧
        ∀ name, name ∉ field.assigned → scope.get? name = world.scope.get? name) ∧
    (∀ (source : Value) (state : σ),
      Shows Watched.mk state (plan.parse interpreter names source)
        (plan.parse interpreter.watched names source)
        (plan.Sees (plan.scope.layer names))) ∧
    (∀ {ρ : Type} [Reader ρ] (reader : ρ) (state : σ),
      ∃ own, (∀ sight ∈ own, plan.Sees (plan.scope.layer names) sight) ∧
        ∀ before, plan.parseStream interpreter.watched names reader ⟨state, before⟩ =
          ((plan.parseStream interpreter names reader state).1,
            ⟨(plan.parseStream interpreter names reader state).2, before ++ own⟩)) ∧
    (plan.assignedBefore plan.fields.length = [] →
      ∀ sight, plan.Sees (plan.scope.layer names) sight →
        plan.SeesOnly (plan.scope.layer names) sight) := by
  refine ⟨fun field raw world => ?_, parse_shows assigns names, ?_,
    fun none sight sees => sees.only none⟩
  · have assigned := field.evaluate_assigns assigns raw world
    exact ⟨assigned, fun name other => assigned.get?_eq other⟩
  intro ρ _ reader state
  have start : Scope.Assigned (plan.assignedBefore 0) (plan.scope.layer names)
      (Run.mk (plan.world names state) reader plan.buffer).world.scope := .refl
  obtain ⟨own, allowed, ran⟩ := run_shows assigns _ start
  refine ⟨own, allowed, fun before => ?_⟩
  have world : plan.world names ⟨state, before⟩ = (plan.world names state).watched before := rfl
  have watched := ran before
  rw [Run.watched] at watched
  rw [parseStream, world, watched]
  rfl

/-- A field that assigns a name in passing, and a plan in which another field is evaluated with it. -/
def assigning : Field :=
  ⟨some (.name "a"), ⟨[.wildcard], .hex⟩, none,
    some (.expression ⟨.str "x := 1", .assign "x" (.const (.int 1)), none⟩), none⟩

def borrowing : Plan where
  target := .entries
  fields := [assigning, ⟨some (.name "b"), ⟨[.wildcard], .hex⟩, none,
    some (.expression ⟨.str "x", .name "x", none⟩), none⟩]
  rest := none
  scope := .empty
  reader := none
  name := .str "borrowing"

/-- The general statement for the usual interpreter: the second field sees what the first one assigned,
and besides that only the names of the plan and of the call. -/
theorem sees_assignments_only_borrowing :
    Interpreter.standard.AssignsOnly ∧ borrowing.assignedBefore 2 = ["x"] ∧
      ∃ own, (∀ sight ∈ own, borrowing.Sees (.layer .empty .empty) sight) ∧
        (borrowing.parse Interpreter.standard.watched .empty (.bytes [0x00, 0x00])).run
          ⟨fun _ => 0, []⟩ =
            (.ok ⟨.ok (.dict [(.str "a", .int 1), (.str "b", .int 1)]), 2⟩, ⟨fun _ => 0, own⟩) := by
  have assigns : Interpreter.standard.AssignsOnly := Interpreter.ofCalls_assignsOnly _
  obtain ⟨-, parses, -⟩ := sees_assignments_only assigns borrowing .empty
  obtain ⟨own, allowed, watched⟩ := parses (.bytes [0x00, 0x00]) fun _ => 0
  have plain : (borrowing.parse .standard .empty (.bytes [0x00, 0x00])).run (fun _ => 0) =
      (.ok ⟨.ok (.dict [(.str "a", .int 1), (.str "b", .int 1)]), 2⟩, fun _ => 0) := by
    with_unfolding_all rfl
  have ran := watched []
  rw [plain] at ran
  exact ⟨assigns, rfl, own, allowed, ran⟩

/-- An assignment in passing stays behind: the field has changed the scope, and the next one takes
its value from there. -/
theorem assignment_in_passing_stays :
    ((assigning.evaluate .standard [0x00]).run ⟨.empty, fun _ => 0⟩).2.scope ≠ .empty ∧
    (borrowing.parse Interpreter.standard.watched .empty (.bytes [0x00, 0x00])).run
      ⟨fun _ => 0, []⟩ =
        (.ok ⟨.ok (.dict [(.str "a", .int 1), (.str "b", .int 1)]), 2⟩, ⟨fun _ => 0,
          [⟨.assign "x" (.const (.int 1)), .empty⟩, ⟨.name "x", ⟨[("x", .int 1)]⟩⟩]⟩) := by
  constructor
  · have changed : ((assigning.evaluate .standard [0x00]).run ⟨.empty, fun _ => 0⟩).2.scope =
        ⟨[("x", .int 1)]⟩ := rfl
    rw [changed]
    exact nofun
  · with_unfolding_all rfl

end Plan
end ByteRecord
