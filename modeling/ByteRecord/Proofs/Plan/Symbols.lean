import ByteRecord.Plan.Library
import ByteRecord.Proofs.Effect.Spared
import ByteRecord.Proofs.Plan.WellFormed
import ByteRecord.Proofs.Record.Slices

/-! The check of computed elements is sound for parses. An element of a plan without side effects
stands for a byte in the scope of the plan, at all times. So only an element that a parse comes to,
and that the further names of the parse change, can be the cause of a fault in a specification, unless
something else that the plan evaluates or calls raises one. -/
namespace ByteRecord

section
variable {interpreter : Interpreter σ} {scope : Scope} {state : σ}

theorem Matcher.accepts_fault {matcher : Matcher}
    (raised : ((matcher.accepts interpreter byte scope).run state).1 = .error fault) :
    ∃ element, matcher = .deferred element ∧
      ((element.resolve interpreter scope).run state).1 = .error fault := by
  cases matcher with
  | exact value => cases raised
  | wildcard => cases raised
  | openRange => cases raised
  | deferred element =>
    rcases run_bind_error_iff.mp raised with resolved | ⟨byte, later, -, compared⟩
    · exact ⟨element, rfl, resolved⟩
    · cases compared

/-- A match that fails does so at an element that is evaluated: the positions before it accept their
bytes. -/
theorem Pattern.acceptsAll_fault {matchers : List Matcher} {data : List UInt8}
    (elements : ∀ element, .deferred element ∈ matchers →
      Keeps (element.resolve interpreter scope) state)
    (raised : ((acceptsAll interpreter scope matchers data).run state).1 = .error fault) :
    ∃ earlier element others, matchers = earlier ++ .deferred element :: others ∧
      earlier.length < data.length ∧
      (∀ position ∈ earlier.zip data,
        (position.1.accepts interpreter position.2 scope).run state = (.ok true, state)) ∧
      (element.resolve interpreter scope).run state = (.error fault, state) := by
  induction matchers generalizing data with
  | nil => cases raised
  | cons matcher matchers ih =>
    cases data with
    | nil => cases raised
    | cons byte data =>
      have own : Keeps (matcher.accepts interpreter byte scope) state :=
        Matcher.accepts_keeps byte fun element same =>
          elements element (same ▸ List.mem_cons_self)
      rw [acceptsAll, run_bind, own.run_eq] at raised
      cases answer : ((matcher.accepts interpreter byte scope).run state).1 with
      | error found =>
        rw [answer] at raised
        obtain rfl : found = fault := Except.error.inj raised
        obtain ⟨element, rfl, resolved⟩ := Matcher.accepts_fault answer
        refine ⟨[], element, matchers, rfl, Nat.succ_pos _, fun position => ?_, ?_⟩
        · intro member
          cases member
        · exact (elements element List.mem_cons_self).run_eq.trans (by rw [resolved])
      | ok accepted =>
        rw [answer] at raised
        cases accepted with
        | false => cases raised
        | true =>
          obtain ⟨earlier, element, others, rfl, within, accepted, resolved⟩ :=
            ih (fun element member => elements element (List.mem_cons_of_mem _ member)) raised
          refine ⟨matcher :: earlier, element, others, rfl, Nat.succ_lt_succ within, ?_, resolved⟩
          intro position member
          rcases List.mem_cons.mp member with rfl | member
          · exact own.run_eq.trans (by rw [answer])
          · exact accepted position member

theorem Pattern.accepts_fault {pattern : Pattern} (fixed : .openRange ∉ pattern.matchers)
    (elements : ∀ element ∈ pattern.deferred, Keeps (element.resolve interpreter scope) state)
    (raised : ((pattern.accepts interpreter data scope).run state).1 = .error fault) :
    ∃ earlier element others, pattern.matchers = earlier ++ .deferred element :: others ∧
      earlier.length < data.length ∧
      (∀ position ∈ earlier.zip data,
        (position.1.accepts interpreter position.2 scope).run state = (.ok true, state)) ∧
      (element.resolve interpreter scope).run state = (.error fault, state) := by
  rw [accepts_fixed interpreter fixed] at raised
  split at raised
  · exact acceptsAll_fault (fun element member => elements element (mem_deferred.mpr member)) raised
  · cases raised

end

/-- A computation that does not depend on the state and leaves it as it is. -/
def Steady (action : ExceptT ε (StateM s) α) : Prop :=
  ∃ result, ∀ state, action.run state = (result, state)

namespace Plan
variable [Reader ρ] {interpreter : Interpreter σ} {world : World σ}

/-- A parse comes to an element: the fields before that of the element are read and matched, its own
is read, and the positions before it accept their bytes. -/
inductive Reaches (interpreter : Interpreter σ) (plan : Plan) (names : Scope) (state : σ)
    (reader : ρ) (element : Deferred) : Prop
  | intro {before later : List Field} {field : Field} {earlier others : List Matcher}
    {run after : Run σ ρ} {stored : Members} {consumed : Nat}
    (fields : plan.fields = before ++ field :: later)
    (matched : (runFields interpreter 0 before).run
      ⟨plan.world names state, reader, plan.buffer⟩ = (.ok (.ok stored, consumed), run))
    (read : (Running.fill field.size).run run = (.ok .full, after))
    (matchers : field.pattern.matchers = earlier ++ .deferred element :: others)
    (accepted : ∀ position ∈ earlier.zip (after.buffer.take field.size),
      (position.1.accepts interpreter position.2 (plan.scope.layer names)).run state =
        (.ok true, state))

/-- Further names change an element: it stands for a byte in the scope of the plan, but with them it
has another value or cannot be evaluated. -/
def Changes (interpreter : Interpreter σ) (plan : Plan) (names : Scope) (state : σ)
    (element : Deferred) : Prop :=
  ∃ byte : Nat, byte ≤ 255 ∧
    (element.outcome interpreter plan.scope).run state = (.ok (.int byte), state) ∧
    ((∃ failure, ((element.outcome interpreter (plan.scope.layer names)).run state).1 =
        .error failure) ∨
      ∃ value, value ≠ .int byte ∧
        ((element.outcome interpreter (plan.scope.layer names)).run state).1 = .ok value)

theorem matchField_specification {field : Field} {raw : List UInt8}
    (free : field.SideEffectFree interpreter world)
    (spares : ByteRecord.Spares Fault.IsSpecification (field.evaluate interpreter raw) world)
    (raised : ((matchField interpreter field raw).run world).1 = .error (.specification error)) :
    field.verdict interpreter world raw = .error (.specification error) := by
  rw [matchField_run free] at raised
  cases verdict : field.verdict interpreter world raw with
  | error fault =>
    rw [verdict] at raised
    exact congrArg Except.error (Except.error.inj raised)
  | ok accepted =>
    rw [verdict] at raised
    cases accepted with
    | false => cases raised
    | true =>
      rw [ByteRecord.Spares, Field.run_evaluate free] at spares
      cases member : field.member with
      | none =>
        rw [member] at raised
        cases raised
      | some member' =>
        rw [member] at raised
        exact absurd trivial (spares _ (map_error_iff.mp raised))

theorem runField_specification {field : Field} (run : Run σ ρ)
    (free : field.SideEffectFree interpreter run.world)
    (spares : ∀ raw, ByteRecord.Spares Fault.IsSpecification (field.evaluate interpreter raw) run.world)
    (reader : Reader.Spares Fault.IsSpecification run.reader)
    (raised : ((runField interpreter field).run run).1 = .error (.specification error)) :
    ∃ after, (Running.fill field.size).run run = (.ok .full, after) ∧
      field.verdict interpreter run.world (after.buffer.take field.size) =
        .error (.specification error) := by
  have filled : (Running.fill field.size).run run =
      (.ok (Filling.fill (run.buffer.take field.size) run.reader).1,
        { run with
          reader := (Filling.fill (run.buffer.take field.size) run.reader).2.2
          buffer := (Filling.fill (run.buffer.take field.size) run.reader).2.1 ++
            run.buffer.drop field.size }) := rfl
  have unread := (reader.fillFrom Fault.foreign_isSpecification (Reader.protocol run.reader)
    (run.buffer.take field.size).length 0 (run.buffer.take field.size)).1
  change ∀ fault, (Filling.fill (run.buffer.take field.size) run.reader).1 = _ → _ at unread
  rw [runField_eq] at raised
  cases fill : Filling.fill (run.buffer.take field.size) run.reader with
  | mk filling rest =>
    rw [fill] at raised filled unread
    cases filling with
    | failed fault => exact absurd trivial (passedOn_spares (unread fault rfl) _ raised)
    | short received cause => cases raised
    | full =>
      refine ⟨_, filled, matchField_specification free (spares _) ?_⟩
      exact map_error_iff.mp raised

theorem runFields_specification {fields : List Field} {consumed : Nat} {reader : ρ}
    {buffer : List UInt8} (free : ∀ field ∈ fields, field.SideEffectFree interpreter world)
    (spares : ∀ field ∈ fields, ∀ raw,
      ByteRecord.Spares Fault.IsSpecification (field.evaluate interpreter raw) world)
    (unread : Reader.Spares Fault.IsSpecification reader)
    (raised : ((runFields interpreter consumed fields).run ⟨world, reader, buffer⟩).1 =
      .error (.specification error)) :
    ∃ before field later members total run after,
      fields = before ++ field :: later ∧
      (runFields interpreter consumed before).run ⟨world, reader, buffer⟩ =
        (.ok (.ok members, total), run) ∧
      (Running.fill field.size).run run = (.ok .full, after) ∧
      field.verdict interpreter world (after.buffer.take field.size) =
        .error (.specification error) := by
  induction fields generalizing consumed reader buffer with
  | nil => cases raised
  | cons field fields ih =>
    obtain ⟨own, free⟩ := List.forall_mem_cons.mp free
    obtain ⟨own_spares, spares⟩ := List.forall_mem_cons.mp spares
    have kept := runField_world reader buffer own
    have unread' : Reader.Spares Fault.IsSpecification
        ((runField interpreter field).run ⟨world, reader, buffer⟩).2.reader :=
      runField_reader Fault.foreign_isSpecification field unread
    rw [runFields_cons] at raised
    cases first : (runField interpreter field).run ⟨world, reader, buffer⟩ with
    | mk result run =>
      rw [first] at raised kept unread'
      obtain ⟨world', reader', buffer'⟩ := run
      subst kept
      cases result with
      | error fault =>
        obtain rfl : fault = .specification error := Except.error.inj raised
        obtain ⟨after, read, verdict⟩ := runField_specification ⟨world', reader, buffer⟩ own
          own_spares unread (congrArg Prod.fst first)
        exact ⟨[], field, fields, [], consumed, _, after, rfl, rfl, read, verdict⟩
      | ok answer =>
        obtain ⟨result, taken⟩ := answer
        cases result with
        | error error => cases raised
        | ok stored =>
          have later_raised : ((runFields interpreter (consumed + taken) fields).run
              ⟨world', reader', buffer'⟩).1 = .error (.specification error) := by
            exact map_error_iff.mp raised
          obtain ⟨before, other, later, members, total, run, after, rfl, matched, read, verdict⟩ :=
            ih free spares unread' later_raised
          refine ⟨field :: before, other, later, stored ++ members, total, run, after, rfl, ?_,
            read, verdict⟩
          rw [runFields_cons, first]
          dsimp only
          rw [matched]
          rfl

/-- The elements that were checked when a plan was made stand for a byte at all times. -/
theorem Obtained.resolves {before after : σ} {plan : Plan}
    (obtained : Obtained interpreter before plan after)
    (steady : ∀ field ∈ plan.fields, ∀ element ∈ field.pattern.deferred,
      Steady (element.resolve interpreter plan.scope)) :
    ∀ field ∈ plan.fields, ∀ element ∈ field.pattern.deferred, ∃ byte, ∀ state,
      (element.resolve interpreter plan.scope).run state = (.ok byte, state) := by
  intro field present element member
  obtain ⟨-, -, symbols⟩ := obtained.built
  obtain ⟨-, bytes⟩ := of_checkSymbols (fun field present element member => by
    obtain ⟨result, same⟩ := steady field present element member
    rw [Keeps, same]) symbols
  obtain ⟨byte, resolved⟩ := bytes field present element member
  obtain ⟨result, same⟩ := steady field present element member
  refine ⟨byte, fun state => (same state).trans ?_⟩
  rw [(Prod.mk.inj ((same before).symm.trans resolved)).1]

theorem changes_of_resolve {plan : Plan} {names : Scope} {state : σ} {element : Deferred}
    (resolved : (element.resolve interpreter plan.scope).run state = (.ok byte, state))
    (raised : ((element.resolve interpreter (plan.scope.layer names)).run state).1 = .error fault) :
    plan.Changes interpreter names state element := by
  obtain ⟨given, small⟩ := Deferred.outcome_of_resolve resolved
  refine ⟨byte, small, given, ?_⟩
  cases found : (element.outcome interpreter (plan.scope.layer names)).run state with
  | mk result later =>
    rw [Deferred.run_resolve, found] at raised
    cases result with
    | error failure => exact .inl ⟨failure, rfl⟩
    | ok value =>
      refine .inr ⟨value, ?_, rfl⟩
      rintro rfl
      have own : element.byteOf (.int byte) = .ok byte := Deferred.byteOf_ok_iff.mpr ⟨rfl, small⟩
      cases own.symm.trans raised

theorem not_changes_empty (interpreter : Interpreter σ) (plan : Plan) (state : σ)
    (element : Deferred) : ¬plan.Changes interpreter .empty state element := by
  rintro ⟨byte, -, given, changed⟩
  rw [Scope.layer_empty, given] at changed
  obtain ⟨failure, other⟩ | ⟨value, other, same⟩ := changed
  · cases other
  · cases same
    exact other rfl

theorem streamOf_keeps {plan : Plan} (source : Value)
    (supplied : ∀ e, plan.reader = some e → Keeps (Effect.evaluate interpreter e.code) world) :
    Keeps (plan.streamOf interpreter source) world := by
  unfold streamOf
  split
  · exact .throw _
  · next e given =>
    apply Keeps.bind (supplied e given)
    intro value
    exact .lift _
  · exact .lift _

/-- A run finds a fault in a specification only at an element that it comes to. -/
theorem run_specification {plan : Plan} {names : Scope} {state : σ} {reader : ρ}
    (wellFormed : ∀ field ∈ plan.fields, field.WellFormed)
    (free : plan.SideEffectFree interpreter (plan.world names state))
    (spares : plan.Spares Fault.IsSpecification interpreter (plan.world names state))
    (unread : Reader.Spares Fault.IsSpecification reader)
    (raised : ((plan.run interpreter).run ⟨plan.world names state, reader, plan.buffer⟩).1 =
      .error (.specification error)) :
    ∃ field ∈ plan.fields, ∃ element ∈ field.pattern.deferred,
      plan.Reaches interpreter names state reader element ∧
      (element.resolve interpreter (plan.scope.layer names)).run state =
        (.error (.specification error), state) := by
  have read : ((runFields interpreter 0 plan.fields).run
      ⟨plan.world names state, reader, plan.buffer⟩).1 = .error (.specification error) := by
    have kept := runFields_world reader plan.buffer plan.fields 0 free.fields
    rw [run_eq] at raised
    cases ran : (runFields interpreter 0 plan.fields).run
        ⟨plan.world names state, reader, plan.buffer⟩ with
    | mk result after =>
      rw [ran] at raised kept
      cases result with
      | error fault => exact congrArg Except.error (Except.error.inj raised)
      | ok answer =>
        obtain ⟨result, consumed⟩ := answer
        cases result with
        | error error => cases raised
        | ok members =>
          obtain ⟨world', reader', buffer'⟩ := after
          obtain rfl : world' = plan.world names state := kept
          have made := assemble_spares Fault.foreign_isSpecification spares
            (fun e rest later given evaluated => by
              have same := (free.rest e given).run_eq.symm.trans evaluated
              exact (Prod.mk.inj same).2 ▸ spares) members
          exact absurd trivial (made _ (map_error_iff.mp raised))
  obtain ⟨before, field, later, members, total, run, after, fields, matched, filled, verdict⟩ :=
    runFields_specification free.fields spares.transforms unread read
  have present : field ∈ plan.fields := fields ▸ List.mem_append_right _ List.mem_cons_self
  obtain ⟨earlier, element, others, matchers, -, accepted, resolved⟩ :=
    Pattern.accepts_fault (wellFormed field present).fixed (free.fields field present).elements
      verdict
  have member : element ∈ field.pattern.deferred :=
    Pattern.mem_deferred.mpr (matchers ▸ List.mem_append_right _ List.mem_cons_self)
  exact ⟨field, present, element, member, ⟨fields, matched, filled, matchers, accepted⟩, resolved⟩

section
variable {before after : σ} {plan : Plan} {names : Scope} {state : σ}

/-- A run of a plan, however it was made, finds such a fault only at an element that it comes to and
that the further names change. -/
theorem run_changes {reader : ρ} (obtained : Obtained interpreter before plan after)
    (steady : ∀ field ∈ plan.fields, ∀ element ∈ field.pattern.deferred,
      Steady (element.resolve interpreter plan.scope))
    (free : plan.SideEffectFree interpreter (plan.world names state))
    (spares : plan.Spares Fault.IsSpecification interpreter (plan.world names state))
    (unread : Reader.Spares Fault.IsSpecification reader)
    (raised : ((plan.run interpreter).run ⟨plan.world names state, reader, plan.buffer⟩).1 =
      .error (.specification error)) :
    ∃ element, plan.Reaches interpreter names state reader element ∧
      plan.Changes interpreter names state element ∧
      (element.resolve interpreter (plan.scope.layer names)).run state =
        (.error (.specification error), state) := by
  obtain ⟨wellFormed, -⟩ := obtained.built
  obtain ⟨field, present, element, member, reached, resolved⟩ :=
    run_specification wellFormed free spares unread raised
  obtain ⟨byte, checked⟩ := obtained.resolves steady field present element member
  exact ⟨element, reached, changes_of_resolve (checked state) (congrArg Prod.fst resolved), resolved⟩

/-- What supplies the stream raises no such fault, so it is one of the run. -/
theorem parse_changes {source : Value} (obtained : Obtained interpreter before plan after)
    (steady : ∀ field ∈ plan.fields, ∀ element ∈ field.pattern.deferred,
      Steady (element.resolve interpreter plan.scope))
    (free : plan.SideEffectFree interpreter (plan.world names state))
    (spares : plan.Spares Fault.IsSpecification interpreter (plan.world names state))
    (supplied : ∀ e, plan.reader = some e →
      Keeps (Effect.evaluate interpreter e.code) (plan.world names state))
    (supplies : ∀ e, plan.reader = some e →
      ByteRecord.Spares Fault.IsSpecification (Effect.evaluate interpreter e.code)
        (plan.world names state))
    (raised : ((plan.parse interpreter names source).run state).1 = .error (.specification error)) :
    ∃ stream, (plan.streamOf interpreter source).run (plan.world names state) =
        (.ok stream, plan.world names state) ∧
      ∃ element, plan.Reaches interpreter names state stream element ∧
        plan.Changes interpreter names state element ∧
        (element.resolve interpreter (plan.scope.layer names)).run state =
          (.error (.specification error), state) := by
  have kept : Keeps (plan.streamOf interpreter source) (plan.world names state) :=
    streamOf_keeps source supplied
  have unsupplied := streamOf_spares Fault.foreign_isSpecification source supplies
  rw [parse, ExceptT.run_mk, kept.run_eq] at raised
  cases found : ((plan.streamOf interpreter source).run (plan.world names state)).1 with
  | error fault =>
    rw [found] at raised
    obtain rfl : fault = .specification error := Except.error.inj raised
    exact absurd trivial (unsupplied _ found)
  | ok stream =>
    rw [found] at raised
    have unread := stream.spares Fault.foreign_isSpecification
    exact ⟨stream, kept.run_eq.trans (by rw [found]),
      run_changes obtained steady free spares unread raised⟩

end

/-- The check of computed elements is sound. A plan without side effects, however it was made, finds
no fault in a specification when it is run without further names. With such names it does so only if
they change an element that the run comes to, and the error is the one of that element. This takes
that neither a transform, the target, the rest nor the reader raises such a fault itself. -/
theorem parse_specification {before after : σ} {plan : Plan}
    (obtained : Obtained interpreter before plan after)
    (steady : ∀ field ∈ plan.fields, ∀ element ∈ field.pattern.deferred,
      Steady (element.resolve interpreter plan.scope))
    (names : Scope) (state : σ)
    (free : plan.SideEffectFree interpreter (plan.world names state))
    (spares : plan.Spares Fault.IsSpecification interpreter (plan.world names state))
    (supplied : ∀ e, plan.reader = some e →
      Keeps (Effect.evaluate interpreter e.code) (plan.world names state))
    (supplies : ∀ e, plan.reader = some e →
      ByteRecord.Spares Fault.IsSpecification (Effect.evaluate interpreter e.code)
        (plan.world names state)) :
    (∀ reader : ρ, Reader.Spares Fault.IsSpecification reader → ∀ error : SpecificationError,
      (plan.parseStream interpreter names reader state).1.1 = .error (.specification error) →
      ∃ element, plan.Reaches interpreter names state reader element ∧
        plan.Changes interpreter names state element ∧
        (element.resolve interpreter (plan.scope.layer names)).run state =
          (.error (.specification error), state)) ∧
    (∀ (source : Value) (error : SpecificationError),
      ((plan.parse interpreter names source).run state).1 = .error (.specification error) →
      ∃ stream, (plan.streamOf interpreter source).run (plan.world names state) =
          (.ok stream, plan.world names state) ∧
        ∃ element, plan.Reaches interpreter names state stream element ∧
          plan.Changes interpreter names state element ∧
          (element.resolve interpreter (plan.scope.layer names)).run state =
            (.error (.specification error), state)) ∧
    (names = .empty →
      (∀ reader : ρ, Reader.Spares Fault.IsSpecification reader → ∀ error : SpecificationError,
        (plan.parseStream interpreter names reader state).1.1 ≠ .error (.specification error)) ∧
      ∀ (source : Value) (error : SpecificationError),
        ((plan.parse interpreter names source).run state).1 ≠ .error (.specification error)) := by
  have of_run (reader : ρ) (unread : Reader.Spares Fault.IsSpecification reader)
      (error : SpecificationError)
      (raised : (plan.parseStream interpreter names reader state).1.1 =
        .error (.specification error)) :=
    run_changes obtained steady free spares unread raised
  have of_parse (source : Value) (error : SpecificationError)
      (raised : ((plan.parse interpreter names source).run state).1 =
        .error (.specification error)) :=
    parse_changes obtained steady free spares supplied supplies raised
  refine ⟨of_run, of_parse, ?_⟩
  rintro rfl
  constructor
  · intro reader unread error raised
    obtain ⟨element, -, changed, -⟩ := of_run reader unread error raised
    exact not_changes_empty interpreter plan state element changed
  · intro source error raised
    obtain ⟨stream, -, element, -, changed, -⟩ := of_parse source error raised
    exact not_changes_empty interpreter plan state element changed

def symbolic : Plan where
  target := .entries
  fields := [⟨none, ⟨[.deferred ⟨"n", .inl (.name "n"), none⟩], .array⟩, none, none, none⟩,
    ⟨some (.name "a"), ⟨[.wildcard], .hex⟩, none, some (.function (.builtin .len)), none⟩]
  rest := none
  scope := ⟨[("n", .int 7)]⟩
  reader := none
  name := .str "symbolic"

theorem symbolic_obtained (state : Expr.Counts) : Obtained .standard state symbolic state := by
  have skip : Field.skip (.array [.matcher (.deferred ⟨"n", .inl (.name "n"), none⟩)]) =
      .ok ⟨none, ⟨[.deferred ⟨"n", .inl (.name "n"), none⟩], .array⟩, none, none, none⟩ := rfl
  have bound : Field.bound (.str "a") (.value (.str "__")) (some (.function (.builtin .len))) .none =
      .ok ⟨some (.name "a"), ⟨[.wildcard], .hex⟩, none, some (.function (.builtin .len)), none⟩ := rfl
  have made : ∀ field ∈ symbolic.fields, Field.Made field :=
    List.forall_mem_cons.mpr ⟨.skip skip, List.forall_mem_singleton.mpr (.bound bound)⟩
  have built : (build .standard symbolic.target symbolic.fields none symbolic.scope none
      (.str "symbolic")).run state = (.ok symbolic, state) := rfl
  exact .fields made built

theorem symbolic_element {field : Field} (present : field ∈ symbolic.fields)
    (member : element ∈ field.pattern.deferred) : element = ⟨"n", .inl (.name "n"), none⟩ := by
  rcases List.mem_cons.mp present with rfl | present
  · exact List.mem_singleton.mp member
  · obtain rfl := List.mem_singleton.mp present
    cases member

theorem symbolic_evaluate {field : Field} (present : field ∈ symbolic.fields) (raw : List UInt8)
    (world : World Expr.Counts) :
    ∃ value, (field.evaluate .standard raw).run world = (.ok value, world) := by
  rcases List.mem_cons.mp present with rfl | present
  · exact ⟨.bytes raw, rfl⟩
  · obtain rfl := List.mem_singleton.mp present
    exact ⟨.int (raw.map fun byte => Value.int byte.toNat).length, rfl⟩

theorem symbolic_spares (world : World Expr.Counts) :
    symbolic.Spares Fault.IsSpecification .standard world := by
  refine ⟨fun field present raw fault failed => ?_, nofun, nofun, nofun⟩
  obtain ⟨value, made⟩ := symbolic_evaluate present raw world
  rw [made] at failed
  cases failed

/-- Without further names the plan finds no fault in a specification. With none for `n` it does, at
its first byte. -/
theorem parse_specification_symbolic :
    (∀ source error, ((symbolic.parse .standard .empty source).run fun _ => 0).1 ≠
      .error (.specification error)) ∧
    ∃ stream element, symbolic.Reaches .standard ⟨[("n", .none)]⟩ (fun _ => 0)
        (stream : Stream) element ∧
      symbolic.Changes .standard ⟨[("n", .none)]⟩ (fun _ => 0) element := by
  have steady : ∀ field ∈ symbolic.fields, ∀ element ∈ field.pattern.deferred,
      Steady (element.resolve .standard symbolic.scope) := by
    intro field present element member
    obtain rfl := symbolic_element present member
    exact ⟨.ok 7, fun state => rfl⟩
  have free (names : Scope)
      (keeps : Keeps ((⟨"n", .inl (.name "n"), none⟩ : Deferred).resolve .standard
        (symbolic.scope.layer names)) fun _ => 0) :
      symbolic.SideEffectFree .standard (symbolic.world names fun _ => 0) := by
    refine ⟨fun field present => ⟨fun element member => ?_, fun raw => ?_⟩, nofun, nofun, nofun⟩
    · obtain rfl := symbolic_element present member
      exact keeps
    · obtain ⟨value, made⟩ := symbolic_evaluate present raw (symbolic.world names fun _ => 0)
      exact congrArg Prod.snd made
  have obtained := symbolic_obtained fun _ => 0
  obtain ⟨-, -, alone⟩ := parse_specification (ρ := Stream) obtained steady .empty _
    (free .empty rfl) (symbolic_spares _) nofun nofun
  obtain ⟨-, named, -⟩ := parse_specification (ρ := Stream) obtained steady ⟨[("n", .none)]⟩ _
    (free _ rfl) (symbolic_spares _) nofun nofun
  obtain ⟨error, raised⟩ : ∃ error, ((symbolic.parse .standard ⟨[("n", .none)]⟩
      (.bytes [0x07, 0x01])).run fun _ => 0).1 = .error (.specification error) :=
    ⟨_, by with_unfolding_all rfl⟩
  obtain ⟨stream, -, element, reached, changed, -⟩ := named _ error raised
  exact ⟨(alone rfl).2, stream, element, reached, changed⟩

/-- `__import__('hexstruct').hex_literal('__')`: a wildcard has no bytes to be read. -/
def rereading : Expr :=
  .call (.attribute (.call (.name "__import__") [.const (.str "hexstruct")]) "hex_literal")
    [.const (.str "__")]

/-- A plan whose only byte is stored as what another reading of a hex literal gives. -/
def reread : Plan where
  target := .entries
  fields := [⟨some (.name "a"), ⟨[.wildcard], .hex⟩, none,
    some (.expression ⟨.str "__import__('hexstruct').hex_literal('__')", rereading, none⟩), none⟩]
  rest := none
  scope := .empty
  reader := none
  name := .str "reread"

/-- A plan without elements and without side effects ends in a fault of a specification, without
further names: the one that its transform raises. -/
theorem transform_raises_specification :
    Obtained (Library.interpreter Expr.callValue) ⟨fun _ => 0, []⟩ reread ⟨fun _ => 0, []⟩ ∧
    reread.SideEffectFree (Library.interpreter Expr.callValue)
      (reread.world .empty ⟨fun _ => 0, []⟩) ∧
    (∀ field ∈ reread.fields, field.pattern.deferred = []) ∧
    ∃ error, ((reread.parseBytes (Library.interpreter Expr.callValue) .empty [0]).run
      ⟨fun _ => 0, []⟩).1 = .error (.specification error) := by
  have bound : Field.bound (.str "a") (.value (.str "__"))
      (some (.expression ⟨.str "__import__('hexstruct').hex_literal('__')", rereading, none⟩)) .none =
      .ok ⟨some (.name "a"), ⟨[.wildcard], .hex⟩, none, some (.expression
        ⟨.str "__import__('hexstruct').hex_literal('__')", rereading, none⟩), none⟩ := rfl
  have built : (build (Library.interpreter Expr.callValue) .entries reread.fields none .empty none
      (.str "reread")).run ⟨fun _ => 0, []⟩ = (.ok reread, ⟨fun _ => 0, []⟩) := rfl
  refine ⟨.fields (List.forall_mem_singleton.mpr (.bound bound)) built, ⟨?_, nofun, nofun, nofun⟩,
    List.forall_mem_singleton.mpr rfl, _, by with_unfolding_all rfl⟩
  exact List.forall_mem_singleton.mpr ⟨nofun, fun raw => by with_unfolding_all rfl⟩

end Plan
end ByteRecord
