import ByteRecord.Proofs.Effect.Unchanged

/-! Faults that are not of a plan's own making. An error in a specification or an error of another
parse leaves a plan only where an expression, a function or a reader raises it. -/
namespace ByteRecord

namespace Fault

def IsSpecification : Fault → Prop
  | .specification _ => True
  | _ => False

/-- An error of a parse that is raised. -/
def IsParse : Fault → Prop
  | .parse _ => True
  | _ => False

/-- A kind of faults that is raised neither by a wrong use of a plan nor by an operation on values. -/
structure Foreign (Kind : Fault → Prop) : Prop where
  failure : ∀ failure, ¬Kind (.failure failure)
  noReader : ∀ plan, ¬Kind (.noReader plan)
  notReadable : ∀ typeName, ¬Kind (.notReadable typeName)
  notFillable : ∀ typeName, ¬Kind (.notFillable typeName)

theorem foreign_isSpecification : Foreign IsSpecification :=
  ⟨fun _ => id, fun _ => id, fun _ => id, fun _ => id⟩

end Fault

/-- A computation that is carried out in a state ends in no fault of a kind. -/
def Spares (Kind : Fault → Prop) (action : ExceptT Fault (StateM s) α) (state : s) : Prop :=
  ∀ fault, (action.run state).1 = .error fault → ¬Kind fault

section
variable {Kind : Fault → Prop} {state : s}

namespace Spares

theorem pure (value : α) : Spares Kind (Pure.pure value : ExceptT Fault (StateM s) α) state := by
  intro fault same
  cases same

theorem throw (other : ¬Kind fault) :
    Spares Kind (MonadExcept.throw fault : ExceptT Fault (StateM s) α) state := by
  rintro _ ⟨⟩
  exact other

theorem lift {result : Except Fault α} (other : ∀ fault, result = .error fault → ¬Kind fault) :
    Spares Kind (liftM result : ExceptT Fault (StateM s) α) state := by
  rw [Spares, run_lift]
  exact other

theorem bind {action : ExceptT Fault (StateM s) α} {next : α → ExceptT Fault (StateM s) β}
    (first : Spares Kind action state)
    (later : ∀ value after, action.run state = (.ok value, after) →
      Spares Kind (next value) after) :
    Spares Kind (action >>= next) state := by
  intro fault failed
  rcases run_bind_error_iff.mp failed with failed | ⟨value, middle, ran, failed⟩
  · exact first fault failed
  · exact later value middle ran fault failed

theorem ofResult (foreign : Fault.Foreign Kind) (result : Except Failure α) :
    Spares Kind (liftM (Effect.ofResult result) : ExceptT Fault (StateM s) α) state := by
  refine .lift fun fault failed => ?_
  obtain ⟨failure, -, rfl⟩ := mapError_error_iff.mp failed
  exact foreign.failure failure

theorem apart {action : Scope → Action σ α} {world : World σ}
    (spares : Spares Kind (action world.scope) world.state) : Spares Kind (Effect.apart action) world :=
  spares

end Spares
end

namespace Plan
variable {Kind : Fault → Prop} {interpreter : Interpreter σ} {world : World σ}

/-- What a plan evaluates and calls besides its computed elements ends in no fault of a kind, when it is
carried out in a world. -/
structure Spares (Kind : Fault → Prop) (interpreter : Interpreter σ) (plan : Plan)
    (world : World σ) : Prop where
  transforms : ∀ field ∈ plan.fields, ∀ raw,
    ByteRecord.Spares Kind (field.evaluate interpreter raw) world
  rest : ∀ e, plan.rest = some (.expression e) →
    ByteRecord.Spares Kind (Effect.evaluate interpreter e.code) world
  target : ∀ function arguments, plan.target = .call function →
    ByteRecord.Spares Kind (Effect.call interpreter function arguments) world
  copies : ∀ t parts arguments, plan.RestCanBe (.record t parts) → t.kind = .plain →
    ByteRecord.Spares Kind (Effect.call interpreter (.type (.record t)) arguments) world

theorem construct_spares {target : Target} (arguments : Value.Arguments)
    (call : ∀ function arguments, target = .call function →
      ByteRecord.Spares Kind (Effect.call interpreter function arguments) world) :
    ByteRecord.Spares Kind (construct interpreter target arguments) world := by
  cases target with
  | call function => exact call function arguments rfl
  | entries => exact .pure _

theorem fillFromRest_spares (foreign : Fault.Foreign Kind) {target : Target} (rest : Value)
    (args : List Value) (own : List (String × Value))
    (call : ∀ function arguments, target = .call function →
      ByteRecord.Spares Kind (Effect.call interpreter function arguments) world)
    (copy : ∀ t parts arguments, rest = .record t parts → t.kind = .plain →
      ByteRecord.Spares Kind (Effect.call interpreter (.type (.record t)) arguments) world) :
    ByteRecord.Spares Kind (fillFromRest interpreter target rest args own) world := by
  -- a result as such leaves the world as it is, so what follows on it runs in that world
  have behind {α β : Type} (result : Except Failure α) (next : α → Effect σ β)
      (later : ∀ value, ByteRecord.Spares Kind (next value) world) :
      ByteRecord.Spares Kind (liftM (Effect.ofResult result) >>= next) world := by
    refine (ByteRecord.Spares.ofResult foreign result).bind fun value after ran => ?_
    obtain ⟨-, rfl⟩ := run_lift_ok_iff.mp ran
    exact later value
  unfold fillFromRest
  split
  · exact behind _ _ fun _ => construct_spares _ call
  · split
    · next plain => exact behind _ _ fun _ => copy _ _ _ rfl plain
    · exact behind _ _ fun _ => behind _ _ fun _ => .pure _
    · exact .throw (foreign.notFillable _)
  · exact .throw (foreign.failure _)
  · exact .throw (foreign.notFillable _)

/-- A record is made without a fault of a kind if the plan spares it, also in the world that the rest
leaves. -/
theorem assemble_spares (foreign : Fault.Foreign Kind) {plan : Plan}
    (spares : plan.Spares Kind interpreter world)
    (later : ∀ e rest after, plan.rest = some (.expression e) →
      (Effect.evaluate interpreter e.code).run world = (.ok rest, after) →
      plan.Spares Kind interpreter after)
    (members : Members) : ByteRecord.Spares Kind (plan.assemble interpreter members) world := by
  unfold Plan.assemble
  dsimp only
  split
  · exact construct_spares _ spares.target
  · next given =>
    refine fillFromRest_spares foreign _ _ _ spares.target fun t parts arguments same =>
      spares.copies t parts arguments ?_
    rw [RestCanBe, given]
    exact same.symm
  · next e given =>
    refine (spares.rest e given).bind fun rest after ran => ?_
    have spares' := later e rest after given ran
    refine fillFromRest_spares foreign _ _ _ spares'.target fun t parts arguments _ =>
      spares'.copies t parts arguments ?_
    rw [RestCanBe, given]
    trivial

theorem ofValue_spares (foreign : Fault.Foreign Kind) (value : Value) :
    ∀ fault, Stream.ofValue value = .error fault → ¬Kind fault := by
  intro fault failed
  unfold Stream.ofValue at failed
  split at failed
  · cases failed
  · cases failed
  · split at failed
    · cases failed
    · cases failed
      exact foreign.notReadable _

theorem streamOf_spares (foreign : Fault.Foreign Kind) {plan : Plan} (source : Value)
    (supplied : ∀ e, plan.reader = some e →
      ByteRecord.Spares Kind (Effect.evaluate interpreter e.code) world) :
    ByteRecord.Spares Kind (plan.streamOf interpreter source) world := by
  unfold streamOf
  split
  · exact .throw (foreign.noReader _)
  · next e given =>
    exact (supplied e given).bind fun value _ _ => .lift (ofValue_spares foreign value)
  · exact .lift (ofValue_spares foreign _)

end Plan

theorem Deferred.byteOf_spares (element : Deferred) (value : Value) :
    ∀ fault, element.byteOf value = .error fault → ¬fault.IsParse := by
  intro fault failed
  have refused (cause : Cause) : ¬(Fault.ofCauseAt element.location .pattern cause).IsParse := by
    rcases Fault.ofCauseAt_cases element.location .pattern cause with ⟨-, same⟩ | ⟨-, same⟩ <;>
      rw [same] <;> exact id
  unfold byteOf at failed
  split at failed
  · split at failed
    · cases failed
    · exact Except.error.inj failed ▸ refused _
  · exact Except.error.inj failed ▸ refused _

/-- Whatever an element raises, no error of a parse leaves its pattern. -/
theorem Deferred.resolve_spares (interpreter : Interpreter σ) (element : Deferred) (scope : Scope)
    (state : σ) : Spares Fault.IsParse (element.resolve interpreter scope) state := by
  intro fault failed
  cases given : (element.outcome interpreter scope).run state with
  | mk result later =>
    have answer : element.outcome interpreter scope state = (result, later) := given
    simp only [resolve, ExceptT.run_mk, Bind.bind, StateT.bind, answer] at failed
    cases result with
    | ok value => exact element.byteOf_spares value fault failed
    | error raised =>
      obtain rfl : element.refusal raised = fault := Except.error.inj failed
      rcases element.refusal_cases raised with ⟨_, -, same⟩ | same <;> rw [same] <;> exact id

theorem Matcher.accepts_spares (interpreter : Interpreter σ) (matcher : Matcher) (byte : UInt8)
    (scope : Scope) (state : σ) :
    Spares Fault.IsParse (matcher.accepts interpreter byte scope) state := by
  cases matcher with
  | exact value => exact .pure _
  | wildcard => exact .pure _
  | openRange => exact .pure _
  | deferred element => exact (element.resolve_spares interpreter scope state).bind fun _ _ _ => .pure _

theorem Pattern.acceptsAll_spares (interpreter : Interpreter σ) (scope : Scope)
    (matchers : List Matcher) (data : List UInt8) (state : σ) :
    Spares Fault.IsParse (acceptsAll interpreter scope matchers data) state := by
  induction matchers generalizing data state with
  | nil => exact .pure _
  | cons matcher matchers ih =>
    cases data with
    | nil => exact .pure _
    | cons byte data =>
      refine (matcher.accepts_spares interpreter byte scope state).bind fun accepted after _ => ?_
      cases accepted with
      | false => exact .pure _
      | true => exact ih data after

theorem Pattern.accepts_spares (interpreter : Interpreter σ) (pattern : Pattern)
    (data : List UInt8) (scope : Scope) (state : σ) :
    Spares Fault.IsParse (pattern.accepts interpreter data scope) state := by
  rcases pattern.accepts_parts data with never | ⟨before, -, after, -, front, back, same⟩
  · rw [never]
    exact .pure _
  · rw [same]
    refine (acceptsAll_spares interpreter scope before front state).bind fun accepted later _ => ?_
    cases accepted with
    | false => exact .pure _
    | true => exact acceptsAll_spares interpreter scope after back later

/-- The readers that a reader becomes when it is asked for bytes. -/
inductive Reader.Later [Reader ρ] (reader : ρ) : ρ → Prop
  | refl : Later reader reader
  | ask (count : Nat) (earlier : Later reader middle) : Later reader (Reader.ask count middle).2

/-- A reader never fails with a fault of a kind, however it is asked. -/
def Reader.Spares [Reader ρ] (Kind : Fault → Prop) (reader : ρ) : Prop :=
  ∀ later, Later reader later → ∀ count fault, (Reader.ask count later).1 = .failed fault →
    ¬Kind fault

namespace Reader.Spares
variable [Reader ρ] {Kind : Fault → Prop} {reader : ρ}

theorem asked (spares : Spares Kind reader) (count : Nat) : Spares Kind (Reader.ask count reader).2 := by
  intro later reached
  refine spares later ?_
  induction reached with
  | refl => exact .ask count .refl
  | ask count earlier ih => exact .ask count ih

theorem fillFrom (foreign : Fault.Foreign Kind) (spares : Spares Kind reader) (protocol : Protocol)
    (requested filled : Nat) (view : List UInt8) :
    (∀ fault, (Filling.fillFrom protocol requested filled view reader).1 = .failed fault →
      ¬Kind fault) ∧
    Spares Kind (Filling.fillFrom protocol requested filled view reader).2.2 := by
  induction missing : requested - filled using Nat.strongRecOn generalizing filled view reader with
  | ind missing ih =>
    by_cases lacking : filled < requested
    · cases answered : Reader.ask (requested - filled) reader with
      | mk answer reader' =>
        have spares' : Spares Kind reader' := by
          have kept := spares.asked (requested - filled)
          rwa [answered] at kept
        rw [Filling.fillFrom_step protocol view lacking answered]
        cases received : Filling.receive protocol view filled answer with
        | ok added =>
          obtain ⟨count, view'⟩ := added
          cases count with
          | zero =>
            refine ⟨fun fault failed => ?_, spares'⟩
            cases failed
          | succ count => exact ih _ (by omega) spares' _ _ rfl
        | error filling =>
          refine ⟨?_, spares'⟩
          rintro fault rfl
          rcases Filling.receive_failed received with ⟨failure, rfl⟩ | rfl
          · exact foreign.failure failure
          · exact spares reader .refl _ _ (congrArg Prod.fst answered)
    · rw [Filling.fillFrom_of_le protocol view (Nat.le_of_not_lt lacking)]
      refine ⟨fun fault failed => ?_, spares⟩
      cases failed

end Reader.Spares

/-- A stream fails with a failure as such, whatever its script. -/
theorem Stream.spares (foreign : Fault.Foreign Kind) (stream : Stream) :
    Reader.Spares Kind stream := by
  intro later _ count fault failed
  obtain ⟨failure, rfl⟩ := Stream.ask_failed failed
  exact foreign.failure failure

namespace Plan
variable [Reader ρ] {Kind : Fault → Prop} {interpreter : Interpreter σ} {run : Run σ ρ}

/-- What a fault of a reader comes to is of a kind only if the fault is. -/
theorem passedOn_spares (other : ¬Kind fault) :
    ∀ raised, passedOn fault = .error raised → ¬Kind raised := by
  intro raised failed
  rcases passedOn_cases fault with ⟨_, _, _, -, same⟩ | ⟨-, same⟩
  · cases same.symm.trans failed
  · cases same.symm.trans failed
    exact other

theorem runField_reader (foreign : Fault.Foreign Kind) (field : Field)
    (spares : Reader.Spares Kind run.reader) :
    Reader.Spares Kind ((runField interpreter field).run run).2.reader := by
  have kept := (spares.fillFrom foreign (Reader.protocol run.reader)
    (run.buffer.take field.size).length 0 (run.buffer.take field.size)).2
  rw [runField_eq]
  change Reader.Spares Kind (Filling.fill (run.buffer.take field.size) run.reader).2.2 at kept
  cases fill : Filling.fill (run.buffer.take field.size) run.reader with
  | mk filling rest =>
    rw [fill] at kept
    cases filling <;> exact kept

end Plan
end ByteRecord
