import Mathlib.Data.List.TakeWhile
import ByteRecord.Plan.Run

/-! Computations without side effects. Matching and evaluation consist of computations on the state
of the interpreter, so what each expression leaves as it is, a field leaves as it is. -/
namespace ByteRecord

/-- A computation that leaves one state as it is. -/
def Keeps (action : ExceptT ε (StateM s) α) (state : s) : Prop :=
  (action.run state).2 = state

namespace Keeps

theorem run_eq {action : ExceptT ε (StateM s) α} (keeps : Keeps action state) :
    action.run state = ((action.run state).1, state) :=
  Prod.ext rfl keeps

theorem pure (value : α) : Keeps (Pure.pure value : ExceptT ε (StateM s) α) state :=
  rfl

theorem throw (error : ε) : Keeps (MonadExcept.throw error : ExceptT ε (StateM s) α) state :=
  rfl

theorem lift (result : Except ε α) : Keeps (liftM result : ExceptT ε (StateM s) α) state := by
  rw [Keeps, run_lift]

theorem bind {action : ExceptT ε (StateM s) α} {next : α → ExceptT ε (StateM s) β}
    (first : Keeps action state) (later : ∀ value, Keeps (next value) state) :
    Keeps (action >>= next) state := by
  rw [Keeps, run_bind, first.run_eq]
  cases (action.run state).1 with
  | error fault => rfl
  | ok value => exact later value

/-- Computations one after the other that all leave the state as it is come to what each of them comes
to in that state. -/
theorem run_mapM {f : α → ExceptT ε (StateM s) β} {list : List α}
    (keeps : ∀ value ∈ list, Keeps (f value) state) :
    (list.mapM f).run state = (list.mapM fun value => ((f value).run state).1, state) := by
  induction list with
  | nil => rfl
  | cons value list ih =>
    obtain ⟨first, others⟩ := List.forall_mem_cons.mp keeps
    rw [List.mapM_cons, List.mapM_cons, run_bind, first.run_eq]
    cases ((f value).run state).1 with
    | error fault => rfl
    | ok result =>
      dsimp only
      rw [run_bind, ih others]
      cases list.mapM fun value => ((f value).run state).1 <;> rfl

theorem apart {action : Scope → Action σ α} {world : World σ}
    (keeps : Keeps (action world.scope) world.state) : Keeps (Effect.apart action) world := by
  rw [Keeps, Effect.apart, ExceptT.run_mk]
  exact congrArg (World.mk world.scope) keeps

end Keeps

theorem Pattern.mem_deferred {pattern : Pattern} :
    element ∈ pattern.deferred ↔ .deferred element ∈ pattern.matchers := by
  rw [deferred, List.mem_filterMap]
  constructor
  · rintro ⟨matcher, member, same⟩
    cases matcher with
    | deferred other =>
      cases same
      exact member
    | exact value => cases same
    | wildcard => cases same
    | openRange => cases same
  · exact fun member => ⟨_, member, rfl⟩

/-- Without a range, positions are compared with as many bytes. -/
theorem Pattern.accepts_fixed (interpreter : Interpreter σ) {pattern : Pattern}
    (fixed : .openRange ∉ pattern.matchers) (data : List UInt8) (scope : Scope) :
    pattern.accepts interpreter data scope =
      if data.length == pattern.size then acceptsAll interpreter scope pattern.matchers data
      else return false := by
  have all : pattern.matchers.takeWhile (fun matcher => !matcher.isRange) = pattern.matchers := by
    apply List.takeWhile_eq_self_iff.mpr
    intro matcher member
    cases matcher with
    | openRange => exact absurd member fixed
    | exact value => rfl
    | wildcard => rfl
    | deferred element => rfl
  simp only [accepts, all, List.drop_length]

section
variable {interpreter : Interpreter σ} {scope : Scope} {state : σ}

theorem Matcher.accepts_keeps {matcher : Matcher} (byte : UInt8)
    (elements : ∀ element, matcher = .deferred element →
      Keeps (element.resolve interpreter scope) state) :
    Keeps (matcher.accepts interpreter byte scope) state := by
  cases matcher with
  | exact value => exact .pure _
  | wildcard => exact .pure _
  | openRange => exact .pure _
  | deferred element => exact (elements element rfl).bind fun _ => .pure _

theorem Pattern.acceptsAll_keeps {matchers : List Matcher} (data : List UInt8)
    (elements : ∀ element, .deferred element ∈ matchers →
      Keeps (element.resolve interpreter scope) state) :
    Keeps (acceptsAll interpreter scope matchers data) state := by
  induction matchers generalizing data with
  | nil => exact .pure _
  | cons matcher matchers ih =>
    cases data with
    | nil => exact .pure _
    | cons byte data =>
      refine (Matcher.accepts_keeps byte fun element same =>
        elements element (same ▸ List.mem_cons_self)).bind fun accepted => ?_
      cases accepted with
      | false => exact .pure _
      | true => exact ih data fun element member => elements element (List.mem_cons_of_mem _ member)

/-- A check gives up at once, or it checks some of the matchers and, where these accept, some more. -/
theorem Pattern.accepts_parts (pattern : Pattern) (data : List UInt8) :
    (∀ {σ : Type} (interpreter : Interpreter σ) (scope : Scope),
      pattern.accepts interpreter data scope = return false) ∨
    ∃ before ⊆ pattern.matchers, ∃ after ⊆ pattern.matchers, ∃ front back,
      ∀ {σ : Type} (interpreter : Interpreter σ) (scope : Scope),
        pattern.accepts interpreter data scope = do
          if ← acceptsAll interpreter scope before front then
            acceptsAll interpreter scope after back
          else return false := by
  simp only [accepts]
  cases remaining : pattern.matchers.drop
      (pattern.matchers.takeWhile fun matcher => !matcher.isRange).length with
  | nil =>
    dsimp only
    split
    · exact .inr ⟨[], List.nil_subset _, _, List.Subset.refl _, [], data, fun _ _ => rfl⟩
    · exact .inl fun _ _ => rfl
  | cons range after =>
    have behind : after ⊆ pattern.matchers := fun matcher member =>
      List.mem_of_mem_drop (remaining ▸ List.mem_cons_of_mem range member)
    dsimp only
    split
    · exact .inl fun _ _ => rfl
    · exact .inr ⟨_, List.takeWhile_subset _, after, behind, _, _, fun _ _ => rfl⟩
/-- A match whose computed elements have no side effects has none. -/
theorem Pattern.accepts_keeps {pattern : Pattern} (data : List UInt8)
    (elements : ∀ element ∈ pattern.deferred, Keeps (element.resolve interpreter scope) state) :
    Keeps (pattern.accepts interpreter data scope) state := by
  have part {matchers : List Matcher} (within : matchers ⊆ pattern.matchers) (data : List UInt8) :
      Keeps (acceptsAll interpreter scope matchers data) state :=
    acceptsAll_keeps data fun element member => elements element (mem_deferred.mpr (within member))
  rcases pattern.accepts_parts data with never | ⟨before, head, after, tail, front, back, same⟩
  · rw [never]
    exact .pure _
  · rw [same]
    refine (part head front).bind fun accepted => ?_
    cases accepted with
    | false => exact .pure _
    | true => exact part tail back

end

namespace Field
variable (interpreter : Interpreter σ) (world : World σ) (field : Field)

/-- The expressions and functions of a field, carried out in a world, leave it as it is. -/
structure SideEffectFree : Prop where
  elements : ∀ element ∈ field.pattern.deferred,
    Keeps (element.resolve interpreter world.scope) world.state
  transform : ∀ raw, Keeps (field.evaluate interpreter raw) world

/-- Whether the pattern accepts bytes in a world. -/
def verdict (raw : List UInt8) : Except Fault Bool :=
  ((field.pattern.accepts interpreter raw world.scope).run world.state).1

/-- What a field stores in a world: the bytes, or what the transform makes of them. -/
def valueOf (raw : List UInt8) : Except Fault Value :=
  match field.transform with
  | none => .ok (.bytes raw)
  | some _ => ((field.evaluate interpreter raw).run world).1

theorem run_evaluate {interpreter : Interpreter σ} {world : World σ} {field : Field}
    (free : field.SideEffectFree interpreter world) (raw : List UInt8) :
    (field.evaluate interpreter raw).run world = (field.valueOf interpreter world raw, world) := by
  rw [(free.transform raw).run_eq]
  unfold valueOf
  split
  · next absent => rw [evaluate, absent]; rfl
  · rfl

end Field

namespace Plan

/-- A value can be the rest of a plan: it is the one that is given, or an expression gives the rest. -/
def RestCanBe (plan : Plan) (value : Value) : Prop :=
  match plan.rest with
  | none => False
  | some (.value given) => value = given
  | some (.expression _) => True

/-- The expressions and functions that make a record, carried out in the world of a parse, leave it
as it is. If the rest is a plain record, its class makes the copy. -/
structure SideEffectFree (interpreter : Interpreter σ) (plan : Plan) (world : World σ) : Prop where
  fields : ∀ field ∈ plan.fields, field.SideEffectFree interpreter world
  rest : ∀ e, plan.rest = some (.expression e) → Keeps (Effect.evaluate interpreter e.code) world
  target : ∀ function arguments, plan.target = .call function →
    Keeps (Effect.call interpreter function arguments) world
  copies : ∀ t parts arguments, plan.RestCanBe (.record t parts) → t.kind = .plain →
    Keeps (Effect.call interpreter (.type (.record t)) arguments) world

variable {interpreter : Interpreter σ} {world : World σ}

theorem construct_keeps {target : Target} (arguments : Value.Arguments)
    (call : ∀ function arguments, target = .call function →
      Keeps (Effect.call interpreter function arguments) world) :
    Keeps (construct interpreter target arguments) world := by
  cases target with
  | call function => exact call function arguments rfl
  | entries => exact .pure _

theorem fillFromRest_keeps {target : Target} (rest : Value) (args : List Value)
    (own : List (String × Value))
    (call : ∀ function arguments, target = .call function →
      Keeps (Effect.call interpreter function arguments) world)
    (copy : ∀ t parts arguments, rest = .record t parts → t.kind = .plain →
      Keeps (Effect.call interpreter (.type (.record t)) arguments) world) :
    Keeps (fillFromRest interpreter target rest args own) world := by
  unfold fillFromRest
  split
  · exact (Keeps.lift _).bind fun _ => construct_keeps _ call
  · split
    · next plain => exact (Keeps.lift _).bind fun _ => copy _ _ _ rfl plain
    · exact (Keeps.lift _).bind fun _ => (Keeps.lift _).bind fun _ => .pure _
    · exact .throw _
  · exact .throw _
  · exact .throw _

theorem SideEffectFree.assemble {plan : Plan} (free : plan.SideEffectFree interpreter world)
    (members : Members) : Keeps (plan.assemble interpreter members) world := by
  unfold Plan.assemble
  dsimp only
  split
  · exact construct_keeps _ free.target
  · next given =>
    refine fillFromRest_keeps _ _ _ free.target fun t parts arguments same =>
      free.copies t parts arguments ?_
    rw [RestCanBe, given]
    exact same.symm
  · next e given =>
    refine (free.rest e given).bind fun _ => fillFromRest_keeps _ _ _ free.target
      fun t parts arguments _ => free.copies t parts arguments ?_
    rw [RestCanBe, given]
    trivial

theorem matchField_keeps {field : Field} (free : field.SideEffectFree interpreter world)
    (raw : List UInt8) : Keeps (matchField interpreter field raw) world := by
  refine (Keeps.apart (Pattern.accepts_keeps raw free.elements)).bind fun accepted => ?_
  cases accepted with
  | false => exact .pure _
  | true =>
    refine Keeps.bind ?_ fun _ => .pure _
    unfold memberValue
    split
    · exact .pure _
    · exact (free.transform raw).bind fun _ => .pure _

section
variable [Reader ρ] (reader : ρ) (buffer : List UInt8)

theorem runField_world {field : Field} (free : field.SideEffectFree interpreter world) :
    ((runField interpreter field).run ⟨world, reader, buffer⟩).2.world = world := by
  rw [runField_eq]
  dsimp only
  cases Filling.fill (buffer.take field.size) reader with
  | mk filling rest =>
    cases filling with
    | failed fault => rfl
    | short received cause => rfl
    | full => exact matchField_keeps free _

/-- Whether fields are all read, or one of them ends the reading, the world is what it was. -/
theorem runFields_world (fields : List Field) (consumed : Nat)
    (free : ∀ field ∈ fields, field.SideEffectFree interpreter world) :
    ((runFields interpreter consumed fields).run ⟨world, reader, buffer⟩).2.world = world := by
  induction fields generalizing consumed reader buffer with
  | nil => rfl
  | cons field later ih =>
    obtain ⟨own, free⟩ := List.forall_mem_cons.mp free
    have kept := runField_world reader buffer own
    rw [runFields_cons]
    cases run : (runField interpreter field).run ⟨world, reader, buffer⟩ with
    | mk result after =>
      rw [run] at kept
      obtain ⟨world', reader', buffer'⟩ := after
      subst kept
      cases result with
      | error fault => rfl
      | ok answer =>
        obtain ⟨result, taken⟩ := answer
        cases result with
        | error error => rfl
        | ok members => exact ih reader' buffer' (consumed + taken) free

/-- A run of a plan without side effects ends in the world that it began in, whatever it comes to. -/
theorem SideEffectFree.run {plan : Plan} (free : plan.SideEffectFree interpreter world) :
    ((plan.run interpreter).run ⟨world, reader, buffer⟩).2.world = world := by
  have kept := runFields_world reader buffer plan.fields 0 free.fields
  rw [run_eq]
  cases read : (runFields interpreter 0 plan.fields).run ⟨world, reader, buffer⟩ with
  | mk result after =>
    rw [read] at kept
    obtain ⟨world', reader', buffer'⟩ := after
    subst kept
    cases result with
    | error fault => rfl
    | ok answer =>
      obtain ⟨result, consumed⟩ := answer
      cases result with
      | error error => rfl
      | ok members => exact free.assemble members

theorem SideEffectFree.parseStream {plan : Plan} {names : Scope} {state : σ}
    (free : plan.SideEffectFree interpreter (plan.world names state)) :
    (plan.parseStream interpreter names reader state).2 = state :=
  congrArg World.state (free.run reader plan.buffer)

end
end Plan
end ByteRecord
