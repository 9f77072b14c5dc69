import ByteRecord.Plan.Run
import ByteRecord.Proofs.Effect.Entries

/-! What expressions see. An interpreter that writes down every expression with the scope in which it
is evaluated is an interpreter like any other, so a plan is run with it by the very same code; it
comes to the same, and its entries say what was evaluated where. -/
namespace ByteRecord

/-- An expression and the scope in which it is evaluated. -/
structure Sight where
  code : Expr
  scope : Scope

/-- A state together with what was evaluated so far. -/
structure Watched (σ : Type) where
  state : σ
  sights : List Sight

/-- An interpreter that writes down what it evaluates; functions see no scope. -/
def Interpreter.watched (interpreter : Interpreter σ) : Interpreter (Watched σ) where
  evaluate e scope watched :=
    let (answer, later, state) := interpreter.evaluate e scope watched.state
    (answer, later, ⟨state, watched.sights ++ [⟨e, scope⟩]⟩)
  call function arguments watched :=
    let (answer, state) := interpreter.call function arguments watched.state
    (answer, { watched with state })

def World.watched (world : World σ) (sights : List Sight) : World (Watched σ) :=
  ⟨world.scope, ⟨world.state, sights⟩⟩

def Plan.Run.watched (run : Run σ ρ) (sights : List Sight) : Run (Watched σ) ρ :=
  ⟨run.world.watched sights, run.reader, run.buffer⟩

/-- A computation that is watched comes to the same, and all that it evaluates is allowed. -/
def Shows (attach : s → List Sight → t) (state : s) (plain : ExceptT ε (StateM s) α)
    (watched : ExceptT ε (StateM t) α) (Allowed : Sight → Prop) : Prop :=
  Adds attach state plain watched fun own _ => ∀ sight ∈ own, Allowed sight

namespace Shows
variable {attach : s → List Sight → t} {state : s} {Allowed Allowed' : Sight → Prop}

theorem pure (value : α) :
    Shows attach state (Pure.pure value : ExceptT ε (StateM s) α) (Pure.pure value) Allowed :=
  Adds.pure (List.forall_mem_nil _)

theorem throw (error : ε) :
    Shows attach state (MonadExcept.throw error : ExceptT ε (StateM s) α)
      (MonadExcept.throw error) Allowed :=
  Adds.throw (List.forall_mem_nil _)

theorem lift (result : Except ε α) :
    Shows attach state (liftM result : ExceptT ε (StateM s) α) (liftM result) Allowed :=
  Adds.lift (List.forall_mem_nil _)

theorem silent {plain : ExceptT ε (StateM s) α} {watched : ExceptT ε (StateM t) α}
    (same : ∀ before, watched.run (attach state before) =
      ((plain.run state).1, attach (plain.run state).2 before)) :
    Shows attach state plain watched Allowed := by
  refine ⟨[], List.forall_mem_nil _, fun before => ?_⟩
  rw [List.append_nil, same]

theorem mono {plain : ExceptT ε (StateM s) α} {watched : ExceptT ε (StateM t) α}
    (shows : Shows attach state plain watched Allowed)
    (weaker : ∀ sight, Allowed sight → Allowed' sight) :
    Shows attach state plain watched Allowed' :=
  Adds.mono shows fun _ _ allowed sight present => weaker sight (allowed sight present)

theorem bind {plain : ExceptT ε (StateM s) α} {watched : ExceptT ε (StateM t) α}
    {next : α → ExceptT ε (StateM s) β} {next' : α → ExceptT ε (StateM t) β}
    (first : Shows attach state plain watched Allowed)
    (later : ∀ value after, plain.run state = (.ok value, after) →
      Shows attach after (next value) (next' value) Allowed) :
    Shows attach state (plain >>= next) (watched >>= next') Allowed := by
  apply Adds.bind first
  · intro value after ran
    apply Adds.mono (later value after ran)
    intro own _ allowed before earlier
    exact List.forall_mem_append.mpr ⟨earlier, allowed⟩
  · intro own error allowed
    exact allowed

theorem apart {action : Scope → Action σ α} {action' : Scope → Action (Watched σ) α}
    {world : World σ}
    (shows : Shows Watched.mk world.state (action world.scope) (action' world.scope) Allowed) :
    Shows World.watched world (Effect.apart action) (Effect.apart action') Allowed :=
  Adds.apart shows

theorem ofEffect {effect : Effect σ α} {effect' : Effect (Watched σ) α} {start : Plan.Run σ ρ}
    (shows : Shows World.watched start.world effect effect' Allowed) :
    Shows Plan.Run.watched start (Plan.Running.ofEffect effect) (Plan.Running.ofEffect effect')
      Allowed :=
  Adds.ofEffect shows

section
variable (interpreter : Interpreter σ) (e : Expr) {world : World σ}

theorem evaluate (allowed : Allowed ⟨e, world.scope⟩) :
    Shows World.watched world (Effect.evaluate interpreter e)
      (Effect.evaluate interpreter.watched e) Allowed :=
  ⟨[_], List.forall_mem_singleton.mpr allowed, fun _ => rfl⟩

theorem evaluateApart (change : Scope → Scope) (allowed : Allowed ⟨e, change world.scope⟩) :
    Shows World.watched world (Effect.evaluateApart interpreter change e)
      (Effect.evaluateApart interpreter.watched change e) Allowed :=
  ⟨[_], List.forall_mem_singleton.mpr allowed, fun _ => rfl⟩

theorem call (function : Value) (arguments : Value.Arguments) :
    Shows World.watched world (Effect.call interpreter function arguments)
      (Effect.call interpreter.watched function arguments) Allowed :=
  .silent fun _ => rfl

end
end Shows
end ByteRecord
