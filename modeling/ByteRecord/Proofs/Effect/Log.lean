import ByteRecord.Plan.Run
import ByteRecord.Proofs.Effect.Entries

/-! Logs of what an interpreter is asked for. An interpreter that keeps a log is an interpreter like
any other, so a plan is run with it by the very same code; it comes to the same, and the log says
which expressions were evaluated and which functions called, in which order. -/
namespace ByteRecord

/-- What an interpreter is asked for. -/
inductive Request where
  | evaluate (e : Expr)
  | call (function : Value) (arguments : Value.Arguments)

/-- A request and the answer to it. -/
structure Exchange where
  request : Request
  answer : Except Fault Value

/-- A state together with the requests that were made so far. -/
structure Logged (σ : Type) where
  state : σ
  log : List Exchange

/-- An interpreter that writes down every request and its answer. -/
def Interpreter.logged (interpreter : Interpreter σ) : Interpreter (Logged σ) where
  evaluate e scope logged :=
    let (answer, scope, state) := interpreter.evaluate e scope logged.state
    (answer, scope, ⟨state, logged.log ++ [⟨.evaluate e, answer⟩]⟩)
  call function arguments logged :=
    let (answer, state) := interpreter.call function arguments logged.state
    (answer, ⟨state, logged.log ++ [⟨.call function arguments, answer⟩]⟩)

def World.logged (world : World σ) (log : List Exchange) : World (Logged σ) :=
  ⟨world.scope, ⟨world.state, log⟩⟩

def Plan.Run.logged (run : Run σ ρ) (log : List Exchange) : Run (Logged σ) ρ :=
  ⟨run.world.logged log, run.reader, run.buffer⟩

/-- A computation with a log comes to the same as the one without, and it adds exchanges to the log
that fit the result. -/
def Logs (attach : s → List Exchange → t) (state : s) (plain : ExceptT ε (StateM s) α)
    (logged : ExceptT ε (StateM t) α) (Fits : List Exchange → Except ε α → Prop) : Prop :=
  ∃ own, Fits own (plain.run state).1 ∧
    ∀ log, logged.run (attach state log) =
      ((plain.run state).1, attach (plain.run state).2 (log ++ own))

namespace Logs
variable {attach : s → List Exchange → t} {state : s}

theorem pure {value : α} {Fits : List Exchange → Except ε α → Prop} (fits : Fits [] (.ok value)) :
    Logs attach state (Pure.pure value) (Pure.pure value) Fits :=
  Adds.pure fits

theorem throw {error : ε} {Fits : List Exchange → Except ε α → Prop} (fits : Fits [] (.error error)) :
    Logs attach state (MonadExcept.throw error) (MonadExcept.throw error) Fits :=
  Adds.throw fits

theorem lift {result : Except ε α} {Fits : List Exchange → Except ε α → Prop} (fits : Fits [] result) :
    Logs attach state (liftM result) (liftM result) Fits :=
  Adds.lift fits

theorem mono {plain : ExceptT ε (StateM s) α} {logged : ExceptT ε (StateM t) α}
    {Fits Fits' : List Exchange → Except ε α → Prop} (logs : Logs attach state plain logged Fits)
    (weaker : ∀ own result, Fits own result → Fits' own result) :
    Logs attach state plain logged Fits' :=
  Adds.mono logs weaker

theorem bind {plain : ExceptT ε (StateM s) α} {logged : ExceptT ε (StateM t) α}
    {next : α → ExceptT ε (StateM s) β} {next' : α → ExceptT ε (StateM t) β}
    {Fits : List Exchange → Except ε α → Prop} {All : List Exchange → Except ε β → Prop}
    (first : Logs attach state plain logged Fits)
    (later : ∀ value after, plain.run state = (.ok value, after) →
      Logs attach after (next value) (next' value) fun own result =>
        ∀ before, Fits before (.ok value) → All (before ++ own) result)
    (stopped : ∀ own error, Fits own (.error error) → All own (.error error)) :
    Logs attach state (plain >>= next) (logged >>= next') All :=
  Adds.bind first later stopped

/-- A result as such adds nothing to what follows on it. -/
theorem lift_bind {result : Except ε α} {next : α → ExceptT ε (StateM s) β}
    {next' : α → ExceptT ε (StateM t) β} {Fits : List Exchange → Except ε β → Prop}
    (failed : ∀ error, result = .error error → Fits [] (.error error))
    (later : ∀ value, result = .ok value → Logs attach state (next value) (next' value) Fits) :
    Logs attach state (liftM result >>= next) (liftM result >>= next') Fits := by
  cases result with
  | error error => exact .throw (failed error rfl)
  | ok value => exact later value rfl

/-- A computation that asks for nothing, with what follows on it, asks for no more than that. -/
theorem behind {plain : ExceptT ε (StateM s) α} {logged : ExceptT ε (StateM t) α}
    {next : α → ExceptT ε (StateM s) β} {next' : α → ExceptT ε (StateM t) β}
    (first : Logs attach state plain logged fun own _ => own = [])
    (later : ∀ value after, Logs attach after (next value) (next' value) fun own _ => own = []) :
    Logs attach state (plain >>= next) (logged >>= next') fun own _ => own = [] := by
  apply bind first
  · intro value after _
    apply (later value after).mono
    rintro own result rfl before rfl
    rfl
  · intro own error none
    exact none

theorem adapt {plain : ExceptT ε (StateM s) α} {logged : ExceptT ε (StateM t) α} {change : ε → ε'}
    {Fits : List Exchange → Except ε α → Prop} {Fits' : List Exchange → Except ε' α → Prop}
    (logs : Logs attach state plain logged Fits)
    (weaker : ∀ own result, Fits own result → Fits' own (result.mapError change)) :
    Logs attach state (ExceptT.adapt change plain) (ExceptT.adapt change logged) Fits' :=
  Adds.adapt logs weaker

theorem apart {action : Scope → Action σ α} {action' : Scope → Action (Logged σ) α}
    {world : World σ} {Fits : List Exchange → Except Fault α → Prop}
    (logs : Logs Logged.mk world.state (action world.scope) (action' world.scope) Fits) :
    Logs World.logged world (Effect.apart action) (Effect.apart action') Fits :=
  Adds.apart logs

theorem ofEffect {effect : Effect σ α} {effect' : Effect (Logged σ) α} {start : Plan.Run σ ρ}
    {Fits : List Exchange → Except Fault α → Prop}
    (logs : Logs World.logged start.world effect effect' Fits) :
    Logs Plan.Run.logged start (Plan.Running.ofEffect effect) (Plan.Running.ofEffect effect')
      Fits :=
  Adds.ofEffect logs

/-- The one exchange of a request. -/
def Once (request : Request) (own : List Exchange) (result : Except Fault Value) : Prop :=
  own = [⟨request, result⟩]

theorem evaluate (interpreter : Interpreter σ) (e : Expr) (world : World σ) :
    Logs World.logged world (Effect.evaluate interpreter e) (Effect.evaluate interpreter.logged e)
      (Once (.evaluate e)) :=
  ⟨[_], rfl, fun _ => rfl⟩

theorem evaluateApart (interpreter : Interpreter σ) (change : Scope → Scope) (e : Expr)
    (world : World σ) :
    Logs World.logged world (Effect.evaluateApart interpreter change e)
      (Effect.evaluateApart interpreter.logged change e) (Once (.evaluate e)) :=
  ⟨[_], rfl, fun _ => rfl⟩

theorem call (interpreter : Interpreter σ) (function : Value) (arguments : Value.Arguments)
    (world : World σ) :
    Logs World.logged world (Effect.call interpreter function arguments)
      (Effect.call interpreter.logged function arguments) (Once (.call function arguments)) :=
  ⟨[_], rfl, fun _ => rfl⟩

end Logs
end ByteRecord
