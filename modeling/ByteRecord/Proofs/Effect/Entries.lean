import ByteRecord.Plan.Run

/-! Computations that keep a list of entries besides their state. Such a computation comes to the
same as the one that keeps none, and what it adds to the list is put together from what its parts
add. -/
namespace ByteRecord

/-- A computation with entries comes to the same as the one without, and it adds entries that fit the
result. -/
def Adds {entry : Type} (attach : s → List entry → t) (state : s) (plain : ExceptT ε (StateM s) α)
    (kept : ExceptT ε (StateM t) α) (Fits : List entry → Except ε α → Prop) : Prop :=
  ∃ own, Fits own (plain.run state).1 ∧
    ∀ before, kept.run (attach state before) =
      ((plain.run state).1, attach (plain.run state).2 (before ++ own))

namespace Adds
variable {entry : Type} {attach : s → List entry → t} {state : s}

theorem pure {value : α} {Fits : List entry → Except ε α → Prop} (fits : Fits [] (.ok value)) :
    Adds attach state (Pure.pure value) (Pure.pure value) Fits := by
  refine ⟨[], fits, fun before => ?_⟩
  rw [List.append_nil]
  rfl

theorem throw {error : ε} {Fits : List entry → Except ε α → Prop} (fits : Fits [] (.error error)) :
    Adds attach state (MonadExcept.throw error) (MonadExcept.throw error) Fits := by
  refine ⟨[], fits, fun before => ?_⟩
  rw [List.append_nil]
  rfl

theorem lift {result : Except ε α} {Fits : List entry → Except ε α → Prop} (fits : Fits [] result) :
    Adds attach state (liftM result) (liftM result) Fits := by
  refine ⟨[], ?_, fun before => ?_⟩
  · rwa [run_lift]
  · rw [run_lift, run_lift, List.append_nil]

theorem mono {plain : ExceptT ε (StateM s) α} {kept : ExceptT ε (StateM t) α}
    {Fits Fits' : List entry → Except ε α → Prop} (adds : Adds attach state plain kept Fits)
    (weaker : ∀ own result, Fits own result → Fits' own result) :
    Adds attach state plain kept Fits' := by
  obtain ⟨own, fits, run⟩ := adds
  exact ⟨own, weaker _ _ fits, run⟩

/-- The entries of a computation and of what follows on it stand one behind the other. -/
theorem bind {plain : ExceptT ε (StateM s) α} {kept : ExceptT ε (StateM t) α}
    {next : α → ExceptT ε (StateM s) β} {next' : α → ExceptT ε (StateM t) β}
    {Fits : List entry → Except ε α → Prop} {All : List entry → Except ε β → Prop}
    (first : Adds attach state plain kept Fits)
    (later : ∀ value after, plain.run state = (.ok value, after) →
      Adds attach after (next value) (next' value) fun own result =>
        ∀ before, Fits before (.ok value) → All (before ++ own) result)
    (stopped : ∀ own error, Fits own (.error error) → All own (.error error)) :
    Adds attach state (plain >>= next) (kept >>= next') All := by
  obtain ⟨own, fits, run⟩ := first
  cases ran : plain.run state with
  | mk result after =>
    rw [ran] at fits run
    cases result with
    | error error =>
      have whole : (plain >>= next).run state = (.error error, after) := by rw [run_bind, ran]
      refine ⟨own, ?_, fun before => ?_⟩
      · rw [whole]
        exact stopped own error fits
      · rw [run_bind, run before, whole]
    | ok value =>
      obtain ⟨more, further, run'⟩ := later value after ran
      have whole : (plain >>= next).run state = (next value).run after := by rw [run_bind, ran]
      refine ⟨own ++ more, ?_, fun before => ?_⟩
      · rw [whole]
        exact further own fits
      · rw [run_bind, run before, whole, ← List.append_assoc]
        exact run' (before ++ own)

theorem adapt {plain : ExceptT ε (StateM s) α} {kept : ExceptT ε (StateM t) α} {change : ε → ε'}
    {Fits : List entry → Except ε α → Prop} {Fits' : List entry → Except ε' α → Prop}
    (adds : Adds attach state plain kept Fits)
    (weaker : ∀ own result, Fits own result → Fits' own (result.mapError change)) :
    Adds attach state (ExceptT.adapt change plain) (ExceptT.adapt change kept) Fits' := by
  obtain ⟨own, fits, run⟩ := adds
  refine ⟨own, ?_, fun before => ?_⟩
  · rw [run_adapt]
    exact weaker _ _ fits
  · rw [run_adapt, run_adapt, run before]

/-- A computation that cannot change the scope adds what it adds on the state alone. -/
theorem apart {attach : σ → List entry → τ} {action : Scope → Action σ α}
    {action' : Scope → Action τ α} {world : World σ} {Fits : List entry → Except Fault α → Prop}
    (adds : Adds attach world.state (action world.scope) (action' world.scope) Fits) :
    Adds (fun world own => ⟨world.scope, attach world.state own⟩) world (Effect.apart action)
      (Effect.apart action') Fits := by
  obtain ⟨own, fits, run⟩ := adds
  refine ⟨own, fits, fun before => ?_⟩
  simp only [Effect.apart, ExceptT.run_mk, run before]
  rfl

theorem ofEffect {attach : World σ → List entry → World τ} {effect : Effect σ α}
    {effect' : Effect τ α} {start : Plan.Run σ ρ} {Fits : List entry → Except Fault α → Prop}
    (adds : Adds attach start.world effect effect' Fits) :
    Adds (fun run own => ⟨attach run.world own, run.reader, run.buffer⟩) start
      (Plan.Running.ofEffect effect) (Plan.Running.ofEffect effect') Fits := by
  obtain ⟨own, fits, run⟩ := adds
  refine ⟨own, fits, fun before => ?_⟩
  simp only [Plan.Running.ofEffect, ExceptT.run_mk, run before]
  rfl

end Adds
end ByteRecord
