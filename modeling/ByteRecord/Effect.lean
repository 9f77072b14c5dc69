import ByteRecord.Fault.Basic
import ByteRecord.Value.Scope

/-! Computations with effects: on the state of an interpreter alone, or on a scope as well. A
computation that fails keeps the effects it had. -/
namespace ByteRecord

/-- A computation that can fail and that has effects on the state of an interpreter. -/
abbrev Action (σ α : Type) := ExceptT Fault (StateM σ) α

structure World (σ : Type) where
  scope : Scope
  state : σ

/-- A computation that can fail and that may also change the scope. -/
abbrev Effect (σ α : Type) := ExceptT Fault (StateM (World σ)) α

/-- What follows on a computation runs in the state that it leaves, unless it failed. -/
theorem run_bind (first : ExceptT ε (StateM s) α) (next : α → ExceptT ε (StateM s) β) (state : s) :
    (first >>= next).run state = match first.run state with
      | (.ok value, state) => (next value).run state
      | (.error error, state) => (.error error, state) := by
  rw [ExceptT.run_bind]
  change (match first.run state with
    | (result, state) => (match result with
      | .ok value => (next value).run
      | .error error => pure (.error error)) state) = _
  cases first.run state with
  | mk result state => cases result <;> rfl

theorem run_bind_ok_iff {first : ExceptT ε (StateM s) α} {next : α → ExceptT ε (StateM s) β}
    {state later : s} {result : β} :
    (first >>= next).run state = (.ok result, later) ↔
      ∃ value middle, first.run state = (.ok value, middle) ∧
        (next value).run middle = (.ok result, later) := by
  rw [run_bind]
  cases first.run state with
  | mk answer middle =>
    cases answer with
    | error error =>
      constructor
      · intro same
        cases same
      · rintro ⟨value, other, same, -⟩
        cases same
    | ok value =>
      constructor
      · exact fun rest => ⟨value, middle, rfl, rest⟩
      · rintro ⟨other, place, same, rest⟩
        cases same
        exact rest

theorem run_bind_error_iff {first : ExceptT ε (StateM s) α} {next : α → ExceptT ε (StateM s) β}
    {state : s} {error : ε} :
    ((first >>= next).run state).1 = .error error ↔
      (first.run state).1 = .error error ∨ ∃ value middle, first.run state = (.ok value, middle) ∧
        ((next value).run middle).1 = .error error := by
  rw [run_bind]
  cases first.run state with
  | mk answer middle =>
    cases answer with
    | error other =>
      constructor
      · intro failed
        cases failed
        exact .inl rfl
      · rintro (failed | ⟨value, other, same, -⟩)
        · cases failed
          rfl
        · cases same
    | ok value =>
      constructor
      · exact fun rest => .inr ⟨value, middle, rfl, rest⟩
      · rintro (failed | ⟨other, place, same, rest⟩)
        · cases failed
        · cases same
          exact rest

/-- A result as such leaves the state as it is. -/
theorem run_lift (result : Except ε α) (state : s) :
    (liftM result : ExceptT ε (StateM s) α).run state = (result, state) := by
  cases result <;> rfl

theorem run_lift_ok_iff {result : Except ε α} {state later : s} {value : α} :
    (liftM result : ExceptT ε (StateM s) α).run state = (.ok value, later) ↔
      result = .ok value ∧ later = state := by
  rw [run_lift]
  constructor
  · intro same
    obtain ⟨own, rfl⟩ := Prod.mk.inj same
    exact ⟨own, rfl⟩
  · rintro ⟨rfl, rfl⟩
    rfl

theorem run_adapt (change : ε → ε') (action : ExceptT ε (StateM s) α) (state : s) :
    (ExceptT.adapt change action).run state =
      ((action.run state).1.mapError change, (action.run state).2) := rfl

namespace Effect

/-- A computation that sees the scope but cannot change it. -/
def apart (action : Scope → Action σ α) : Effect σ α := ExceptT.mk fun world =>
  let (result, state) := (action world.scope).run world.state
  (result, { world with state })

def ofResult (result : Except Failure α) : Except Fault α :=
  result.mapError .failure

theorem ofResult_ok (value : α) : ofResult (.ok value) = .ok value := rfl

end Effect
end ByteRecord
