import ByteRecord.Effect

/-! What computations do to the scope that they see: whatever comes of them, the scope afterwards is
the one before with some names set. -/
namespace ByteRecord

/-- A scope that results from another one by setting some of the names, one after another. -/
inductive Scope.Assigned (names : List String) (scope : Scope) : Scope → Prop
  | refl : Assigned names scope scope
  | set {later : Scope} {name : String} {value : Value} (earlier : Assigned names scope later)
    (among : name ∈ names) : Assigned names scope (later.set name value)

namespace Scope.Assigned
variable {names others : List String} {first middle last : Scope}

theorem trans (earlier : Assigned names first middle) (later : Assigned names middle last) :
    Assigned names first last := by
  induction later with
  | refl => exact earlier
  | set _ among ih => exact ih.set among

theorem mono (assigned : Assigned names first last) (within : names ⊆ others) :
    Assigned others first last := by
  induction assigned with
  | refl => exact .refl
  | set _ among ih => exact ih.set (within among)

/-- Other names keep their meaning. -/
theorem get?_eq {name : String} (assigned : Assigned names first last) (other : name ∉ names) :
    last.get? name = first.get? name := by
  induction assigned with
  | refl => rfl
  | @set later changed value _ among ih =>
    have different : name ≠ changed := by
      rintro rfl
      exact other among
    rw [get?_set_of_ne later value different, ih]

theorem eq_of_nil (assigned : Assigned [] first last) : last = first := by
  cases assigned with
  | refl => rfl
  | set _ among => cases among

end Scope.Assigned

/-- A computation changes the scope in its state by setting some of the names at most. -/
def Assigns (scopeOf : s → Scope) (names : List String) (action : ExceptT ε (StateM s) α) : Prop :=
  ∀ state, Scope.Assigned names (scopeOf state) (scopeOf (action.run state).2)

namespace Assigns
variable {scopeOf : s → Scope} {names others : List String}

theorem of_kept {action : ExceptT ε (StateM s) α}
    (kept : ∀ state, scopeOf (action.run state).2 = scopeOf state) :
    Assigns scopeOf names action := by
  intro state
  rw [kept]
  exact .refl

theorem pure (value : α) : Assigns scopeOf names (Pure.pure value : ExceptT ε (StateM s) α) :=
  of_kept fun _ => rfl

theorem throw (error : ε) :
    Assigns scopeOf names (MonadExcept.throw error : ExceptT ε (StateM s) α) :=
  of_kept fun _ => rfl

theorem bind {action : ExceptT ε (StateM s) α} {next : α → ExceptT ε (StateM s) β}
    (first : Assigns scopeOf names action) (later : ∀ value, Assigns scopeOf names (next value)) :
    Assigns scopeOf names (action >>= next) := by
  intro state
  have own := first state
  rw [run_bind]
  cases ran : action.run state with
  | mk result middle =>
    rw [ran] at own
    cases result with
    | error failure => exact own
    | ok value => exact own.trans (later value middle)

theorem mono {action : ExceptT ε (StateM s) α} (assigns : Assigns scopeOf names action)
    (within : names ⊆ others) : Assigns scopeOf others action :=
  fun state => (assigns state).mono within

/-- Names that stand in front of others, or behind them, are among all of them. -/
theorem left {action : ExceptT ε (StateM s) α} (assigns : Assigns scopeOf names action) :
    Assigns scopeOf (names ++ others) action :=
  assigns.mono (List.subset_append_left names others)

theorem right {action : ExceptT ε (StateM s) α} (assigns : Assigns scopeOf others action) :
    Assigns scopeOf (names ++ others) action :=
  assigns.mono (List.subset_append_right names others)

end Assigns
end ByteRecord
