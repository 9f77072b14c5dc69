import ByteRecord.Expr.Interpreter

/-! Expressions without side effects, and what they come to: constants, names, attributes, items, and
calls of predefined functions with arguments by position. -/
namespace ByteRecord.Expr

/-- An expression comes to a result without side effects. -/
def Gives (world : World Counts) (e : Expr) (result : Except Failure Value) : Prop :=
  (evaluate callValue e).run world = (Effect.ofResult result, world)

/-- Arguments by position are evaluated to values without side effects. -/
def GivesAll (world : World Counts) (arguments : List Expr) (values : List Value) : Prop :=
  ∀ found, (evaluateArguments callValue found arguments).run world =
    (.ok { found with positional := found.positional ++ values }, world)

namespace Gives
variable {world : World Counts}

theorem name (given : (world.scope.get? text).or (Value.predefined? text) = some value) :
    Gives world (.name text) (.ok value) :=
  run_evaluate_name given

theorem group (inner : Gives world e result) : Gives world (.group e) result := by
  rwa [Gives, evaluate]

theorem int (value : Nat) : Gives world (.const (.int value)) (.ok (.int value)) := by
  rw [Gives, evaluate]
  rfl

theorem str (text : String) : Gives world (.const (.str text)) (.ok (.str text)) := by
  rw [Gives, evaluate]
  rfl

theorem attributeOf (part : String) (given : Gives world object (.ok value))
    (found : value.attribute? part = some result) :
    Gives world (.attribute object part) (.ok result) := by
  rw [Gives, evaluate, run_bind, given, Effect.ofResult_ok]
  dsimp only
  rw [found]
  rfl

theorem subscript (whole : Gives world object result) (place : Gives world index (.ok i)) :
    Gives world (.subscript object index) (result.bind (Value.item · i)) := by
  rw [Gives, evaluate, run_bind, whole]
  cases result with
  | error failure => rfl
  | ok value =>
    rw [Effect.ofResult_ok]
    dsimp only
    rw [run_bind, place]
    rfl

/-- Calls of predefined functions have no side effects. -/
theorem call (given : Gives world function (.ok (.builtin builtin)))
    (arguments : GivesAll world own values) :
    Gives world (.call function own) (Value.call (.builtin builtin) ⟨values, []⟩) := by
  rw [Gives, evaluate, run_bind, given, Effect.ofResult_ok]
  dsimp only
  rw [run_bind, arguments]
  rfl

/-- Evaluation in a copy of the scope leaves the world as it is. -/
theorem run_evaluateApart {change : Scope → Scope}
    (gives : Gives ⟨change world.scope, world.state⟩ e result) :
    (Effect.evaluateApart .standard change e).run world = (Effect.ofResult result, world) := by
  have standard : Interpreter.standard.evaluateApart e (change world.scope) world.state =
      (Effect.ofResult result, world.state) := by
    change (((evaluate callValue e).run _).1, ((evaluate callValue e).run _).2.state) = _
    rw [gives]
  change ((Interpreter.standard.evaluateApart e _ world.state).1,
    World.mk world.scope (Interpreter.standard.evaluateApart e _ world.state).2) = _
  rw [standard]

end Gives

namespace GivesAll
variable {world : World Counts}

theorem nil : GivesAll world [] [] := by
  intro found
  rw [evaluateArguments, List.append_nil]
  rfl

theorem cons (first : Gives world argument (.ok value)) (later : GivesAll world rest values)
    (unstarred : ∀ inner, argument ≠ .starred inner)
    (unnamed : ∀ key inner, argument ≠ .keyword key inner)
    (unspread : ∀ inner, argument ≠ .spread inner) :
    GivesAll world (argument :: rest) (value :: values) := by
  intro found
  rw [evaluateArguments, run_bind, first, Effect.ofResult_ok]
  · dsimp only
    rw [later, List.append_assoc]
    rfl
  all_goals assumption

end GivesAll
end ByteRecord.Expr
