import ByteRecord.Expr.Compile
import ByteRecord.Expr.Interpreter
import ByteRecord.Proofs.Effect.Assignments

/-! An expression changes the scope by its assignments in passing and in no other way, whether its
evaluation succeeds or fails. -/
namespace ByteRecord

namespace Expr

mutual

/-- The names that an expression assigns in passing. What stands in the body of a function is no
concern of the scope around it. -/
def assigned : Expr → List String
  | .const _ | .name _ => []
  | .group e | .starred e | .spread e | .unary _ e | .attribute e _ | .keyword _ e | .await e
  | .yield e | .yieldFrom e => assigned e
  | .formatted _ es | .tuple es | .list es | .set es | .dict es | .all es | .any es => allAssigned es
  | .entry a b | .binary _ a b | .subscript a b => assigned a ++ assigned b
  | .compare a _ es | .call a es | .comprehension _ a es => assigned a ++ allAssigned es
  | .conditional a b c | .slice a b c => assigned a ++ (assigned b ++ assigned c)
  | .assign n e => n :: assigned e
  | .lambda _ defaults _ => allAssigned defaults
  | .clause _ target iterable conditions =>
    assigned target ++ (assigned iterable ++ allAssigned conditions)

def allAssigned : List Expr → List String
  | [] => []
  | e :: rest => assigned e ++ allAssigned rest

end

section
variable {names : List String}

theorem lift_assigns (result : Except Failure α) :
    Assigns World.scope names (liftM result : Effect σ α) :=
  .of_kept fun _ => rfl

theorem get_assigns : Assigns World.scope names (MonadState.get : Effect σ (World σ)) :=
  .of_kept fun _ => rfl

theorem apart_assigns (action : Scope → Action σ α) :
    Assigns World.scope names (Effect.apart action) :=
  .of_kept fun _ => rfl

theorem set_assigns {name : String} (among : name ∈ names) (value : Value) :
    Assigns World.scope names (modify fun world =>
      { world with scope := world.scope.set name value } : Effect σ PUnit) :=
  fun _ => .set .refl among

end

section
variable (call : Value → Value.Arguments → Action σ Value)

mutual

theorem evaluate_assigns (e : Expr) : Assigns World.scope e.assigned (evaluate call e) := by
  match e with
  | .const value =>
    rw [evaluate]
    exact lift_assigns _
  | .name n =>
    rw [evaluate]
    refine get_assigns.bind fun machine => ?_
    split
    · exact .pure _
    · exact .throw _
  | .group inner =>
    rw [evaluate, assigned]
    exact evaluate_assigns inner
  | .tuple items =>
    rw [evaluate, assigned]
    exact (evaluateItems_assigns items).bind fun _ => .pure _
  | .list items =>
    rw [evaluate, assigned]
    exact (evaluateItems_assigns items).bind fun _ => .pure _
  | .set items =>
    rw [evaluate, assigned]
    exact (evaluateItems_assigns items).bind fun _ => (lift_assigns _).bind fun _ => .pure _
  | .dict items =>
    rw [evaluate, assigned]
    exact (evaluateEntries_assigns items).bind fun _ => (lift_assigns _).bind fun _ => .pure _
  | .unary op operand =>
    rw [evaluate, assigned]
    exact (evaluate_assigns operand).bind fun _ => lift_assigns _
  | .binary op left right =>
    rw [evaluate, assigned]
    refine (evaluate_assigns left).left.bind fun a => ?_
    exact (evaluate_assigns right).right.bind fun _ => lift_assigns _
  | .compare first ops operands =>
    rw [evaluate, assigned]
    refine (evaluate_assigns first).left.bind fun value => ?_
    exact (evaluateChain_assigns first value ops operands).right
  | .all operands =>
    rw [evaluate, assigned]
    exact evaluateAll_assigns operands
  | .any operands =>
    rw [evaluate, assigned]
    exact evaluateAny_assigns operands
  | .conditional test positive negative =>
    rw [evaluate, assigned]
    refine (evaluate_assigns test).left.bind fun value => ?_
    split
    · exact (evaluate_assigns positive).left.right
    · exact (evaluate_assigns negative).right.right
  | .attribute object part =>
    rw [evaluate, assigned]
    refine (evaluate_assigns object).bind fun value => ?_
    split
    · exact .pure _
    · exact .throw _
  | .subscript object index =>
    rw [evaluate, assigned]
    refine (evaluate_assigns object).left.bind fun a => ?_
    exact (evaluate_assigns index).right.bind fun _ => lift_assigns _
  | .slice start stop step =>
    rw [evaluate, assigned]
    refine (evaluate_assigns start).left.bind fun a => ?_
    refine (evaluate_assigns stop).left.right.bind fun b => ?_
    exact (evaluate_assigns step).right.right.bind fun _ => .pure _
  | .call function arguments =>
    rw [evaluate, assigned]
    refine (evaluate_assigns function).left.bind fun f => ?_
    refine (evaluateArguments_assigns ⟨[], []⟩ arguments).right.bind fun values => ?_
    exact apart_assigns _
  | .assign n value =>
    rw [evaluate, assigned]
    refine ((evaluate_assigns value).mono (List.subset_cons_self _ _)).bind fun result => ?_
    exact (set_assigns List.mem_cons_self result).bind fun _ => .pure _
  | .lambda parameters defaults body =>
    rw [evaluate, assigned]
    exact (evaluateItems_assigns defaults).bind fun _ => .pure _
  | .formatted text parts =>
    rw [evaluate, assigned]
    refine (evaluateItems_assigns parts).bind fun values => ?_
    split
    · exact .pure _
    · exact .throw _
  | .entry _ _ | .starred _ | .spread _ | .keyword _ _ | .comprehension _ _ _
  | .clause _ _ _ _ | .await _ | .yield _ | .yieldFrom _ =>
    rw [evaluate]
    exact .throw _
termination_by sizeOf e

theorem evaluateItems_assigns (items : List Expr) :
    Assigns World.scope (allAssigned items) (evaluateItems call items) := by
  unfold evaluateItems
  split
  · exact .pure _
  · next inner rest =>
    rw [allAssigned, assigned]
    refine (evaluate_assigns inner).left.bind fun value => (lift_assigns _).bind fun own => ?_
    exact (evaluateItems_assigns rest).right.bind fun _ => .pure _
  · next item rest _ =>
    rw [allAssigned]
    refine (evaluate_assigns item).left.bind fun value => ?_
    exact (evaluateItems_assigns rest).right.bind fun _ => .pure _
termination_by sizeOf items

theorem evaluateEntries_assigns (entries : List Expr) :
    Assigns World.scope (allAssigned entries) (evaluateEntries call entries) := by
  unfold evaluateEntries
  split
  · exact .pure _
  · next key value rest =>
    rw [allAssigned, assigned]
    refine (evaluate_assigns key).left.left.bind fun k => ?_
    refine (evaluate_assigns value).right.left.bind fun v => ?_
    exact (evaluateEntries_assigns rest).right.bind fun _ => .pure _
  · next inner rest =>
    rw [allAssigned, assigned]
    refine (evaluate_assigns inner).left.bind fun value => (lift_assigns _).bind fun own => ?_
    exact (evaluateEntries_assigns rest).right.bind fun _ => .pure _
  · exact .throw _
termination_by sizeOf entries

theorem evaluateChain_assigns (first : Expr) (left : Value) (ops : List Comparison)
    (operands : List Expr) :
    Assigns World.scope (allAssigned operands) (evaluateChain call first left ops operands) := by
  unfold evaluateChain
  split
  · next op operand =>
    rw [allAssigned]
    exact (evaluate_assigns operand).left.bind fun value => (lift_assigns _).bind fun _ => .pure _
  · next op ops operand rest _ =>
    rw [allAssigned]
    refine (evaluate_assigns operand).left.bind fun right => (lift_assigns _).bind fun answer => ?_
    split
    · exact (evaluateChain_assigns operand right ops rest).right
    · exact .pure _
  · exact .pure _
termination_by sizeOf operands

theorem evaluateAll_assigns (operands : List Expr) :
    Assigns World.scope (allAssigned operands) (evaluateAll call operands) := by
  match operands with
  | [] =>
    rw [evaluateAll]
    exact .pure _
  | [last] =>
    rw [evaluateAll, allAssigned]
    exact (evaluate_assigns last).left
  | operand :: other :: rest =>
    rw [evaluateAll, allAssigned]
    · refine (evaluate_assigns operand).left.bind fun value => ?_
      split
      · exact (evaluateAll_assigns (other :: rest)).right
      · exact .pure _
    · exact nofun
termination_by sizeOf operands

theorem evaluateAny_assigns (operands : List Expr) :
    Assigns World.scope (allAssigned operands) (evaluateAny call operands) := by
  match operands with
  | [] =>
    rw [evaluateAny]
    exact .pure _
  | [last] =>
    rw [evaluateAny, allAssigned]
    exact (evaluate_assigns last).left
  | operand :: other :: rest =>
    rw [evaluateAny, allAssigned]
    · refine (evaluate_assigns operand).left.bind fun value => ?_
      split
      · exact .pure _
      · exact (evaluateAny_assigns (other :: rest)).right
    · exact nofun
termination_by sizeOf operands

theorem evaluateArguments_assigns (found : Value.Arguments) (arguments : List Expr) :
    Assigns World.scope (allAssigned arguments) (evaluateArguments call found arguments) := by
  unfold evaluateArguments
  split
  · exact .pure _
  · next inner rest =>
    rw [allAssigned, assigned]
    refine (evaluate_assigns inner).left.bind fun value => (lift_assigns _).bind fun own => ?_
    exact (evaluateArguments_assigns _ rest).right
  · next key value rest =>
    rw [allAssigned, assigned]
    refine (evaluate_assigns value).left.bind fun v => (lift_assigns _).bind fun more => ?_
    exact (evaluateArguments_assigns more rest).right
  · next inner rest =>
    rw [allAssigned, assigned]
    refine (evaluate_assigns inner).left.bind fun value => (lift_assigns _).bind fun entries => ?_
    refine (lift_assigns _).bind fun given => (lift_assigns _).bind fun more => ?_
    exact (evaluateArguments_assigns more rest).right
  · next argument rest _ _ _ =>
    rw [allAssigned]
    refine (evaluate_assigns argument).left.bind fun value => ?_
    exact (evaluateArguments_assigns _ rest).right
termination_by sizeOf arguments

end

end

end Expr

/-- Evaluation sets in the scope what the expression assigns, and nothing else. -/
def Interpreter.AssignsOnly (interpreter : Interpreter σ) : Prop :=
  ∀ e scope state, Scope.Assigned e.assigned scope (interpreter.evaluate e scope state).2.1

/-- However calls are carried out, the rules of evaluation keep to that. -/
theorem Interpreter.ofCalls_assignsOnly (call : Value → Value.Arguments → Action σ Value) :
    (ofCalls call).AssignsOnly :=
  fun e scope state => e.evaluate_assigns call ⟨scope, state⟩

-- an expression embedded in a text is one like any other
example : (Expr.ofText? "f'\x7b(x := 1)\x7d'".toList).map Expr.assigned = some ["x"] := by
  decide +kernel

end ByteRecord
