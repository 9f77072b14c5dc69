import ByteRecord.Effect
import ByteRecord.Value.Call
import ByteRecord.Value.Vocabulary

/-! Evaluation of expressions. Operands are evaluated from left to right; names are looked up in the
scope and then among the predefined ones; an assignment in passing changes the scope, also when the
evaluation fails later on. How calls are carried out is a parameter. Of a formatted text
only the embedded expressions are evaluated, of a comprehension nothing. -/
namespace ByteRecord.Expr

/-- How often each counter was called. -/
abbrev Counts := Nat → Nat

instance : MonadLift (Except Failure) (ExceptT Fault (StateM s)) where
  monadLift result := ExceptT.mk (pure (Effect.ofResult result))

/-- Counts a call and answers how many there were with it. -/
def countCall (id : Nat) (counts : Counts) : Nat × Counts :=
  (counts id + 1, fun other => if other == id then counts id + 1 else counts other)

/-- Calls a value; only a counter has an effect. -/
def callValue (function : Value) (arguments : Value.Arguments) : Action Counts Value :=
  match function with
  | .counter id =>
    if arguments.positional.isEmpty && arguments.named.isEmpty then
      ExceptT.mk fun counts =>
        let (count, counts) := countCall id counts
        (.ok (.int count), counts)
    else throw (.failure .type)
  | function => Value.call function arguments

private def constantValue : Constant → Except Failure Value
  | .none => .ok .none
  | .bool value => .ok (.bool value)
  | .ellipsis => .ok .ellipsis
  | .int value => .ok (.int value)
  | .float value => .ok (.float value)
  | .imaginary _ => .error .unsupported
  | .str text => .ok (.str text)
  | .bytes data => .ok (.bytes data)

private def valueOfName (name : String) : Effect σ Value := do
  match (← get).scope.get? name |>.or (Value.predefined? name) with
  | some value => return value
  | Option.none => throw (.failure (.unbound name))

/-- Whether two values, each computed on its own, are one and the same. Small numbers and texts or
byte strings of at most one character exist only once; containers that can change never do. -/
private def isIdentical (a b : Value) : Bool :=
  match a, b with
  | .none, .none | .ellipsis, .ellipsis => true
  | .bool a, .bool b => a == b
  | .int a, .int b => a == b && -5 ≤ a && a ≤ 256
  | .str a, .str b => a == b && a.length ≤ 1 && a.toList.all fun c => c.toNat < 0x100
  | .bytes a, .bytes b => a == b && a.length ≤ 1
  | .tuple [], .tuple [] => true
  | .type a, .type b => a == b
  | .module a, .module b => a == b
  | .builtin a, .builtin b => a == b
  | .counter a, .counter b => a == b
  | _, _ => false

/-- Whether two operands side by side stand for one value: the same name twice, or equal
constants. -/
private def isSameOperand (a b : Expr) : Bool :=
  match a.ungroup, b.ungroup with
  | .name a, .name b => a == b
  | .const (.int a), .const (.int b) => a == b
  | .const (.float a), .const (.float b) => a.toBits == b.toBits
  | .const (.str a), .const (.str b) => a == b
  | .const (.bytes a), .const (.bytes b) => a == b
  | _, _ => false

private def inOrder (accepts : Ordering → Bool) (a b : Value) : Except Failure Bool :=
  match Value.order? a b with
  | some (some ordering) => .ok (accepts ordering)
  | some Option.none => .ok false
  | Option.none => .error .type

/-- A comparison of two values; `isShared` tells that both come from one place. -/
private def holds (op : Comparison) (isShared : Bool) (a b : Value) : Except Failure Bool :=
  match op with
  | .eq => .ok (Value.same a b)
  | .ne => .ok !(Value.same a b)
  | .lt => inOrder (· == .lt) a b
  | .le => inOrder (· != .gt) a b
  | .gt => inOrder (· == .gt) a b
  | .ge => inOrder (· != .lt) a b
  | .isSame => .ok (isShared || isIdentical a b)
  | .isNotSame => .ok !(isShared || isIdentical a b)
  | .isIn => Value.occursIn a b
  | .isNotIn => do return !(← Value.occursIn a b)

private def spreadEntries : Value → Except Failure (List (Value × Value))
  | .dict entries => .ok entries
  | _ => .error .type

private def hashable (items : List Value) : Except Failure (List Value) :=
  if items.all Value.isHashable then .ok items else .error .type

/-- Arguments by name from a spread mapping, whose keys must be texts. -/
private def spreadNames (entries : List (Value × Value)) :
    Except Failure (List (String × Value)) :=
  entries.mapM fun entry => match entry with
    | (.str key, value) => .ok (key, value)
    | _ => .error .type

/-- Adds arguments by name, none of which may repeat. -/
private def addNamed (arguments : Value.Arguments) (named : List (String × Value)) :
    Except Failure Value.Arguments :=
  if named.any fun (key, _) => arguments.named.any (·.1 == key) then .error .type
  else .ok { arguments with named := arguments.named ++ named }

section
variable (call : Value → Value.Arguments → Action σ Value)

mutual

def evaluate : Expr → Effect σ Value
  | .const value => constantValue value
  | .name n => valueOfName n
  | .group inner => evaluate inner
  | .formatted text parts => do
    let values ← evaluateItems parts
    if values.isEmpty then return .str text else throw (.failure .unsupported)
  | .tuple items => do return .tuple (← evaluateItems items)
  | .list items => do return .list (← evaluateItems items)
  | .set items => do
    let values ← evaluateItems items
    return .set (Value.distinct (← hashable values))
  | .dict items => do
    let entries ← evaluateEntries items
    let _ ← hashable (entries.map (·.1))
    return .dict (Value.ofEntries entries)
  | .entry _ _ => throw (.failure .unsupported)
  | .starred _ => throw (.failure .unsupported)
  | .spread _ => throw (.failure .unsupported)
  | .unary op operand => do Value.operateUnary op (← evaluate operand)
  | .binary op left right => do
    let a ← evaluate left
    let b ← evaluate right
    Value.operate op a b
  | .compare first ops operands => do evaluateChain first (← evaluate first) ops operands
  | .all operands => evaluateAll operands
  | .any operands => evaluateAny operands
  | .conditional test positive negative => do
    if (← evaluate test).truth then evaluate positive else evaluate negative
  | .attribute object part => do
    match (← evaluate object).attribute? part with
    | some value => return value
    | Option.none => throw (.failure .attribute)
  | .subscript object index => do
    let a ← evaluate object
    let i ← evaluate index
    Value.item a i
  | .slice start stop step => do
    let a ← evaluate start
    let b ← evaluate stop
    let c ← evaluate step
    return .slice a b c
  | .call function arguments => do
    let f ← evaluate function
    let given ← evaluateArguments ⟨[], []⟩ arguments
    Effect.apart fun _ => call f given
  | .keyword _ _ => throw (.failure .unsupported)
  | .assign n value => do
    let result ← evaluate value
    modify fun world => { world with scope := world.scope.set n result }
    return result
  | .lambda _ defaults _ => do
    let _ ← evaluateItems defaults
    return .lambda
  | .comprehension _ _ _ => throw (.failure .unsupported)
  | .clause _ _ _ _ => throw (.failure .unsupported)
  | .await _ => throw (.failure .unsupported)
  | .yield _ => throw (.failure .unsupported)
  | .yieldFrom _ => throw (.failure .unsupported)

/-- The items of a display; a starred one stands for its own items. -/
def evaluateItems : List Expr → Effect σ (List Value)
  | [] => return []
  | .starred inner :: rest => do
    let items ← Value.items (← evaluate inner)
    return items ++ (← evaluateItems rest)
  | item :: rest => do
    let value ← evaluate item
    return value :: (← evaluateItems rest)

def evaluateEntries : List Expr → Effect σ (List (Value × Value))
  | [] => return []
  | .entry key value :: rest => do
    let k ← evaluate key
    let v ← evaluate value
    return (k, v) :: (← evaluateEntries rest)
  | .spread inner :: rest => do
    let entries ← spreadEntries (← evaluate inner)
    return entries ++ (← evaluateEntries rest)
  | _ :: _ => throw (.failure .unsupported)

/-- Compares neighbours until one comparison fails; the operand in front has been evaluated. -/
def evaluateChain (first : Expr) (left : Value) : List Comparison → List Expr → Effect σ Value
  | [op], [operand] => do
    return .bool (← holds op (isSameOperand first operand) left (← evaluate operand))
  | op :: ops, operand :: rest => do
    let right ← evaluate operand
    if ← holds op (isSameOperand first operand) left right then evaluateChain operand right ops rest
    else return .bool false
  | _, _ => return .bool true

def evaluateAll : List Expr → Effect σ Value
  | [] => return .bool true
  | [last] => evaluate last
  | operand :: rest => do
    let value ← evaluate operand
    if value.truth then evaluateAll rest else return value

def evaluateAny : List Expr → Effect σ Value
  | [] => return .bool false
  | [last] => evaluate last
  | operand :: rest => do
    let value ← evaluate operand
    if value.truth then return value else evaluateAny rest

def evaluateArguments (found : Value.Arguments) : List Expr → Effect σ Value.Arguments
  | [] => return found
  | .starred inner :: rest => do
    let items ← Value.items (← evaluate inner)
    evaluateArguments { found with positional := found.positional ++ items } rest
  | .keyword key value :: rest => do
    let v ← evaluate value
    evaluateArguments (← addNamed found [(key, v)]) rest
  | .spread inner :: rest => do
    let entries ← spreadEntries (← evaluate inner)
    evaluateArguments (← addNamed found (← spreadNames entries)) rest
  | argument :: rest => do
    let value ← evaluate argument
    evaluateArguments { found with positional := found.positional ++ [value] } rest

end

variable {call} in
/-- A name in the scope, or a predefined one, is evaluated without side effects. -/
theorem run_evaluate_name {world : World σ}
    (given : (world.scope.get? text).or (Value.predefined? text) = some value) :
    (evaluate call (.name text)).run world = (.ok value, world) := by
  rw [evaluate, valueOfName]
  change ExceptT.run (match (world.scope.get? text).or (Value.predefined? text) with
    | some value => (pure value : Effect σ Value)
    | Option.none => throw (.failure (.unbound text))) world = _
  rw [given]
  rfl

end

end ByteRecord.Expr
