import ByteRecord.Value.Equality
import ByteRecord.Value.Failure
import ByteRecord.Expr.Syntax

/-! Operators on values. Whole numbers are exact and divide towards the floor; with a floating point
number on either side the operation is floating point. -/
namespace ByteRecord.Value
open Number ByteRecord.Expr

/-- A number as a floating point number, if it is in range. -/
def toFloat : Numeral → Except Failure Float
  | .float x => .ok x
  | .whole n => match ofInt? n with
    | some x => .ok x
    | Option.none => .error .overflow

/-- The greatest power or shift that is carried out. -/
def maxBits : Nat := 10000000

/-- Whole numbers as infinite rows of bits: `n` and its complement `-n - 1`. -/
def bitAnd (a b : Int) : Int :=
  match a, b with
  | .ofNat m, .ofNat n => (m &&& n : Nat)
  | .ofNat m, .negSucc n => (m ^^^ (m &&& n) : Nat)
  | .negSucc m, .ofNat n => (n ^^^ (n &&& m) : Nat)
  | .negSucc m, .negSucc n => .negSucc (m ||| n)

def bitOr (a b : Int) : Int :=
  match a, b with
  | .ofNat m, .ofNat n => (m ||| n : Nat)
  | .ofNat m, .negSucc n => .negSucc (n ^^^ (n &&& m))
  | .negSucc m, .ofNat n => .negSucc (m ^^^ (m &&& n))
  | .negSucc m, .negSucc n => .negSucc (m &&& n)

def bitXor (a b : Int) : Int :=
  match a, b with
  | .ofNat m, .ofNat n => (m ^^^ n : Nat)
  | .ofNat m, .negSucc n => .negSucc (m ^^^ n)
  | .negSucc m, .ofNat n => .negSucc (m ^^^ n)
  | .negSucc m, .negSucc n => (m ^^^ n : Nat)

/-- Quotient and remainder of floating point numbers; the remainder has the sign of the divisor. -/
def floatDivMod (x y : Float) : Except Failure (Float × Float) :=
  if y == 0 then .error .zeroDivision else
  let rest := remainder x y
  let quotient := (x - rest) / y
  let (quotient, rest) :=
    if rest == 0 then (quotient, if y < 0 then -0.0 else 0.0)
    else if (y < 0) != (rest < 0) then (quotient - 1.0, rest + y)
    else (quotient, rest)
  let whole := quotient.floor
  let whole :=
    if quotient == 0 then (if signWeight ≤ (x / y).toBits.toNat then -0.0 else 0.0)
    else if 0.5 < quotient - whole then whole + 1.0 else whole
  .ok (whole, rest)

private def floatPower (x y : Float) : Except Failure Float :=
  let whole := match truncate? y with
    | some n => (ofInt? n).any (· == y)
    | Option.none => true
  if x == 0 && y < 0 then .error .zeroDivision
  else if x < 0 && !whole && !x.isInf then .error .unsupported
  else
    let power := x.pow y
    if power.isInf && !x.isInf && !y.isInf then .error .overflow else .ok power

private def wholePower (a b : Int) : Except Failure Value :=
  if b < 0 then
    if a == 0 then .error .zeroDivision
    else do return .float (← floatPower (← toFloat (.whole a)) (← toFloat (.whole b)))
  else if 1 < a.natAbs && maxBits < b.toNat * (a.natAbs.log2 + 1) then .error .overflow
  else .ok (.int (Int.pow a b.toNat))

/-- An operator on whole numbers. -/
def wholeOperation (op : BinaryOp) (a b : Int) : Except Failure Value :=
  match op with
  | .add => .ok (.int (a + b))
  | .sub => .ok (.int (a - b))
  | .mul => .ok (.int (a * b))
  | .div =>
    if b == 0 then .error .zeroDivision
    else match divide? a b with
      | some x => .ok (.float x)
      | Option.none => .error .overflow
  | .floorDiv => if b == 0 then .error .zeroDivision else .ok (.int (a.fdiv b))
  | .mod => if b == 0 then .error .zeroDivision else .ok (.int (a.fmod b))
  | .pow => wholePower a b
  | .shiftLeft =>
    if b < 0 then .error .value
    else if a != 0 && maxBits < b.toNat then .error .overflow
    else .ok (.int (a * (twoTo b.toNat : Nat)))
  | .shiftRight =>
    if b < 0 then .error .value
    else if a.natAbs.log2 + 1 < b.toNat then .ok (.int (if a < 0 then -1 else 0))
    else .ok (.int (a.fdiv (twoTo b.toNat : Nat)))
  | .bitAnd => .ok (.int (Value.bitAnd a b))
  | .bitOr => .ok (.int (Value.bitOr a b))
  | .bitXor => .ok (.int (Value.bitXor a b))
  | .matMul => .error .type

private def floatOperation (op : BinaryOp) (x y : Float) : Except Failure Value :=
  match op with
  | .add => .ok (.float (x + y))
  | .sub => .ok (.float (x - y))
  | .mul => .ok (.float (x * y))
  | .div => if y == 0 then .error .zeroDivision else .ok (.float (x / y))
  | .floorDiv => do return .float (← floatDivMod x y).1
  | .mod => do return .float (← floatDivMod x y).2
  | .pow => do return .float (← floatPower x y)
  | _ => .error .type

private def repeated (items : List α) (count : Int) : Except Failure (List α) :=
  if 0x8000000000000000 ≤ count || count < -0x8000000000000000 then .error .overflow
  else if items.isEmpty then .ok []
  else if maxItems < items.length * count.toNat then .error .overflow
  else .ok (List.replicate count.toNat items).flatten

/-- A sequence some number of times in a row. -/
private def repetition (a : Value) (count : Int) : Except Failure Value :=
  match a with
  | .str text => return .str (String.ofList (← repeated text.toList count))
  | .bytes data => return .bytes (← repeated data count)
  | .buffer .array data => return .buffer .array (← repeated data count)
  | .list items => return .list (← repeated items count)
  | .tuple items => return .tuple (← repeated items count)
  | .record ⟨_, .tuple, _⟩ fields => return .tuple (← repeated (fields.map (·.2)) count)
  | _ => .error .type

private def tupleItems? : Value → Option (List Value)
  | .tuple items => some items
  | .record ⟨_, .tuple, _⟩ fields => some (fields.map (·.2))
  | _ => Option.none

/-- The sum of two sequences of one kind. -/
private def joined (a b : Value) : Except Failure Value :=
  match a, b with
  | .str s, .str t => .ok (.str (s ++ t))
  | .list as, .list bs => .ok (.list (as ++ bs))
  | .buffer .view _, _ => .error .type
  | a, b =>
    match tupleItems? a, tupleItems? b, a.bytes?, b.bytes? with
    | some as, some bs, _, _ => .ok (.tuple (as ++ bs))
    | _, _, some m, some n =>
      .ok (match a with
        | .buffer kind _ => .buffer kind (m ++ n)
        | _ => .bytes (m ++ n))
    | _, _, _, _ => .error .type

/-- An operator on values that are not both numbers. -/
private def otherOperation (op : BinaryOp) (a b : Value) : Except Failure Value :=
  match op, a, b with
  | .add, a, b => joined a b
  | .mul, a, b =>
    match b.int?, a.int? with
    | some count, _ => repetition a count
    | _, some count => repetition b count
    | _, _ => .error .type
  | .sub, .set as, .set bs => .ok (.set (as.filter fun x => !bs.any (same x)))
  | .bitAnd, .set as, .set bs => .ok (.set (as.filter fun x => bs.any (same x)))
  | .bitOr, .set as, .set bs => .ok (.set (distinct (as ++ bs)))
  | .bitXor, .set as, .set bs =>
    let rest := as.filter (fun x => !bs.any (same x)) ++ bs.filter fun x => !as.any (same x)
    .ok (.set (distinct rest))
  | .bitOr, .dict as, .dict bs => .ok (.dict (ofEntries (as ++ bs)))
  | _, _, _ => .error .type

/-- A binary operator on values. -/
def operate (op : BinaryOp) (a b : Value) : Except Failure Value :=
  match op, a, b with
  | .bitAnd, .bool a, .bool b => .ok (.bool (a && b))
  | .bitOr, .bool a, .bool b => .ok (.bool (a || b))
  | .bitXor, .bool a, .bool b => .ok (.bool (a != b))
  | op, a, b =>
    match a.numeral?, b.numeral? with
    | some (.whole m), some (.whole n) => wholeOperation op m n
    | some m, some n =>
      match op with
      | .shiftLeft | .shiftRight | .bitAnd | .bitOr | .bitXor | .matMul => .error .type
      | op => do floatOperation op (← toFloat m) (← toFloat n)
    | _, _ => otherOperation op a b

/-- A unary operator on a value. -/
def operateUnary (op : UnaryOp) (a : Value) : Except Failure Value :=
  match op, a.numeral? with
  | .not, _ => .ok (.bool !a.truth)
  | .plus, some (.whole n) => .ok (.int n)
  | .plus, some (.float x) => .ok (.float x)
  | .minus, some (.whole n) => .ok (.int (-n))
  | .minus, some (.float x) => .ok (.float (-x))
  | .invert, some (.whole n) => .ok (.int (-n - 1))
  | _, _ => .error .type

end ByteRecord.Value
