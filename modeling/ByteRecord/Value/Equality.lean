import ByteRecord.Value.Basic
import ByteRecord.Number.Binary64

/-! Equality and order of values, and mappings from values. Numbers of different kinds are equal if
they are the same number; strings of bytes are equal to buffers with the same content. -/
namespace ByteRecord.Value
open Number

/-- A number, exactly: a whole number or a floating point number. -/
inductive Numeral where
  | whole (value : Int)
  | float (value : Float)

def numeral? : Value → Option Numeral
  | .int value => some (.whole value)
  | .bool value => some (.whole (if value then 1 else 0))
  | .float value => some (.float value)
  | _ => Option.none

/-- How two numbers compare; a value that is not a number compares with none. -/
def Numeral.compare? : Numeral → Numeral → Option Ordering
  | .whole a, .whole b => some (compare a b)
  | .float a, .float b =>
    if a < b then some .lt else if b < a then some .gt else if a == b then some .eq
    else Option.none
  | .whole a, .float b => compareWhole? a b
  | .float a, .whole b => (compareWhole? b a).map Ordering.swap
where
  compareWhole? (a : Int) (b : Float) : Option Ordering :=
    match Binary.ofFloat? b with
    | some parts => some (compareInt a parts)
    | Option.none => if b.isNaN then Option.none else some (if 0 < b then .lt else .gt)

/-- Whether two ranges have the same members. -/
private def sameRange (start stop step start' stop' step' : Int) : Bool :=
  let count := rangeCount start stop step
  count == rangeCount start' stop' step' &&
    (count == 0 || start == start' && (count == 1 || step == step'))

/-- Equality of values without parts. -/
private def sameAtom (a b : Value) : Bool :=
  match a, b with
  | .none, .none | .ellipsis, .ellipsis => true
  | .str a, .str b => a == b
  | .type a, .type b => a == b
  | .module a, .module b => a == b
  | .builtin a, .builtin b => a == b
  | .counter a, .counter b => a == b
  | .external a _, .external b _ => a == b
  | .range a b c, .range d e f => sameRange a b c d e f
  | a, b =>
    match a.numeral?, b.numeral? with
    | some m, some n => m.compare? n == some .eq
    | _, _ =>
      match a.bytes?, b.bytes? with
      | some m, some n => m == n
      | _, _ => false

mutual

/-- Whether two values are equal. -/
def same : Value → Value → Bool
  | .list as, .list bs | .tuple as, .tuple bs => allSame as bs
  | .tuple as, .record ⟨_, .tuple, _⟩ bs => allSame as (bs.map (·.2))
  | .record ⟨_, .tuple, _⟩ as, .tuple bs => fieldsSameAs as bs
  | .set as, .set bs => as.length == bs.length && allFound as bs
  | .dict as, .dict bs => as.length == bs.length && entriesFound as bs
  | .record t as, .record u bs =>
    if t.kind == .tuple && u.kind == .tuple then fieldsSameAs as (bs.map (·.2))
    else t == u && as.length == bs.length && fieldsFound as bs
  | .slice a b c, .slice d e f => same a d && same b e && same c f
  | .method a m, .method b n => m == n && same a b
  | a, b => sameAtom a b

def allSame : List Value → List Value → Bool
  | [], [] => true
  | a :: as, b :: bs => same a b && allSame as bs
  | _, _ => false

def fieldsSameAs : List (String × Value) → List Value → Bool
  | [], [] => true
  | (_, a) :: as, b :: bs => same a b && fieldsSameAs as bs
  | _, _ => false

def allFound : List Value → List Value → Bool
  | [], _ => true
  | a :: as, bs => bs.any (same a) && allFound as bs

def entriesFound : List (Value × Value) → List (Value × Value) → Bool
  | [], _ => true
  | (key, a) :: as, bs =>
    bs.any (fun (other, b) => same key other && same a b) && entriesFound as bs

def fieldsFound : List (String × Value) → List (String × Value) → Bool
  | [], _ => true
  | (name, a) :: as, bs =>
    bs.any (fun (other, b) => name == other && same a b) && fieldsFound as bs

end

theorem same_str (a b : String) : same (.str a) (.str b) = (a == b) := by
  rw [same]
  · rfl
  all_goals nofun

theorem same_int (a b : Int) : same (.int a) (.int b) = (a == b) := by
  rw [same]
  · change (some (compare a b) == some Ordering.eq) = (a == b)
    rw [Bool.eq_iff_iff, beq_iff_eq, beq_iff_eq, Option.some.injEq, Std.compare_eq_iff_eq]
  all_goals nofun

theorem same_int_str (a : Int) (b : String) : same (.int a) (.str b) = false := by
  rw [same]
  · rfl
  all_goals nofun

theorem same_str_int (a : String) (b : Int) : same (.str a) (.int b) = false := by
  rw [same]
  · rfl
  all_goals nofun

/-- Values that a mapping or a set can be asked for. -/
def isHashable : Value → Bool
  | .list _ | .set _ | .dict _ | .buffer .array _ | .slice _ _ _ => false
  | .record ⟨_, .tuple, _⟩ fields => fieldsHashable fields
  | .record _ _ => false
  | .tuple items => allHashable items
  | _ => true
where
  allHashable : List Value → Bool
    | [] => true
    | item :: rest => isHashable item && allHashable rest
  fieldsHashable : List (String × Value) → Bool
    | [] => true
    | (_, value) :: rest => isHashable value && fieldsHashable rest

/-- The value of a key. -/
def lookup? (entries : List (Value × Value)) (key : Value) : Option Value :=
  (entries.find? fun (other, _) => same other key).map (·.2)

/-- Sets the value of a key; a known key keeps its place and its first spelling. -/
def insert (entries : List (Value × Value)) (key value : Value) : List (Value × Value) :=
  match entries with
  | [] => [(key, value)]
  | (other, old) :: rest =>
    if same other key then (other, value) :: rest else (other, old) :: insert rest key value

/-- A mapping from entries, of which the last of a key counts. -/
def ofEntries (entries : List (Value × Value)) : List (Value × Value) :=
  entries.foldl (fun found (key, value) => insert found key value) []

/-- A set of items, of which the first of equals stays. Whole numbers come in increasing order. -/
def distinct (items : List Value) : List Value :=
  let found := (ofEntries (items.map fun item => (item, .none))).map (·.1)
  if found.all (·.int?.isSome) then
    found.mergeSort fun a b => a.int?.getD 0 ≤ b.int?.getD 0
  else found

/-- How a set compares with another by inclusion. -/
private def inclusion? (as bs : List Value) : Option Ordering :=
  let fewer := as.all fun a => bs.any (same a)
  let more := bs.all fun b => as.any (same b)
  if fewer && more then some .eq
  else if fewer then some .lt
  else if more then some .gt
  else Option.none

/-- The order of texts by code points. -/
def compareTexts (a b : String) : Ordering :=
  if a < b then .lt else if b < a then .gt else .eq

/-- How two values compare, if they have an order. The first difference of two sequences decides,
then their length. Byte strings and arrays of bytes compare by their content, and so does a view of
bytes with an array. -/
def order? : Value → Value → Option (Option Ordering)
  | .str a, .str b => some (some (compareTexts a b))
  | .set as, .set bs => some (inclusion? as bs)
  | .list as, .list bs | .tuple as, .tuple bs => sequenceOrder? as bs
  | .record ⟨_, .tuple, _⟩ as, .tuple bs => partsOrder? as bs
  | .tuple as, .record ⟨_, .tuple, _⟩ bs => sequenceOrder? as (bs.map (·.2))
  | .record ⟨_, .tuple, _⟩ as, .record ⟨_, .tuple, _⟩ bs => partsOrder? as (bs.map (·.2))
  | a, b =>
    match a.numeral?, b.numeral? with
    | some m, some n => some (m.compare? n)
    | _, _ =>
      match a, b with
      | .bytes m, .bytes n | .buffer .array m, .bytes n | .bytes m, .buffer .array n
      | .buffer .array m, .buffer _ n | .buffer _ m, .buffer .array n =>
        some (some (compareBytes m n))
      | _, _ => Option.none
where
  sequenceOrder? : List Value → List Value → Option (Option Ordering)
    | [], [] => some (some .eq)
    | [], _ :: _ => some (some .lt)
    | _ :: _, [] => some (some .gt)
    | a :: as, b :: bs => if same a b then sequenceOrder? as bs else order? a b
  partsOrder? : List (String × Value) → List Value → Option (Option Ordering)
    | [], [] => some (some .eq)
    | [], _ :: _ => some (some .lt)
    | _ :: _, [] => some (some .gt)
    | (_, a) :: as, b :: bs => if same a b then partsOrder? as bs else order? a b
  compareBytes : List UInt8 → List UInt8 → Ordering
    | [], [] => .eq
    | [], _ :: _ => .lt
    | _ :: _, [] => .gt
    | a :: as, b :: bs => if a == b then compareBytes as bs else compare a.toNat b.toNat

end ByteRecord.Value
