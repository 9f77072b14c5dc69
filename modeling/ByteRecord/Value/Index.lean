import ByteRecord.Value.Equality
import ByteRecord.Value.Failure

/-! Parts of values: items by position or key, slices, and membership. Negative positions count from
the end. -/
namespace ByteRecord.Value

/-- The items that a value must yield one by one. -/
def items (value : Value) : Except Failure (List Value) :=
  match value.items? with
  | some items => .ok items
  | Option.none => .error (match value with
    | .range _ _ _ => .overflow
    | _ => .type)

/-- The offset of a position in a sequence of a length. -/
def offset? (length : Nat) (position : Int) : Option Nat :=
  let moved := if position < 0 then position + length else position
  if 0 ≤ moved && moved < length then some moved.toNat else Option.none

/-- A bound of a slice moved into `[low, high]`. -/
private def clampBound (length : Nat) (low high bound : Int) : Int :=
  let moved := if bound < 0 then bound + length else bound
  max low (min high moved)

private def sliceBound? : Value → Except Failure (Option Int)
  | .none => .ok Option.none
  | value => match value.int? with
    | some n => .ok (some n)
    | Option.none => .error .type

/-- The first offset that a slice takes from a sequence of a length, the offset before which it
stops, and its step. -/
private def sliceBounds (length : Nat) (start stop step : Value) :
    Except Failure (Int × Int × Int) := do
  let step := (← sliceBound? step).getD 1
  let start ← sliceBound? start
  let stop ← sliceBound? stop
  if step == 0 then .error .value
  else
    let (low, high) : Int × Int := if 0 < step then (0, length) else (-1, length - 1)
    let first := match start with
      | some bound => clampBound length low high bound
      | Option.none => if 0 < step then low else high
    let last := match stop with
      | some bound => clampBound length low high bound
      | Option.none => if 0 < step then high else low
    return (first, last, step)

/-- The offsets that a slice takes from a sequence of a length, in order. -/
def sliceOffsets (length : Nat) (start stop step : Value) : Except Failure (List Nat) := do
  let (first, last, step) ← sliceBounds length start stop step
  return (rangeItems first last step).map Int.toNat

private def sliced (items : List α) (offsets : List Nat) : List α :=
  let items := items.toArray
  offsets.filterMap fun offset => items[offset]?

private def slicedValue (a start stop step : Value) : Except Failure Value :=
  match a with
  | .str text => do
    let offsets ← sliceOffsets text.length start stop step
    return .str (String.ofList (sliced text.toList offsets))
  | .bytes data => do
    return .bytes (sliced data (← sliceOffsets data.length start stop step))
  | .buffer kind data => do
    return .buffer kind (sliced data (← sliceOffsets data.length start stop step))
  | .list items => do
    return .list (sliced items (← sliceOffsets items.length start stop step))
  | .tuple items => do
    return .tuple (sliced items (← sliceOffsets items.length start stop step))
  | .record ⟨_, .tuple, _⟩ fields => do
    let items := fields.map (·.2)
    return .tuple (sliced items (← sliceOffsets items.length start stop step))
  | .range low high stride => do
    let (first, last, step) ← sliceBounds (rangeCount low high stride) start stop step
    return .range (low + first * stride) (low + last * stride) (stride * step)
  | _ => .error .type

private def itemAt (items : List Value) (position : Int) : Except Failure Value :=
  match (offset? items.length position).bind (items[·]?) with
  | some item => .ok item
  | Option.none => .error .index

/-- The part of a value at an index. -/
def item (a index : Value) : Except Failure Value :=
  match a, index with
  | .dict entries, key =>
    if !key.isHashable then .error .type
    else match lookup? entries key with
      | some value => .ok value
      | Option.none => .error .key
  | a, .slice start stop step => slicedValue a start stop step
  | .range start stop step, index =>
    match index.int? with
    | some position => match offset? (rangeCount start stop step) position with
      | some offset => .ok (.int (start + (offset : Int) * step))
      | Option.none => .error .index
    | Option.none => .error .type
  | a, index =>
    match a with
    | .str _ | .bytes _ | .buffer _ _ | .list _ | .tuple _ | .record ⟨_, .tuple, _⟩ _ =>
      match index.int?, a.items? with
      | some position, some items => itemAt items position
      | _, _ => .error .type
    | _ => .error .type

theorem item_bytes_zero (byte : UInt8) (data : List UInt8) :
    item (.bytes (byte :: data)) (.int 0) = .ok (.int byte.toNat) := by
  have known : item (.bytes (byte :: data)) (.int 0) =
      itemAt ((byte :: data).map fun byte => .int byte.toNat) 0 := rfl
  have inside : offset? (byte :: data).length 0 = some 0 := by simp [offset?]
  rw [known, itemAt, List.length_map, inside]
  rfl

/-- The first offset at which one list occurs in another. -/
def findIn [BEq α] (part whole : List α) : Option Nat :=
  go 0 whole
where
  go (offset : Nat) : List α → Option Nat
    | [] => if part.isEmpty then some offset else Option.none
    | c :: rest => if part.isPrefixOf (c :: rest) then some offset else go (offset + 1) rest

/-- Whether a value occurs in another. -/
def occursIn (a whole : Value) : Except Failure Bool :=
  match whole with
  | .str text =>
    match a with
    | .str part => .ok (findIn part.toList text.toList).isSome
    | _ => .error .type
  | .bytes data | .buffer .array data =>
    match a.int?, a.bytes? with
    | some n, _ =>
      if 0 ≤ n && n ≤ 255 then .ok (data.contains (UInt8.ofNat n.toNat)) else .error .value
    | _, some part => .ok (findIn part data).isSome
    | _, _ => .error .type
  | .set items => match a with
    | .set _ => .ok false
    | a => if a.isHashable then .ok (items.any (same a)) else .error .type
  | .dict entries =>
    if a.isHashable then .ok (entries.any fun (key, _) => same a key) else .error .type
  | .range start stop step =>
    match a.int? with
    | some n =>
      let inside := if 0 < step then start ≤ n && n < stop else stop < n && n ≤ start
      .ok (inside && (n - start) % step == 0)
    | Option.none => do return (← items whole).any (same a)
  | whole => do return (← items whole).any (same a)

end ByteRecord.Value
