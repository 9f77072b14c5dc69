import ByteRecord.Value.Basic
import ByteRecord.Value.Failure
import ByteRecord.Number.Power

/-! Numbers packed into bytes, and layouts of several packed numbers. A layout is a byte order and
then letters with optional counts; `<` has the least significant byte first, `>` the most. -/
namespace ByteRecord.Value

/-- The number that bytes spell, least significant first. -/
def littleEndian (data : List UInt8) : Nat :=
  data.foldr (fun byte value => byte.toNat + 256 * value) 0

/-- The number that bytes spell, read as signed if asked. -/
def ofBytes (isLittle isSigned : Bool) (data : List UInt8) : Int :=
  let value := littleEndian (if isLittle then data else data.reverse)
  let range := Number.twoTo (8 * data.length)
  if isSigned && range ≤ 2 * value then (value : Int) - range else value

private inductive Slot where
  | number (size : Nat) (signed : Bool)
  | float (size : Nat)
  | truth
  | char
  | text
  | pad
deriving BEq

private def Slot.size : Slot → Nat
  | .number size _ | .float size => size
  | _ => 1

/-- The slot of a layout letter; a few sizes differ in the machine's own layout. -/
private def slot? (native : Bool) (letter : Char) : Option Slot :=
  match letter with
  | 'x' => some .pad
  | 'c' => some .char
  | 's' | 'p' => some .text
  | '?' => some .truth
  | 'b' => some (.number 1 true)
  | 'B' => some (.number 1 false)
  | 'h' => some (.number 2 true)
  | 'H' => some (.number 2 false)
  | 'i' => some (.number 4 true)
  | 'I' => some (.number 4 false)
  | 'l' => some (.number (if native then 8 else 4) true)
  | 'L' => some (.number (if native then 8 else 4) false)
  | 'q' => some (.number 8 true)
  | 'Q' => some (.number 8 false)
  | 'n' => if native then some (.number 8 true) else Option.none
  | 'N' | 'P' => if native then some (.number 8 false) else Option.none
  | 'e' => some (.float 2)
  | 'f' => some (.float 4)
  | 'd' => some (.float 8)
  | _ => Option.none

/-- A read layout: the slots with their counts and the byte order. -/
private structure Layout where
  isLittle : Bool
  isAligned : Bool
  slots : List (Nat × Slot)

private def slotsFrom? (native : Bool) :
    (count : Option Nat) → List Char → Option (List (Nat × Slot))
  | Option.none, [] => some []
  | some _, [] => Option.none
  | count, c :: rest =>
    if '0' ≤ c && c ≤ '9' then
      slotsFrom? native (some (count.getD 0 * 10 + (c.toNat - 48))) rest
    else if count.isNone && (c == ' ' || (9 ≤ c.toNat && c.toNat ≤ 13)) then
      slotsFrom? native Option.none rest
    else do
      let slot ← slot? native c
      return (count.getD 1, slot) :: (← slotsFrom? native Option.none rest)

private def layout? (format : List Char) : Option Layout :=
  match format with
  | '<' :: rest => (slotsFrom? false Option.none rest).map (⟨true, false, ·⟩)
  | '=' :: rest => (slotsFrom? false Option.none rest).map (⟨true, false, ·⟩)
  | '>' :: rest | '!' :: rest => (slotsFrom? false Option.none rest).map (⟨false, false, ·⟩)
  | '@' :: rest => (slotsFrom? true Option.none rest).map (⟨true, true, ·⟩)
  | rest => (slotsFrom? true Option.none rest).map (⟨true, true, ·⟩)

private def Layout.aligned (layout : Layout) (offset : Nat) (slot : Slot) : Nat :=
  if layout.isAligned then (offset + slot.size - 1) / slot.size * slot.size else offset

private def Layout.width (layout : Layout) : Nat :=
  layout.slots.foldl (fun offset (count, slot) =>
    layout.aligned offset slot + count * slot.size) 0

/-- The number that the bits of a floating point number of 4 bytes stand for. -/
private def ofBits32 (bits : Nat) : Float :=
  (Float32.ofBits (UInt32.ofNat bits)).toFloat

/-- The number that the bits of a floating point number of 2 bytes stand for. -/
private def ofBits16 (bits : Nat) : Float :=
  let sign := bits / 0x8000
  let exponent := bits / 0x400 % 32
  let fraction := bits % 0x400
  let magnitude : Float :=
    if exponent == 31 then if fraction == 0 then 1.0 / 0.0 else 0.0 / 0.0
    else if exponent == 0 then Float.ofScientific fraction false 0 / 16777216.0
    else (Float.ofScientific (fraction + 1024) false 0 / 33554432.0) *
      Float.ofScientific (Number.twoTo exponent) false 0
  if sign == 1 then -magnitude else magnitude

private def slotValue (isLittle : Bool) (slot : Slot) (data : List UInt8) : Value :=
  let bits := (ofBytes isLittle false data).toNat
  match slot with
  | .number _ signed => .int (ofBytes isLittle signed data)
  | .float 4 => .float (ofBits32 bits)
  | .float 2 => .float (ofBits16 bits)
  | .float _ => .float (Float.ofBits (UInt64.ofNat bits))
  | .truth => .bool (bits != 0)
  | _ => .bytes data

private def Layout.values (layout : Layout) :
    (offset : Nat) → List (Nat × Slot) → List UInt8 → List Value
  | _, [], _ => []
  | offset, (count, slot) :: rest, data =>
    let start := layout.aligned offset slot
    let data := data.drop (start - offset)
    let width := count * slot.size
    let own := data.take width
    let found := match slot with
      | .pad => []
      | .text => [.bytes own]
      | slot => (List.range count).map fun i =>
        slotValue layout.isLittle slot ((own.drop (i * slot.size)).take slot.size)
    found ++ layout.values (start + width) rest (data.drop width)

/-- The number of bytes that a layout takes. -/
def packedSize (format : List Char) : Except Failure Nat :=
  match layout? format with
  | some layout => if 0x8000000000000000 ≤ layout.width then .error .packed else .ok layout.width
  | Option.none => .error .packed

/-- The values that bytes hold under a layout, whose size they must have. -/
def unpack (format : List Char) (data : List UInt8) : Except Failure (List Value) :=
  match layout? format with
  | some layout =>
    if layout.width == data.length then .ok (layout.values 0 layout.slots data)
    else .error .packed
  | Option.none => .error .packed

/-- Eight bytes are one floating point number. -/
theorem unpack_double {data : List UInt8} (size : data.length = 8) : unpack ['<', 'd'] data =
    .ok [.float (Float.ofBits (UInt64.ofNat (ofBytes true false data).toNat))] := by
  have known : unpack ['<', 'd'] data = if 8 == data.length then
      .ok (Layout.values ⟨true, false, [(1, .float 8)]⟩ 0 [(1, .float 8)] data)
      else .error .packed := rfl
  have whole : data.take 8 = data := List.take_of_length_le (Nat.le_of_eq size)
  rw [known, size, beq_self_eq_true, if_pos rfl]
  change Except.ok [slotValue true (.float 8) ((((data.drop 0).take 8).drop 0).take 8)] = _
  rw [List.drop_zero, List.drop_zero, whole, whole]
  rfl

end ByteRecord.Value
