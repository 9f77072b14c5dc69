import ByteRecord.Plan.Basic

/-! Where the fields of a record stand: one after another, each behind the bytes of those before
it. -/
namespace ByteRecord

/-- Where a field starts; the end of one field is the start of the next. -/
def offset (fields : List Field) (i : Nat) : Nat :=
  ((fields.take i).map Field.size).foldr (· + ·) 0

/-- The bytes of one field. -/
def slice (fields : List Field) (data : List UInt8) (i : Nat) : List UInt8 :=
  (data.take (offset fields (i + 1))).drop (offset fields i)

@[simp] theorem offset_zero (fields : List Field) : offset fields 0 = 0 :=
  rfl

@[simp] theorem offset_cons (field : Field) (fields : List Field) (i : Nat) :
    offset (field :: fields) (i + 1) = field.size + offset fields i :=
  rfl

theorem offset_succ {fields : List Field} (at_index : fields[i]? = some field) :
    offset fields (i + 1) = offset fields i + field.size := by
  induction fields generalizing i with
  | nil => cases at_index
  | cons first rest ih =>
    cases i with
    | zero =>
      cases at_index
      rw [offset_cons, offset_zero, offset_zero, Nat.add_comm]
    | succ i => rw [offset_cons, offset_cons, ih at_index, Nat.add_assoc]

theorem offset_le_offset (fields : List Field) (within : i ≤ j) :
    offset fields i ≤ offset fields j := by
  induction fields generalizing i j with
  | nil => simp [offset]
  | cons field fields ih =>
    cases i with
    | zero => exact Nat.zero_le _
    | succ i =>
      cases j with
      | zero => omega
      | succ j => exact Nat.add_le_add_left (ih (Nat.le_of_succ_le_succ within)) field.size

theorem offset_take (fields : List Field) (within : i ≤ n) :
    offset (fields.take n) i = offset fields i := by
  rw [offset, List.take_take, Nat.min_eq_left within, offset]

theorem Plan.size_eq_offset (plan : Plan) : plan.size = offset plan.fields plan.fields.length := by
  rw [size, offset, List.take_length]

@[simp] theorem slice_cons_zero (field : Field) (fields : List Field) (data : List UInt8) :
    slice (field :: fields) data 0 = data.take field.size := by
  simp [slice]

@[simp] theorem slice_cons_succ (field : Field) (fields : List Field) (data : List UInt8)
    (i : Nat) :
    slice (field :: fields) data (i + 1) = slice fields (data.drop field.size) i := by
  simp only [slice, offset_cons]
  rw [← List.drop_drop, ← List.take_drop]

theorem slice_take (fields : List Field) (data : List UInt8) (within : i < n) :
    slice (fields.take n) data i = slice fields data i := by
  rw [slice, offset_take fields within, offset_take fields (Nat.le_of_lt within), slice]

theorem slice_eq_take {fields : List Field} (at_index : fields[i]? = some field)
    (data : List UInt8) : slice fields data i = (data.drop (offset fields i)).take field.size := by
  rw [slice, offset_succ at_index, ← List.take_drop]

theorem length_slice {fields : List Field} (at_index : fields[i]? = some field)
    {data : List UInt8} (enough : offset fields (i + 1) ≤ data.length) :
    (slice fields data i).length = field.size := by
  rw [offset_succ at_index] at enough
  rw [slice_eq_take at_index, List.length_take, List.length_drop]
  omega

end ByteRecord
