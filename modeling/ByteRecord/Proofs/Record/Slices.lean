import ByteRecord.Proofs.Effect.Unchanged
import ByteRecord.Proofs.Record.Offsets
import ByteRecord.Proofs.Stream.Chunks

/-! A parse of bytes read off the list of fields. Field after field takes its own slice of the data;
the first field whose slice is incomplete or does not match decides the outcome. -/
namespace ByteRecord

/-- A field finds its whole slice, its pattern accepts it, and its value can be stored. -/
structure Taken (interpreter : Interpreter σ) (world : World σ) (fields : List Field)
    (data : List UInt8) (values : Nat → Value) (i : Nat) (field : Field) : Prop where
  enough : offset fields (i + 1) ≤ data.length
  accepted : field.verdict interpreter world (slice fields data i) = .ok true
  stored : field.isMember → field.valueOf interpreter world (slice fields data i) = .ok (values i)

/-- The first `n` fields are taken, one after another. -/
def TakenBefore (interpreter : Interpreter σ) (world : World σ) (fields : List Field)
    (data : List UInt8) (values : Nat → Value) (n : Nat) : Prop :=
  ∀ i field, i < n → fields[i]? = some field → Taken interpreter world fields data values i field

/-- The members of fields with given values. -/
def membersOf (fields : List Field) (values : Nat → Value) : Plan.Members :=
  fields.zipIdx.filterMap fun (field, i) => field.member.map fun member => (member, values i)

theorem membersOf_cons (field : Field) (fields : List Field) (values : Nat → Value) :
    membersOf (field :: fields) values =
      (field.member.map fun member => (member, values 0)).toList ++
        membersOf fields fun i => values (i + 1) := by
  simp only [membersOf, List.zipIdx_cons, Nat.zero_add, List.zipIdx_succ, List.filterMap_cons,
    List.filterMap_map]
  cases field.member <;> rfl

namespace Plan
variable {interpreter : Interpreter σ} {world : World σ} {buffer : List UInt8}

theorem matchField_run {field : Field} (free : field.SideEffectFree interpreter world)
    (raw : List UInt8) : (matchField interpreter field raw).run world =
      (match field.verdict interpreter world raw with
        | .error fault => .error fault
        | .ok false => .ok (.error (.mismatch field raw))
        | .ok true => match field.member with
          | none => .ok (.ok [])
          | some member =>
            (field.valueOf interpreter world raw).map fun value => .ok [(member, value)],
        world) := by
  have matched : (Effect.apart (field.pattern.accepts interpreter raw)).run world =
      (field.verdict interpreter world raw, world) :=
    (Keeps.apart (Pattern.accepts_keeps raw free.elements)).run_eq
  rw [matchField, run_bind, matched]
  cases field.verdict interpreter world raw with
  | error fault => rfl
  | ok accepted =>
    cases accepted with
    | false => rfl
    | true =>
      simp only [if_true, run_bind, memberValue]
      cases field.member with
      | none => rfl
      | some member =>
        simp only [run_bind, Field.run_evaluate free]
        cases field.valueOf interpreter world raw <;> rfl

theorem matchField_taken {field : Field} (free : field.SideEffectFree interpreter world)
    (accepted : field.verdict interpreter world raw = .ok true)
    (stored : field.isMember → field.valueOf interpreter world raw = .ok value) :
    (matchField interpreter field raw).run world =
      (.ok (.ok (field.member.map fun member => (member, value)).toList), world) := by
  rw [matchField_run free, accepted]
  cases present : field.member with
  | none => rfl
  | some member =>
    dsimp only
    rw [stored (by rw [Field.isMember, present]; rfl)]
    rfl

/-- A field whose bytes are there matches the first of them and leaves the others. -/
theorem runField_bytes (interpreter : Interpreter σ) {field : Field} (world : World σ)
    (enough : field.size ≤ data.length) (fits : field.size ≤ buffer.length) :
    ∃ buffer', buffer'.length = buffer.length ∧
      (runField interpreter field).run ⟨world, Stream.bytes data, buffer⟩ =
        (((matchField interpreter field (data.take field.size)).run world).1.map (·, field.size),
          ⟨((matchField interpreter field (data.take field.size)).run world).2,
            Stream.bytes (data.drop field.size), buffer'⟩) := by
  have size : (data.take field.size).length = field.size := by
    rw [List.length_take, Nat.min_eq_left enough]
  have holds : Stream.IsBytes (.bytes data) (data.take field.size ++ data.drop field.size) := by
    rw [List.take_append_drop, Stream.IsBytes]
  obtain ⟨_, run, rfl⟩ :=
    runField_full interpreter Stream.isBytes_delivers holds size fits world
  refine ⟨_, ?_, run⟩
  rw [List.length_append, List.length_drop, size]
  omega

/-- Fields that are taken one after another leave the world as it is, and what follows them runs on
what they leave of the data. -/
theorem runFields_taken (fields later : List Field) (values : Nat → Value) (consumed : Nat)
    (free : ∀ field ∈ fields, field.SideEffectFree interpreter world)
    (taken : TakenBefore interpreter world fields data values fields.length)
    (fits : ∀ field ∈ fields, field.size ≤ buffer.length) :
    ∃ buffer', buffer'.length = buffer.length ∧
      (runFields interpreter consumed (fields ++ later)).run ⟨world, Stream.bytes data, buffer⟩ =
        let (result, run) := (runFields interpreter (consumed + offset fields fields.length)
          later).run ⟨world, Stream.bytes (data.drop (offset fields fields.length)), buffer'⟩
        (result.map fun (result, consumed) =>
          (result.map (membersOf fields values ++ ·), consumed), run) := by
  induction fields generalizing data values buffer consumed with
  | nil =>
    refine ⟨buffer, rfl, ?_⟩
    simp only [List.nil_append, List.length_nil, offset_zero, Nat.add_zero, List.drop_zero]
    cases (runFields interpreter consumed later).run ⟨world, Stream.bytes data, buffer⟩ with
    | mk result run =>
      cases result with
      | error fault => rfl
      | ok answer =>
        obtain ⟨result, total⟩ := answer
        cases result <;> rfl
  | cons field fields ih =>
    have first := taken 0 field (Nat.zero_lt_succ _) rfl
    have enough : field.size ≤ data.length := first.enough
    have accepted := first.accepted
    have stored := first.stored
    rw [slice_cons_zero] at accepted stored
    have matched := matchField_taken (free field List.mem_cons_self) accepted stored
    obtain ⟨buffer₁, kept, own⟩ :=
      runField_bytes interpreter world enough (fits field List.mem_cons_self)
    rw [matched] at own
    have taken_later : TakenBefore interpreter world fields (data.drop field.size)
        (fun i => values (i + 1)) fields.length := by
      intro i other within at_index
      have here := taken (i + 1) other (Nat.succ_lt_succ within) at_index
      refine ⟨?_, ?_, ?_⟩
      · have whole := here.enough
        rw [offset_cons] at whole
        rw [List.length_drop]
        omega
      · simpa using here.accepted
      · simpa using here.stored
    obtain ⟨buffer₂, kept', rest⟩ := ih (fun i => values (i + 1)) (consumed + field.size)
      (fun other member => free other (List.mem_cons_of_mem _ member)) taken_later
      (fun other member => kept ▸ fits other (List.mem_cons_of_mem _ member))
    refine ⟨buffer₂, kept'.trans kept, ?_⟩
    rw [List.cons_append, runFields_cons, own]
    simp only [Except.map]
    rw [rest]
    simp only [List.length_cons, offset_cons, Nat.add_assoc, List.drop_drop, membersOf_cons]
    cases (runFields interpreter (consumed + (field.size + offset fields fields.length)) later).run
      ⟨world, Stream.bytes (data.drop (field.size + offset fields fields.length)), buffer₂⟩ with
    | mk result run =>
      cases result with
      | error fault => rfl
      | ok answer =>
        obtain ⟨result, total⟩ := answer
        cases result with
        | error error => rfl
        | ok members => simp only [Except.map, List.append_assoc]

/-- The fields before one that is reached leave to it what they did not take. -/
theorem runFields_reach {fields : List Field} (at_index : fields[i]? = some field)
    (free : ∀ field ∈ fields, field.SideEffectFree interpreter world)
    (taken : TakenBefore interpreter world fields data values i)
    (fits : ∀ field ∈ fields, field.size ≤ buffer.length) :
    ∃ buffer', buffer'.length = buffer.length ∧
      (runFields interpreter 0 fields).run ⟨world, Stream.bytes data, buffer⟩ =
        let (result, run) := (runFields interpreter (offset fields i)
          (field :: fields.drop (i + 1))).run
            ⟨world, Stream.bytes (data.drop (offset fields i)), buffer'⟩
        (result.map fun (result, consumed) =>
          (result.map (membersOf (fields.take i) values ++ ·), consumed), run) := by
  obtain ⟨within, same⟩ := List.getElem?_eq_some_iff.mp at_index
  have parts : fields.take i ++ field :: fields.drop (i + 1) = fields := by
    rw [← same, ← List.drop_eq_getElem_cons, List.take_append_drop]
  have end_of : offset (fields.take i) (fields.take i).length = offset fields i := by
    rw [List.length_take, Nat.min_eq_left (Nat.le_of_lt within), offset_take _ (Nat.le_refl i)]
  have before : TakenBefore interpreter world (fields.take i) data values
      (fields.take i).length := by
    intro j earlier bound at_j
    have smaller : j < i := by
      rw [List.length_take] at bound
      omega
    rw [List.getElem?_take_of_lt smaller] at at_j
    obtain ⟨enough, accepted, stored⟩ := taken j earlier smaller at_j
    exact ⟨by rwa [offset_take _ smaller], by rwa [slice_take _ _ smaller],
      by rwa [slice_take _ _ smaller]⟩
  have run := runFields_taken (fields.take i) (field :: fields.drop (i + 1)) values 0
    (fun other member => free other (List.mem_of_mem_take member)) before
    (fun other member => fits other (List.mem_of_mem_take member))
  simpa only [parts, end_of, Nat.zero_add] using run

theorem offset_le_length {fields : List Field} (at_index : fields[i]? = some field)
    (taken : TakenBefore interpreter world fields data values i) :
    offset fields i ≤ data.length := by
  cases i with
  | zero => exact Nat.zero_le _
  | succ j =>
    have within : j < fields.length :=
      Nat.lt_of_succ_lt (List.getElem?_eq_some_iff.mp at_index).1
    exact (taken j fields[j] (Nat.lt_succ_self j) (List.getElem?_eq_getElem within)).enough

theorem parseBytes_stopped {plan : Plan} {reader : Stream}
    (run : (runFields interpreter 0 plan.fields).run
      ⟨plan.world names state, Stream.bytes data, plan.buffer⟩ =
        (.ok (.error error, consumed), ⟨plan.world names state, reader, buffer⟩)) :
    (plan.parseBytes interpreter names data).run state =
      (.ok ⟨.error error, consumed⟩, state) := by
  simp only [parseBytes, ExceptT.run_mk, parseStream, run_eq, run]
  rfl

/-- A parse of bytes, field by field. If every field is taken, the record is made of the values of
the slices and all bytes of the plan are consumed. Otherwise the first field that is not taken
decides: its slice is incomplete, or does not match, or an element cannot be computed. -/
theorem parseBytes_slices (interpreter : Interpreter σ) (plan : Plan) (names : Scope)
    (data : List UInt8) (state : σ)
    (free : ∀ field ∈ plan.fields, field.SideEffectFree interpreter (plan.world names state)) :
    (∀ values, TakenBefore interpreter (plan.world names state) plan.fields data values
        plan.fields.length →
      plan.size = offset plan.fields plan.fields.length ∧
      (plan.parseBytes interpreter names data).run state =
        let (made, world) := (plan.assemble interpreter (membersOf plan.fields values)).run
          (plan.world names state)
        (made.map fun record => ⟨.ok record, plan.size⟩, world.state)) ∧
    ∀ i field values, plan.fields[i]? = some field →
      TakenBefore interpreter (plan.world names state) plan.fields data values i →
      (data.length < offset plan.fields (i + 1) →
        ∃ error, error = .read field (data.length - offset plan.fields i) none ∧
          error.requested = field.pattern.size ∧
          (plan.parseBytes interpreter names data).run state =
            (.ok ⟨.error error, data.length⟩, state)) ∧
      (offset plan.fields (i + 1) ≤ data.length →
        field.verdict interpreter (plan.world names state) (slice plan.fields data i) =
          .ok false →
        ∃ error, error = .mismatch field (slice plan.fields data i) ∧
          error.expected = field.pattern.text ∧
          (plan.parseBytes interpreter names data).run state =
            (.ok ⟨.error error, offset plan.fields (i + 1)⟩, state)) ∧
      ∀ fault, offset plan.fields (i + 1) ≤ data.length →
        field.verdict interpreter (plan.world names state) (slice plan.fields data i) =
          .error fault →
        (plan.parseBytes interpreter names data).run state = (.error fault, state) := by
  have fits : ∀ field ∈ plan.fields, field.size ≤ plan.buffer.length := fun _ => size_le_buffer
  refine ⟨fun values taken => ⟨plan.size_eq_offset, ?_⟩, ?_⟩
  · obtain ⟨buffer', -, run⟩ := runFields_taken plan.fields [] values 0 free taken fits
    simp only [List.append_nil, Nat.zero_add, runFields_nil, Except.map] at run
    simp only [parseBytes, ExceptT.run_mk, parseStream, run_eq, run, ← plan.size_eq_offset]
    rfl
  · intro i field values at_index taken
    have member : field ∈ plan.fields := List.mem_of_getElem? at_index
    have start := offset_le_length at_index taken
    have stop := offset_succ at_index
    obtain ⟨buffer', kept, run⟩ := runFields_reach at_index free taken fits
    have room : field.size ≤ buffer'.length := kept ▸ fits field member
    have left : (data.drop (offset plan.fields i)).length = data.length - offset plan.fields i :=
      List.length_drop
    refine ⟨fun missing => ⟨_, rfl, rfl, ?_⟩, fun enough rejected => ⟨_, rfl, rfl, ?_⟩,
      fun fault enough raised => ?_⟩
    · obtain ⟨reader', buffer'', own, -⟩ := runField_short interpreter Stream.isBytes_delivers rfl
        (show (data.drop (offset plan.fields i)).length < field.size by omega) room
        (plan.world names state)
      simp only [runFields_cons, own, Except.map, left, Nat.add_sub_cancel' start] at run
      exact parseBytes_stopped run
    · obtain ⟨buffer'', -, own⟩ := runField_bytes interpreter (plan.world names state)
        (show field.size ≤ (data.drop (offset plan.fields i)).length by omega) room
      rw [← slice_eq_take at_index, matchField_run (free field member), rejected] at own
      simp only [runFields_cons, own, Except.map, ← stop] at run
      exact parseBytes_stopped run
    · obtain ⟨buffer'', -, own⟩ := runField_bytes interpreter (plan.world names state)
        (show field.size ≤ (data.drop (offset plan.fields i)).length by omega) room
      rw [← slice_eq_take at_index, matchField_run (free field member), raised] at own
      simp only [runFields_cons, own, Except.map] at run
      simp only [parseBytes, ExceptT.run_mk, parseStream, run_eq, run]
      rfl

/-- A plan whose second field stores how many bytes it has, one of them computed. -/
def counted : Plan where
  target := .entries
  fields := [⟨none, ⟨[.exact 0x48], .hex⟩, none, none, none⟩,
    ⟨some (.name "a"), ⟨[.deferred ⟨"2", .inl (.const (.int 2)), none⟩, .wildcard], .array⟩, none,
      some (.function (.builtin .len)), none⟩,
    ⟨some (.name "b"), ⟨[], .hex⟩, none, none, none⟩]
  rest := none
  scope := .empty
  reader := none
  name := .str "counted"

theorem counted_free : ∀ field ∈ counted.fields,
    field.SideEffectFree .standard (counted.world .empty fun _ => 0) := by
  intro field member
  simp only [counted, List.mem_cons, List.not_mem_nil, or_false] at member
  rcases member with rfl | rfl | rfl
  · exact ⟨fun _ absent => absurd absent List.not_mem_nil, fun _ => rfl⟩
  · refine ⟨fun element member => ?_, fun _ => rfl⟩
    cases List.mem_singleton.mp member
    rfl
  · exact ⟨fun _ absent => absurd absent List.not_mem_nil, fun _ => rfl⟩

theorem counted_taken : TakenBefore .standard (counted.world .empty fun _ => 0) counted.fields
    [0x48, 0x02, 0x03, 0x04] (fun i => if i = 1 then .int 2 else .bytes []) 3 := by
  intro i field within at_index
  match i, within with
  | 0, _ =>
    cases at_index
    exact ⟨by decide, rfl, nofun⟩
  | 1, _ =>
    cases at_index
    exact ⟨by decide, rfl, fun _ => rfl⟩
  | 2, _ =>
    cases at_index
    exact ⟨by decide, rfl, fun _ => rfl⟩

/-- All fields are taken; the second one is incomplete; it does not match. -/
theorem parseBytes_slices_counted :
    (∀ field ∈ counted.fields,
      field.SideEffectFree .standard (counted.world .empty fun _ => 0)) ∧
    (counted.parseBytes .standard .empty [0x48, 0x02, 0x03, 0x04]).run (fun _ => 0) =
      (.ok ⟨.ok (.dict [(.str "a", .int 2), (.str "b", .bytes [])]), 3⟩, fun _ => 0) ∧
    (∃ field, counted.fields[1]? = some field ∧
      (counted.parseBytes .standard .empty [0x48, 0x02]).run (fun _ => 0) =
        (.ok ⟨.error (.read field 1 none), 2⟩, fun _ => 0)) ∧
    ∃ field, counted.fields[1]? = some field ∧
      (counted.parseBytes .standard .empty [0x48, 0x07, 0x03]).run (fun _ => 0) =
        (.ok ⟨.error (.mismatch field [0x07, 0x03]), 3⟩, fun _ => 0) := by
  have first (later : List UInt8) : TakenBefore .standard (counted.world .empty fun _ => 0)
      counted.fields (0x48 :: later) (fun _ => .none) 1 := by
    intro i field within at_index
    obtain rfl : i = 0 := by omega
    cases at_index
    exact ⟨Nat.succ_le_succ (Nat.zero_le _), rfl, nofun⟩
  refine ⟨counted_free, ?_, ⟨_, rfl, ?_⟩, ⟨_, rfl, ?_⟩⟩
  · obtain ⟨-, run⟩ :=
      (parseBytes_slices .standard counted .empty _ _ counted_free).1 _ counted_taken
    refine run.trans ?_
    with_unfolding_all rfl
  · obtain ⟨error, rfl, -, run⟩ := ((parseBytes_slices .standard counted .empty [0x48, 0x02] _
      counted_free).2 1 _ _ rfl (first _)).1 (by decide)
    exact run
  · obtain ⟨error, rfl, -, run⟩ := ((parseBytes_slices .standard counted .empty [0x48, 0x07, 0x03] _
      counted_free).2 1 _ _ rfl (first _)).2.1 (by decide) (rfl)
    exact run

end Plan
end ByteRecord
