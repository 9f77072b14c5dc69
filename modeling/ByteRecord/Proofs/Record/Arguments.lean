import Mathlib.Data.List.Sort
import ByteRecord.Proofs.Plan.WellFormed
import ByteRecord.Proofs.Record.Gathered
import ByteRecord.Proofs.Record.Slices

/-! The arguments that the members of a plan make. A list of fields that passes the layout rules has
the positions from zero on, so each of their values stands at its own place among the arguments, and
each name is given once. -/
namespace ByteRecord

section
variable {α : Type} {entries : List (Nat × α)}

/-- Entries under the numbers below their count are sorted to the places of their numbers. -/
theorem keys_of_sorted (keys : (entries.map (·.1)).Perm (List.range n)) :
    (entries.mergeSort fun a b => a.1 ≤ b.1).map (·.1) = List.range n := by
  have sorted : (entries.mergeSort fun a b => a.1 ≤ b.1).map (·.1) =
      (entries.map (·.1)).mergeSort (· ≤ ·) :=
    List.map_mergeSort fun _ _ _ _ => rfl
  rw [sorted]
  exact ((List.mergeSort_perm _ _).trans keys).eq_of_pairwise (fun a b _ _ => Nat.le_antisymm)
    (List.pairwise_mergeSort' _ _) (List.pairwise_lt_range.imp Nat.le_of_lt)

theorem key_of_sorted {entry : Nat × α} {i : Nat}
    (keys : (entries.map (·.1)).Perm (List.range n))
    (here : (entries.mergeSort fun a b => a.1 ≤ b.1)[i]? = some entry) : entry.1 = i := by
  have key := congrArg (·[i]?) (keys_of_sorted keys)
  simp only [List.getElem?_map, here, Option.map_some] at key
  obtain ⟨_, same⟩ := List.getElem?_eq_some_iff.mp key.symm
  rw [← same, List.getElem_range]

theorem getElem?_sorted (keys : (entries.map (·.1)).Perm (List.range n)) :
    ((entries.mergeSort fun a b => a.1 ≤ b.1).map (·.2))[k]? = some value ↔
      (k, value) ∈ entries := by
  rw [List.getElem?_map, Option.map_eq_some_iff]
  constructor
  · rintro ⟨⟨j, other⟩, here, rfl⟩
    obtain rfl : j = k := key_of_sorted keys here
    exact List.mem_mergeSort.mp (List.mem_of_getElem? here)
  · intro present
    obtain ⟨i, here⟩ := List.getElem?_of_mem (List.mem_mergeSort.mpr present)
    obtain rfl : k = i := key_of_sorted keys here
    exact ⟨_, here, rfl⟩

end

/-- A field of one byte of any value. -/
def Field.single (member : Member) : Field :=
  ⟨some member, ⟨[.wildcard], .hex⟩, none, none, none⟩

theorem Field.made_single {members : List Member}
    (free : (members.filterMap Member.name?).all Text.isFreeName = true) :
    ∀ field ∈ members.map Field.single, field.Made := by
  intro field present
  obtain ⟨member, listed, rfl⟩ := List.mem_map.mp present
  have value : IsMemberOf member.toValue (some member) := by
    cases member with
    | name name => exact .name (List.all_eq_true.mp free _ (List.mem_filterMap.mpr ⟨_, listed, rfl⟩))
    | position k => exact .position k
  exact .parts (ofParts_ok_iff.mpr ⟨rfl, _, _, value, .none, nofun, nofun, rfl⟩)

namespace Plan

section
variable {stored : Members} {name : String}

theorem mem_named_iff : (name, value) ∈ named stored ↔ (.name name, value) ∈ stored := by
  simp only [named, List.mem_filterMap, Prod.exists, Option.map_eq_some_iff, Prod.mk.injEq]
  constructor
  · rintro ⟨member, _, present, _, own, rfl, rfl⟩
    cases member with
    | name text =>
      cases own
      exact present
    | position k => cases own
  · exact fun present => ⟨_, _, present, _, rfl, rfl, rfl⟩

theorem named_names : (named stored).map (·.1) = (stored.map (·.1)).filterMap Member.name? := by
  rw [named, List.map_filterMap, List.filterMap_map]
  congr 1
  funext ⟨member, value⟩
  cases member <;> rfl

/-- The values of the positions, each under its number. -/
def numbered (stored : Members) : List (Nat × Value) :=
  stored.filterMap fun (member, value) => member.position?.map fun k => (k, value)

theorem mem_numbered_iff : (k, value) ∈ numbered stored ↔ (.position k, value) ∈ stored := by
  simp only [numbered, List.mem_filterMap, Prod.exists, Option.map_eq_some_iff, Prod.mk.injEq]
  constructor
  · rintro ⟨member, _, present, _, own, rfl, rfl⟩
    cases member with
    | name text => cases own
    | position k =>
      cases own
      exact present
  · exact fun present => ⟨_, _, present, _, rfl, rfl, rfl⟩

theorem numbered_keys :
    (numbered stored).map (·.1) = (stored.map (·.1)).filterMap Member.position? := by
  rw [numbered, List.map_filterMap, List.filterMap_map]
  congr 1
  funext ⟨member, value⟩
  cases member <;> rfl

end

section
variable [Reader ρ] {interpreter : Interpreter σ} {start after : Run σ ρ} {stored : Members}

theorem runFields_members {fields : List Field}
    (read : (runFields interpreter consumed fields).run start = (.ok (.ok stored, total), after)) :
    stored.map (·.1) = fields.filterMap Field.member := by
  obtain ⟨_, gathers⟩ := gathers_of_runFields read
  exact gathers.members

end

theorem runFields_singles (interpreter : Interpreter σ) (members : List Member)
    (data : List UInt8) (enough : data.length = members.length) (world : World σ)
    (buffer : List UInt8) (fits : 1 ≤ buffer.length) (consumed : Nat) :
    ∃ reader buffer', (runFields interpreter consumed (members.map Field.single)).run
        ⟨world, Stream.bytes data, buffer⟩ =
      (.ok (.ok (members.zip (data.map fun byte => .bytes [byte])), consumed + members.length),
        ⟨world, reader, buffer'⟩) := by
  induction members generalizing data buffer consumed with
  | nil => exact ⟨_, _, rfl⟩
  | cons member members ih =>
    obtain ⟨byte, data, rfl⟩ := List.exists_cons_of_length_eq_add_one enough
    have first : (Field.single member).size ≤ (byte :: data).length :=
      Nat.succ_le_succ (Nat.zero_le _)
    obtain ⟨buffer', kept, own⟩ := runField_bytes interpreter world first fits
    obtain ⟨reader, last, later⟩ := ih data (Nat.succ.inj enough) _ (kept ▸ fits) (consumed + 1)
    refine ⟨reader, last, ?_⟩
    have matched : (matchField interpreter (.single member) [byte]).run world =
        (.ok (.ok [(member, .bytes [byte])]), world) := rfl
    have one : (Field.single member).size = 1 := rfl
    rw [List.map_cons, runFields_cons, own, one, List.take_succ_cons, List.take_zero, matched]
    simp only [Except.map, List.drop_succ_cons, List.drop_zero, later, List.map_cons,
      List.zip_cons_cons, List.singleton_append, List.length_cons]
    rw [Nat.add_assoc, Nat.add_comm 1]

/-- A plan of fields of one byte each. -/
def ofSingles (target : Target) (members : List Member) (rest : Option Rest) : Plan where
  target
  fields := members.map .single
  rest
  scope := .empty
  reader := none
  name := .str "singles"

theorem obtained_ofSingles (interpreter : Interpreter σ) {target : Target} {members : List Member}
    {rest : Option Rest} (free : (members.filterMap Member.name?).all Text.isFreeName = true)
    (layout : Layout.check (members.map .single) = .ok ()) (state : σ) :
    Obtained interpreter state (.ofSingles target members rest) state := by
  have fixed : ∀ field ∈ members.map Field.single, field.pattern.deferred = [] := by
    intro field present
    obtain ⟨member, -, rfl⟩ := List.mem_map.mp present
    rfl
  exact .fields (Field.made_single free)
    (run_build layout fixed interpreter target rest .empty none (.str "singles") state)

/-- What a plan passes on for what its fields store: the value of each position at its place, and the
value of each name once, in the order of the fields. -/
structure Passes (plan : Plan) (stored : Members) (arguments : Value.Arguments) : Prop where
  stores : stored.map (·.1) = plan.members
  count : arguments.positional.length = (Layout.positions plan.fields).length
  position : ∀ k value, arguments.positional[k]? = some value ↔ (.position k, value) ∈ stored
  names : arguments.named.map (·.1) = plan.members.filterMap Member.name?
  name : ∀ name value, (name, value) ∈ arguments.named ↔ (.name name, value) ∈ stored
  once : (arguments.named.map (·.1)).Nodup

theorem passes_of_legal {plan : Plan} {stored : Members} (legal : Layout.Legal plan.fields)
    (stores : stored.map (·.1) = plan.members) :
    plan.Passes stored ⟨positional stored, named stored⟩ := by
  have keys : ((numbered stored).map (·.1)).Perm
      (List.range (Layout.positions plan.fields).length) := by
    rw [numbered_keys, stores, members, List.filterMap_filterMap]
    exact legal.numbered
  have names : (named stored).map (·.1) = plan.members.filterMap Member.name? := by
    rw [named_names, stores]
  refine ⟨stores, ?_, fun k value => (getElem?_sorted keys).trans mem_numbered_iff, names,
    fun name value => mem_named_iff, ?_⟩
  · have count := keys.length_eq
    rw [List.length_map, List.length_range] at count
    rw [positional, List.length_map, List.length_mergeSort]
    exact count
  · rw [names]
    refine List.Nodup.filterMap (fun first second name at_first at_second => ?_) legal.distinct
    cases first <;> cases at_first
    cases second <;> cases at_second
    rfl

/-- Fields that are all matched store the values of a legal list of members. -/
theorem passes_of_read [Reader ρ] {interpreter : Interpreter σ} {plan : Plan}
    {start after : Run σ ρ} {stored : Members} {consumed : Nat}
    (layout : Layout.check plan.fields = .ok ())
    (read : (runFields interpreter 0 plan.fields).run start = (.ok (.ok stored, consumed), after)) :
    plan.Passes stored ⟨positional stored, named stored⟩ :=
  passes_of_legal ((Layout.check_ok_iff_legal _).mp layout) (runFields_members read)

end Plan

/-- What a rest comes to: it is there, or it is evaluated. -/
def Rest.outcome (interpreter : Interpreter σ) : Rest → Effect σ Value
  | .expression e => Effect.evaluate interpreter e.code
  | .value given => return given

namespace Plan

/-- Makes the record of a plan from arguments: they are passed to the target, or a rest is filled
with them. -/
def make (interpreter : Interpreter σ) (plan : Plan) (arguments : Value.Arguments) :
    Effect σ Value :=
  match plan.rest with
  | none => construct interpreter plan.target arguments
  | some rest => do
    let rest ← rest.outcome interpreter
    fillFromRest interpreter plan.target rest arguments.positional arguments.named

theorem assemble_eq_make (interpreter : Interpreter σ) (plan : Plan) (stored : Members) :
    plan.assemble interpreter stored =
      plan.make interpreter ⟨positional stored, named stored⟩ := by
  unfold assemble make
  cases plan.rest with
  | none => rfl
  | some rest => cases rest <;> rfl

/-- A record for fields that are all matched is filled in from what the rest comes to. -/
theorem run_of_supplied [Reader ρ] {interpreter : Interpreter σ} {plan : Plan}
    {start after : Run σ ρ} {stored : Members} {consumed : Nat}
    (read : (runFields interpreter 0 plan.fields).run start = (.ok (.ok stored, consumed), after))
    {rest : Rest} (supplies : plan.rest = some rest) {world last : World σ}
    (given : (rest.outcome interpreter).run after.world = (.ok value, world))
    (made : (fillFromRest interpreter plan.target value (positional stored) (named stored)).run
      world = (result, last)) :
    (plan.run interpreter).run start =
      (result.map fun record => ⟨.ok record, consumed⟩, { after with world := last }) := by
  rw [run_eq, read]
  dsimp only
  rw [assemble_eq_make, make, supplies]
  dsimp only
  rw [run_bind, given]
  dsimp only
  rw [made]

/-- The layout rules pass exactly the legal lists of fields. Any other is refused with an error at the
first field that breaks the first broken rule, unless the error would have to show a position of too
many digits: then it is a value failure. So in every plan whose fields are all matched, the value of
each position is passed on at its place and that of each name once, in the order of the fields. -/
theorem layout_exact (interpreter : Interpreter σ) :
    (∀ fields, Layout.check fields = .ok () ↔ Layout.Legal fields) ∧
    (∀ fields fault, Layout.check fields = .error fault →
      ∃ field cause, Layout.Breaks fields field cause ∧
        (cause.isWritable = true ∧ fault = .specification ⟨.layout, cause, field.location, none⟩ ∨
          cause.isWritable = false ∧ fault = .failure .value ∧
            ∃ k ∈ Layout.positions fields, Number.isOverlong k = true)) ∧
    ∀ (plan : Plan) (before later : σ), Obtained interpreter before plan later →
      ∀ {ρ : Type} [Reader ρ] (start after : Run σ ρ) (stored : Members) (consumed : Nat),
        (runFields interpreter 0 plan.fields).run start = (.ok (.ok stored, consumed), after) →
        ∃ arguments, plan.Passes stored arguments ∧
          plan.assemble interpreter stored = plan.make interpreter arguments := by
  refine ⟨Layout.check_ok_iff_legal, fun fields fault refused => ?_, ?_⟩
  · obtain ⟨field, cause, broken, rfl⟩ := Layout.check_refused refused
    refine ⟨field, cause, broken, ?_⟩
    rcases Fault.ofCauseAt_cases field.location .layout cause with written | ⟨unwritable, same⟩
    · exact .inl written
    · refine .inr ⟨unwritable, same, by_contra fun short => ?_⟩
      have writable := broken.isWritable fun k present =>
        Bool.not_eq_true _ ▸ fun long => short ⟨k, present, long⟩
      rw [unwritable] at writable
      cases writable
  · intro plan before later obtained ρ _ start after stored consumed read
    obtain ⟨-, layout, -⟩ := obtained.built
    exact ⟨_, passes_of_read layout read, assemble_eq_make interpreter plan stored⟩

/-- A plan with its two positions in reverse and a name between them. -/
def swapped : Plan :=
  .ofSingles .entries [.position 1, .name "a", .position 0] none

/-- The general statement for that plan and three bytes, and for a list of fields with a gap in its
positions. -/
theorem layout_exact_swapped :
    let start : Run Expr.Counts Stream :=
      ⟨swapped.world .empty fun _ => 0, .bytes [0x01, 0x02, 0x03], swapped.buffer⟩
    let stored : Members := [(.position 1, .bytes [0x01]), (.name "a", .bytes [0x02]),
      (.position 0, .bytes [0x03])]
    let zero : Field := ⟨some (.position 0), ⟨[.exact 0x00], .hex⟩, none, none, some ⟨1, 4⟩⟩
    let two : Field := ⟨some (.position 2), ⟨[.exact 0x01], .hex⟩, none, none, some ⟨1, 13⟩⟩
    (∃ after, (runFields .standard 0 swapped.fields).run start = (.ok (.ok stored, 3), after)) ∧
    (∃ arguments, swapped.Passes stored arguments ∧
      swapped.assemble .standard stored = swapped.make .standard arguments) ∧
    Layout.Legal swapped.fields ∧
    ∃ field cause, Layout.Breaks [zero, two] field cause ∧
      Layout.check [zero, two] =
        .error (.specification ⟨.layout, cause, field.location, none⟩) := by
  intro start stored zero two
  obtain ⟨legal, refused, passed⟩ := layout_exact Interpreter.standard
  obtain ⟨reader, buffer, read⟩ := runFields_singles .standard
    [.position 1, .name "a", .position 0] [0x01, 0x02, 0x03] rfl start.world start.buffer
    (Nat.le_refl 1) 0
  refine ⟨⟨_, read⟩, passed swapped _ _ (obtained_ofSingles .standard rfl rfl fun _ => 0) start _ stored 3 read,
    (legal swapped.fields).mp (by rfl), ?_⟩
  cases checked : Layout.check [zero, two] with
  | ok _ =>
    have numbered : [0, 2].Perm (List.range 2) := ((legal _).mp checked).numbered
    exact absurd numbered (by decide)
  | error fault =>
    obtain ⟨field, cause, broken, ⟨-, rfl⟩ | ⟨-, -, k, present, long⟩⟩ := refused _ _ checked
    · exact ⟨field, cause, broken, rfl⟩
    · have short : ∀ k ∈ ([0, 2] : List Nat), Number.isOverlong k = false := by decide +kernel
      have present : k ∈ [0, 2] := present
      rw [short k present] at long
      cases long

theorem overlong_refused {k : Nat} (long : Number.isOverlong k = true) :
    Layout.check [.single (.position k)] = .error (.failure .value) := by
  have positive : 1 ≤ k := by
    rw [Number.isOverlong, decide_eq_true_iff, Int.natAbs_natCast] at long
    exact Nat.le_trans (Number.tenTo_le (Nat.zero_le _)) long
  have unwritable : (Cause.positionGap 1 [(k : Int)]).isWritable = false := by
    rw [Cause.isWritable, List.any_cons, long]
    rfl
  have gap : Layout.checkPositions [.single (.position k)] =
      .error (.ofCauseAt none .layout (.positionGap 1 [(k : Int)])) := by
    have found : Layout.positions [.single (.position k)] = [k] := rfl
    have first : [Field.single (.position k)].find? (fun field =>
        (field.member.bind Member.position?).any fun j => [k].length ≤ j) =
          some (.single (.position k)) :=
      List.find?_cons_of_pos (Layout.any_position_iff.mpr ⟨k, rfl, positive⟩)
    rw [Layout.checkPositions, found, List.mergeSort_singleton, first]
    rfl
  have passed : Layout.check [.single (.position k)] =
      Layout.checkPositions [.single (.position k)] := rfl
  rw [passed, gap, Fault.ofCauseAt, unwritable]
  rfl

/-- A position of too many digits is refused, and no error says where. -/
theorem overlong_position_escapes :
    let fields := [.position (Number.tenTo Number.maxDecimalDigits)].map Field.single
    (∀ field ∈ fields, field.Made) ∧ Layout.check fields = .error (.failure .value) ∧
      ¬∃ error, Layout.check fields = .error (.specification error) := by
  have long : Number.isOverlong (Number.tenTo Number.maxDecimalDigits : Nat) = true := by
    rw [Number.isOverlong, Int.natAbs_natCast]
    exact decide_eq_true (Nat.le_refl _)
  have refused := overlong_refused long
  refine ⟨Field.made_single rfl, refused, ?_⟩
  rintro ⟨error, located⟩
  cases refused.symm.trans located

end Plan
end ByteRecord
