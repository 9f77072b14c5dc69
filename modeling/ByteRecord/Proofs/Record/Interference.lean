import ByteRecord.Proofs.Record.Alike
import ByteRecord.Proofs.Record.Arguments

/-! Fields do not interfere through the data. What a field is given and what comes of it depends on
its own slice only: two parses of data that differ within one field, which takes either, go the same
way with all others, and the records differ in the value of that member. -/
namespace ByteRecord

/-- Byte strings that are equal but for the slice of one field. -/
structure DifferWithin (fields : List Field) (i : Nat) (data data' : List UInt8) : Prop where
  before : data.take (offset fields i) = data'.take (offset fields i)
  behind : data.drop (offset fields (i + 1)) = data'.drop (offset fields (i + 1))

theorem DifferWithin.slice_eq {fields : List Field} (differ : DifferWithin fields i data data')
    (at_index : fields[j]? = some field) (other : j ≠ i) :
    slice fields data j = slice fields data' j := by
  rcases Nat.lt_or_gt_of_ne other with earlier | later
  · have within := offset_le_offset fields (Nat.succ_le_of_lt earlier)
    rw [slice, slice, ← Nat.min_eq_left within, ← List.take_take, ← List.take_take, differ.before]
  · have within := Nat.add_sub_cancel' (offset_le_offset fields (Nat.succ_le_of_lt later))
    rw [slice_eq_take at_index, slice_eq_take at_index, ← within, ← List.drop_drop,
      ← List.drop_drop, differ.behind]

/-- A pattern accepts bytes and, if the field has a member, its value can be computed. -/
structure Field.Passes (interpreter : Interpreter σ) (world : World σ) (field : Field)
    (raw : List UInt8) : Prop where
  accepted : field.verdict interpreter world raw = .ok true
  stored : field.isMember → ∃ value, field.valueOf interpreter world raw = .ok value

/-- All fields before one are taken, and that one does not pass for its slice. -/
structure StopsAt (interpreter : Interpreter σ) (world : World σ) (fields : List Field)
    (data : List UInt8) (i : Nat) (field : Field) : Prop where
  at_index : fields[i]? = some field
  taken : ∃ values, TakenBefore interpreter world fields data values i
  stops : ¬field.Passes interpreter world (slice fields data i)

def storedAt (interpreter : Interpreter σ) (world : World σ) (fields : List Field)
    (data : List UInt8) (i : Nat) : Value :=
  match fields[i]? with
  | none => .none
  | some field => match field.valueOf interpreter world (slice fields data i) with
    | .ok value => value
    | .error _ => .none

section
variable {interpreter : Interpreter σ} {world : World σ} {fields : List Field} {data : List UInt8}

theorem DifferWithin.storedAt_eq (differ : DifferWithin fields i data data') (other : j ≠ i) :
    storedAt interpreter world fields data j = storedAt interpreter world fields data' j := by
  unfold storedAt
  cases at_index : fields[j]? with
  | none => rfl
  | some field => rw [differ.slice_eq at_index other]

theorem Field.Passes.taken (at_index : fields[i]? = some field)
    (enough : offset fields (i + 1) ≤ data.length)
    (passes : field.Passes interpreter world (slice fields data i)) :
    Taken interpreter world fields data (storedAt interpreter world fields data) i field := by
  refine ⟨enough, passes.accepted, fun member => ?_⟩
  obtain ⟨value, stored⟩ := passes.stored member
  simp only [storedAt, at_index, stored]

/-- As many fields as take one of the byte strings take the other. -/
theorem DifferWithin.takenBefore {data' : List UInt8} (differ : DifferWithin fields i data data')
    (long' : offset fields fields.length ≤ data'.length) (at_index : fields[i]? = some field)
    (passes' : field.Passes interpreter world (slice fields data' i))
    (taken : TakenBefore interpreter world fields data values n) :
    TakenBefore interpreter world fields data' (storedAt interpreter world fields data') n := by
  intro j other below here
  have enough : offset fields (j + 1) ≤ data'.length :=
    Nat.le_trans (offset_le_offset fields (List.getElem?_eq_some_iff.mp here).1) long'
  by_cases same : j = i
  · subst same
    cases at_index.symm.trans here
    exact passes'.taken here enough
  · have own := taken j other below here
    have passes : other.Passes interpreter world (slice fields data j) :=
      ⟨own.accepted, fun member => ⟨_, own.stored member⟩⟩
    rw [differ.slice_eq here same] at passes
    exact passes.taken here enough

variable (interpreter world data) in
/-- All fields are taken, or there is a first one that finds too few bytes or does not pass. -/
theorem taken_or_missed (fields : List Field) :
    TakenBefore interpreter world fields data (storedAt interpreter world fields data)
      fields.length ∨
    ∃ i field, fields[i]? = some field ∧
      TakenBefore interpreter world fields data (storedAt interpreter world fields data) i ∧
      (offset fields (i + 1) ≤ data.length →
        ¬field.Passes interpreter world (slice fields data i)) := by
  have upto (n : Nat) (within : n ≤ fields.length) :
      TakenBefore interpreter world fields data (storedAt interpreter world fields data) n ∨
      ∃ i field, fields[i]? = some field ∧
        TakenBefore interpreter world fields data (storedAt interpreter world fields data) i ∧
        (offset fields (i + 1) ≤ data.length →
          ¬field.Passes interpreter world (slice fields data i)) := by
    induction n with
    | zero => exact .inl fun i field none => absurd none (Nat.not_lt_zero i)
    | succ n ih =>
      rcases ih (Nat.le_of_succ_le within) with taken | stopped
      · have at_index : fields[n]? = some fields[n] := List.getElem?_eq_getElem within
        by_cases passes : offset fields (n + 1) ≤ data.length ∧
            fields[n].Passes interpreter world (slice fields data n)
        · refine .inl fun i field below here => ?_
          rcases Nat.lt_succ_iff_lt_or_eq.mp below with earlier | rfl
          · exact taken i field earlier here
          · cases at_index.symm.trans here
            exact passes.2.taken at_index passes.1
        · exact .inr ⟨n, fields[n], at_index, taken, fun enough own => passes ⟨enough, own⟩⟩
      · exact .inr stopped
  exact upto fields.length (Nat.le_refl _)

variable (interpreter world) in
/-- Data that is long enough is taken by all fields, or there is a first field that does not pass. -/
theorem taken_or_stops (long : offset fields fields.length ≤ data.length) :
    TakenBefore interpreter world fields data (storedAt interpreter world fields data)
      fields.length ∨
    ∃ i field, fields[i]? = some field ∧
      TakenBefore interpreter world fields data (storedAt interpreter world fields data) i ∧
      ¬field.Passes interpreter world (slice fields data i) := by
  refine (taken_or_missed interpreter world data fields).imp_right ?_
  rintro ⟨i, field, at_index, taken, stops⟩
  have within := offset_le_offset fields (List.getElem?_eq_some_iff.mp at_index).1
  exact ⟨i, field, at_index, taken, stops (Nat.le_trans within long)⟩

end

namespace Plan

/-- The names, or the positions, among the members, each with the index of its field. -/
def places {key : Type} (part : Member → Option key) (fields : List Field) : List (key × Nat) :=
  fields.zipIdx.filterMap fun (field, i) => (field.member.bind part).map (·, i)

section
variable {key : Type} {part : Member → Option key} {fields : List Field} {values : Nat → Value}

theorem mem_places {name : key} : (name, i) ∈ places part fields ↔
    ∃ field, fields[i]? = some field ∧ field.member.bind part = some name := by
  simp only [places, List.mem_filterMap, List.mem_zipIdx_iff_getElem?, Prod.exists,
    Option.map_eq_some_iff, Prod.mk.injEq]
  constructor
  · rintro ⟨field, j, at_index, other, own, rfl, rfl⟩
    exact ⟨field, at_index, own⟩
  · rintro ⟨field, at_index, own⟩
    exact ⟨field, i, at_index, name, own, rfl, rfl⟩

theorem places_keys : (places part fields).map (·.1) =
    fields.filterMap fun field => field.member.bind part := by
  have all : fields = fields.zipIdx.map (·.1) := by simp
  rw [places, List.map_filterMap]
  nth_rewrite 2 [all]
  rw [List.filterMap_map]
  congr 1
  funext ⟨field, i⟩
  dsimp only [Function.comp]
  cases field.member.bind part <;> rfl

theorem membersOf_filterMap :
    (membersOf fields values).filterMap (fun (member, value) => (part member).map (·, value)) =
      (places part fields).map fun (name, i) => (name, values i) := by
  rw [membersOf, places, List.filterMap_filterMap, List.map_filterMap]
  congr 1
  funext entry
  obtain ⟨field, i⟩ := entry
  dsimp only
  cases field.member with
  | none => rfl
  | some member =>
    dsimp only [Option.map_some, Option.bind_some]
    cases part member <;> rfl

theorem named_membersOf : named (membersOf fields values) =
    (places Member.name? fields).map fun (name, i) => (name, values i) :=
  membersOf_filterMap

/-- The positions in ascending order, each with the index of its field. -/
def sortedPlaces (fields : List Field) : List (Nat × Nat) :=
  (places Member.position? fields).mergeSort fun a b => a.1 ≤ b.1

theorem positional_membersOf : positional (membersOf fields values) =
    (sortedPlaces fields).map fun (_, i) => values i := by
  have sorted (found : List (Nat × Nat)) :
      (found.mergeSort fun a b => a.1 ≤ b.1).map (fun (k, i) => (k, values i)) =
        (found.map fun (k, i) => (k, values i)).mergeSort (fun a b => a.1 ≤ b.1) :=
    List.map_mergeSort fun _ _ _ _ => rfl
  simp only [positional, sortedPlaces]
  rw [membersOf_filterMap, ← sorted, List.map_map]
  rfl

theorem membersOf_skipped {values' : Nat → Value} (at_index : fields[i]? = some field)
    (skipped : field.member = none) (same : ∀ j, j ≠ i → values j = values' j) :
    membersOf fields values = membersOf fields values' := by
  refine List.filterMap_congr fun place present => ?_
  obtain ⟨own, j⟩ := place
  have here : fields[j]? = some own := List.mem_zipIdx_iff_getElem?.mp present
  dsimp only
  by_cases other : j = i
  · subst other
    cases at_index.symm.trans here
    rw [skipped]
    rfl
  · rw [same j other]

theorem membersOf_alike {values' : Nat → Value} (filled : Layout.PositionsFilled fields)
    (distinct : (fields.filterMap Field.member).Nodup) (at_index : fields[i]? = some field)
    (same : ∀ j, j ≠ i → values j = values' j) :
    Value.Arguments.AlikeBut field.member
      ⟨positional (membersOf fields values), named (membersOf fields values)⟩
      ⟨positional (membersOf fields values'), named (membersOf fields values')⟩ := by
  have equal {key : Type} {part : Member → Option key} {name : key} {j : Nat}
      (placed : (name, j) ∈ places part fields) (other : field.member.bind part ≠ some name) :
      values j = values' j := by
    obtain ⟨own, here, named⟩ := mem_places.mp placed
    apply same j
    rintro rfl
    cases at_index.symm.trans here
    exact other named
  refine ⟨?_, fun k other => ?_, ?_⟩
  · simp only [positional_membersOf, List.length_map]
  · simp only [positional_membersOf, List.getElem?_map]
    cases here : (sortedPlaces fields)[k]? with
    | none => rfl
    | some place =>
      obtain ⟨position, j⟩ := place
      have keys : ((places Member.position? fields).map (·.1)).Perm
          (List.range (Layout.positions fields).length) := by
        rw [places_keys]
        exact Layout.positions_perm_range filled distinct
      obtain rfl : position = k := key_of_sorted keys here
      have placed : (position, j) ∈ places Member.position? fields :=
        (List.mergeSort_perm _ _).mem_iff.mp (List.mem_of_getElem? here)
      rw [Option.map_some, Option.map_some, equal placed ?_]
      intro given
      obtain ⟨member, own, part⟩ := Option.bind_eq_some_iff.mp given
      cases member with
      | name text => cases part
      | position k =>
        cases part
        exact other own
  · simp only [named_membersOf]
    refine List.forall₂_map_left_iff.mpr (List.forall₂_map_right_iff.mpr ?_)
    exact List.forall₂_same.mpr fun place placed => ⟨rfl, fun other => equal placed other⟩

end
section
variable {interpreter : Interpreter σ} {plan : Plan} {names : Scope} {state : σ}
  {data : List UInt8}

/-- A field that does not pass fails or is a mismatch. -/
theorem matchField_of_not_passes {world : World σ} {field : Field}
    (free : field.SideEffectFree interpreter world) (stops : ¬field.Passes interpreter world raw) :
    ∃ stop : Except Fault ParseError,
      (matchField interpreter field raw).run world = (stop.map .error, world) ∧
      ∀ error, stop = .ok error → error = .mismatch field raw := by
  rw [matchField_run free]
  cases verdict : field.verdict interpreter world raw with
  | error fault => exact ⟨.error fault, rfl, fun _ => nofun⟩
  | ok accepted =>
    cases accepted with
    | false => exact ⟨.ok (.mismatch field raw), rfl, fun _ same => (Except.ok.inj same).symm⟩
    | true =>
      cases member : field.member with
      | none =>
        refine absurd ⟨verdict, fun isMember => ?_⟩ stops
        rw [Field.isMember, member] at isMember
        cases isMember
      | some own =>
        cases value : field.valueOf interpreter world raw with
        | error fault => exact ⟨.error fault, rfl, fun _ => nofun⟩
        | ok value' => exact absurd ⟨verdict, fun _ => ⟨value', value⟩⟩ stops

theorem parseBytes_stops (free : plan.SideEffectFree interpreter (plan.world names state))
    (at_index : plan.fields[i]? = some field)
    (taken : TakenBefore interpreter (plan.world names state) plan.fields data values i)
    (enough : offset plan.fields (i + 1) ≤ data.length) {stop : Except Fault ParseError}
    (matched : (matchField interpreter field (slice plan.fields data i)).run
      (plan.world names state) = (stop.map .error, plan.world names state)) :
    (plan.parseBytes interpreter names data).run state =
      (stop.map fun error => ⟨.error error, offset plan.fields (i + 1)⟩, state) := by
  have fits : ∀ field ∈ plan.fields, field.size ≤ plan.buffer.length := fun _ => size_le_buffer
  obtain ⟨buffer', kept, run⟩ := runFields_reach at_index free.fields taken fits
  have next := offset_succ at_index
  have left : (data.drop (offset plan.fields i)).length = data.length - offset plan.fields i :=
    List.length_drop
  obtain ⟨buffer'', -, own⟩ := runField_bytes interpreter (plan.world names state)
    (show field.size ≤ (data.drop (offset plan.fields i)).length by omega)
    (kept ▸ fits field (List.mem_of_getElem? at_index))
  rw [← slice_eq_take at_index, matched] at own
  cases stop with
  | error fault =>
    simp only [runFields_cons, own, Except.map] at run
    simp only [parseBytes, ExceptT.run_mk, parseStream, run_eq, run]
    rfl
  | ok error =>
    simp only [runFields_cons, own, Except.map, ← next] at run
    exact parseBytes_stopped run

theorem parseBytes_taken (free : plan.SideEffectFree interpreter (plan.world names state))
    (taken : TakenBefore interpreter (plan.world names state) plan.fields data values
      plan.fields.length) :
    (plan.parseBytes interpreter names data).run state =
      let (made, world) := (plan.assemble interpreter (membersOf plan.fields values)).run
        (plan.world names state)
      (made.map fun record => ⟨.ok record, plan.size⟩, world.state) := by
  have fits : ∀ field ∈ plan.fields, field.size ≤ plan.buffer.length := fun _ => size_le_buffer
  obtain ⟨buffer', -, run⟩ := runFields_taken plan.fields [] values 0 free.fields taken fits
  simp only [List.append_nil, Nat.zero_add, runFields_nil, Except.map] at run
  simp only [parseBytes, ExceptT.run_mk, parseStream, run_eq, run, ← plan.size_eq_offset]
  rfl

/-- Two parses of as many bytes as the plan has, which differ in the slice of one field that passes
for either, go the same way. If another field does not pass, it is the same one for both, and the
parses are equal. Otherwise all fields store the same but for that one; the arguments by position and
by name are the same but for the value of its member, and so is what the rest and the target are given
to make of them. Without a member the parses are equal. -/
theorem parseBytes_differWithin {data' : List UInt8}
    (obtained : Obtained interpreter before plan after)
    (free : plan.SideEffectFree interpreter (plan.world names state))
    (size : data.length = plan.size) (size' : data'.length = plan.size)
    (at_index : plan.fields[i]? = some field) (differ : DifferWithin plan.fields i data data')
    (passes : field.Passes interpreter (plan.world names state) (slice plan.fields data i))
    (passes' : field.Passes interpreter (plan.world names state) (slice plan.fields data' i)) :
    let world := plan.world names state
    let parse (data : List UInt8) := (plan.parseBytes interpreter names data).run state
    let assembled (values : Nat → Value) :=
      (plan.assemble interpreter (membersOf plan.fields values)).run world
    let arguments (values : Nat → Value) : Value.Arguments :=
      ⟨positional (membersOf plan.fields values), named (membersOf plan.fields values)⟩
    ((∃ j other, j ≠ i ∧ StopsAt interpreter world plan.fields data j other ∧
        StopsAt interpreter world plan.fields data' j other ∧ parse data = parse data' ∧
        ((∃ fault, parse data = (.error fault, state)) ∨
          parse data = (.ok ⟨.error (.mismatch other (slice plan.fields data j)),
            offset plan.fields (j + 1)⟩, state))) ∨
      ∃ values values', (∀ j, j ≠ i → values j = values' j) ∧
        TakenBefore interpreter world plan.fields data values plan.fields.length ∧
        TakenBefore interpreter world plan.fields data' values' plan.fields.length ∧
        (arguments values).AlikeBut field.member (arguments values') ∧
        MadeAlike interpreter plan.target world field.member (assembled values)
          (assembled values') ∧
        parse data = ((assembled values).1.map fun record => ⟨.ok record, plan.size⟩,
          (assembled values).2.state) ∧
        parse data' = ((assembled values').1.map fun record => ⟨.ok record, plan.size⟩,
          (assembled values').2.state)) ∧
    (field.member = none → parse data = parse data') := by
  intro world parse assembled arguments
  have long : offset plan.fields plan.fields.length ≤ data.length :=
    Nat.le_of_eq (size ▸ plan.size_eq_offset.symm)
  have long' : offset plan.fields plan.fields.length ≤ data'.length :=
    Nat.le_of_eq (size' ▸ plan.size_eq_offset.symm)
  rcases taken_or_stops interpreter world long with taken | ⟨j, other, here, taken, stops⟩
  · have taken' := differ.takenBefore long' at_index passes' taken
    have same (j : Nat) (other : j ≠ i) : storedAt interpreter world plan.fields data j =
        storedAt interpreter world plan.fields data' j := differ.storedAt_eq other
    obtain ⟨-, layout, -⟩ := obtained.built
    obtain ⟨-, distinct, filled⟩ := (Layout.check_ok_iff plan.fields).mp layout
    have alike := membersOf_alike filled distinct at_index same
    have parsed := parseBytes_taken free taken
    have parsed' := parseBytes_taken free taken'
    refine ⟨.inr ⟨_, _, same, taken, taken', alike, assemble_alike interpreter world alike free,
      parsed, parsed'⟩, fun skipped => ?_⟩
    rw [← membersOf_skipped at_index skipped same] at parsed'
    exact parsed.trans parsed'.symm
  · have different : j ≠ i := by
      rintro rfl
      cases at_index.symm.trans here
      exact stops passes
    have taken' := differ.takenBefore long' at_index passes' taken
    have enough := offset_le_offset plan.fields (List.getElem?_eq_some_iff.mp here).1
    have raw := differ.slice_eq here different
    obtain ⟨stop, matched, mismatch⟩ :=
      matchField_of_not_passes (free.fields other (List.mem_of_getElem? here)) stops
    have parsed := parseBytes_stops free here taken (Nat.le_trans enough long) matched
    have parsed' := parseBytes_stops free here taken' (Nat.le_trans enough long') (raw ▸ matched)
    have equal : parse data = parse data' := parsed.trans parsed'.symm
    refine ⟨.inl ⟨j, other, different, ⟨here, ⟨_, taken⟩, stops⟩, ⟨here, ⟨_, taken'⟩, raw ▸ stops⟩,
      equal, ?_⟩, fun _ => equal⟩
    cases stop with
    | error fault => exact .inl ⟨fault, parsed⟩
    | ok error =>
      cases mismatch error rfl
      exact .inr parsed

end
def stepping : Plan where
  target := .entries
  fields := [⟨none, ⟨[.wildcard], .hex⟩, none, none, none⟩,
    ⟨some (.position 0), ⟨[.wildcard], .hex⟩, none, some (.function (.builtin .len)), none⟩]
  rest := none
  scope := .empty
  reader := none
  name := .str "stepping"

/-- The general statement for the byte that is stepped over. -/
theorem parseBytes_differWithin_stepping :
    Obtained .standard (fun _ => 0) stepping (fun _ => 0) ∧
    stepping.SideEffectFree .standard (stepping.world .empty fun _ => 0) ∧
    DifferWithin stepping.fields 0 [0x07, 0x01] [0x08, 0x01] ∧
    (stepping.parseBytes .standard .empty [0x07, 0x01]).run (fun _ => 0) =
      (stepping.parseBytes .standard .empty [0x08, 0x01]).run (fun _ => 0) := by
  have skip : Field.skip (.value (.str "__")) = .ok ⟨none, ⟨[.wildcard], .hex⟩, none, none, none⟩ :=
    rfl
  have bound : Field.bound (.int 0) (.value (.str "__")) (some (.function (.builtin .len))) .none =
      .ok ⟨some (.position 0), ⟨[.wildcard], .hex⟩, none, some (.function (.builtin .len)), none⟩ :=
    rfl
  have made : ∀ field ∈ stepping.fields, Field.Made field :=
    List.forall_mem_cons.mpr ⟨.skip skip, List.forall_mem_singleton.mpr (.bound bound)⟩
  have built : (build .standard stepping.target stepping.fields none stepping.scope none
      stepping.name).run (fun _ => 0) = (.ok stepping, fun _ => 0) := rfl
  have free : stepping.SideEffectFree .standard (stepping.world .empty fun _ => 0) := by
    refine ⟨List.forall_mem_cons.mpr ⟨⟨nofun, fun _ => rfl⟩,
      List.forall_mem_singleton.mpr ⟨nofun, fun _ => rfl⟩⟩, nofun, nofun, nofun⟩
  have differ : DifferWithin stepping.fields 0 [0x07, 0x01] [0x08, 0x01] := ⟨rfl, rfl⟩
  exact ⟨.fields made built, free, differ, (parseBytes_differWithin (.fields made built) free rfl rfl
    rfl differ ⟨rfl, nofun⟩ ⟨rfl, nofun⟩).2 rfl⟩

end Plan
end ByteRecord
