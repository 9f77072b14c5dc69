import ByteRecord.Proofs.Record.Alike
import ByteRecord.Proofs.Record.Arguments
import ByteRecord.Proofs.Record.Making

/-! A record that is filled in from another one. Each member means a part of the record, a name that
part and a position the part at its place; the value of a member goes to the part that it means, and
all other parts are kept. -/
namespace ByteRecord.Plan

/-- The members can fill in a record: every name is a part of it, and no two members mean the same
part. A position behind the last part means none. -/
structure Fillable (parts : List String) (members : List Member) : Prop where
  known : ∀ name, .name name ∈ members → name ∈ parts
  apart : ∀ first ∈ members, ∀ second ∈ members, ∀ part, partOf parts first = some part →
    partOf parts second = some part → first = second

/-- The parts of a record with the value of each member in the part that it means. -/
structure Filled (stored : Members) (parts made : List (String × Value)) : Prop where
  names : made.map (·.1) = parts.map (·.1)
  declared : ∀ member value part, (member, value) ∈ stored →
    partOf (parts.map (·.1)) member = some part → (part, value) ∈ made
  kept : ∀ part value, (part, value) ∈ parts →
    (∀ member ∈ stored.map (·.1), partOf (parts.map (·.1)) member ≠ some part) →
    (part, value) ∈ made

section
variable {plan : Plan} {stored : Members} {arguments : Value.Arguments} {names : List String}
  {name part : String}

theorem Passes.unique (passes : plan.Passes stored arguments) (first : (member, value) ∈ stored)
    (second : (member, value') ∈ stored) : value = value' := by
  cases member with
  | name name =>
    have first := (passes.name name value).mpr first
    have second := (passes.name name value').mpr second
    have same := List.inj_on_of_nodup_map passes.once first second rfl
    exact (Prod.mk.inj same).2
  | position k =>
    have first := (passes.position k value).mpr first
    have second := (passes.position k value').mpr second
    rw [first] at second
    exact Option.some.inj second

theorem Passes.mem_members (passes : plan.Passes stored arguments) :
    member ∈ plan.members ↔ ∃ value, (member, value) ∈ stored := by
  rw [← passes.stores, List.mem_map]
  constructor
  · rintro ⟨⟨_, value⟩, present, rfl⟩
    exact ⟨value, present⟩
  · rintro ⟨value, present⟩
    exact ⟨_, present, rfl⟩

/-- The values by position, under the names of the parts, are those of the positions that mean a
part. -/
theorem Passes.mem_zip (passes : plan.Passes stored arguments) :
    (part, value) ∈ names.zip arguments.positional ↔
      ∃ k, (.position k, value) ∈ stored ∧ names[k]? = some part := by
  rw [List.mem_iff_getElem?]
  simp only [List.getElem?_zip_eq_some, passes.position]
  exact exists_congr fun k => and_comm

theorem Passes.mem_changed (passes : plan.Passes stored arguments) :
    (part, value) ∈ names.zip arguments.positional ++ arguments.named ↔
      ∃ member, (member, value) ∈ stored ∧ partOf names member = some part := by
  rw [List.mem_append, passes.mem_zip, passes.name]
  constructor
  · rintro (⟨k, present, named⟩ | present)
    · exact ⟨_, present, named⟩
    · exact ⟨_, present, rfl⟩
  · rintro ⟨member, present, means⟩
    cases member with
    | name name =>
      cases means
      exact .inr present
    | position k => exact .inl ⟨k, present, means⟩

theorem Passes.changes_eq (passes : plan.Passes stored arguments) :
    (changes names arguments.positional arguments.named = .error .type ∧
        ∃ k name, .position k ∈ plan.members ∧ .name name ∈ plan.members ∧
          names[k]? = some name) ∨
      (changes names arguments.positional arguments.named =
          .ok (names.zip arguments.positional ++ arguments.named) ∧
        ∀ k name, .position k ∈ plan.members → .name name ∈ plan.members →
          names[k]? ≠ some name) := by
  have clash : (arguments.named.any fun entry =>
        (names.zip arguments.positional).any (·.1 == entry.1)) = true ↔
      ∃ k name, .position k ∈ plan.members ∧ .name name ∈ plan.members ∧
        names[k]? = some name := by
    simp only [List.any_eq_true, beq_iff_eq]
    constructor
    · rintro ⟨⟨name, value⟩, own, ⟨part, other⟩, placed, rfl⟩
      obtain ⟨k, present, means⟩ := passes.mem_zip.mp placed
      exact ⟨k, part, passes.mem_members.mpr ⟨_, present⟩,
        passes.mem_members.mpr ⟨_, (passes.name part value).mp own⟩, means⟩
    · rintro ⟨k, name, first, second, means⟩
      obtain ⟨other, placed⟩ := passes.mem_members.mp first
      obtain ⟨value, own⟩ := passes.mem_members.mp second
      exact ⟨⟨name, value⟩, (passes.name name value).mpr own, ⟨name, other⟩,
        passes.mem_zip.mpr ⟨k, placed, means⟩, rfl⟩
  unfold changes
  dsimp only
  split
  · next twice => exact .inl ⟨rfl, clash.mp twice⟩
  · next apart =>
    refine .inr ⟨rfl, fun k name first second means => apart (clash.mpr ?_)⟩
    exact ⟨k, name, first, second, means⟩

/-- Members that mean parts can fill in a record, unless a name is also the part of a position. -/
theorem fillable_iff {members : List Member} (distinct : names.Nodup) :
    Fillable names members ↔ (∀ name, .name name ∈ members → name ∈ names) ∧
      ∀ k name, .position k ∈ members → .name name ∈ members → names[k]? ≠ some name := by
  constructor
  · rintro ⟨known, apart⟩
    refine ⟨known, fun k name first second means => ?_⟩
    cases apart _ first _ second name means rfl
  · rintro ⟨known, apart⟩
    refine ⟨known, fun first present second present' part means means' => ?_⟩
    cases first with
    | name name =>
      cases means
      cases second with
      | name name' =>
        cases means'
        rfl
      | position k => exact absurd means' (apart k part present' present)
    | position k =>
      cases second with
      | name name' =>
        cases means'
        exact absurd means (apart k part present present')
      | position j =>
        obtain ⟨within, -⟩ := List.getElem?_eq_some_iff.mp means
        rw [(List.getElem?_inj within distinct).mp (means.trans means'.symm)]

theorem Fillable.mem_parts {members : List Member} (fillable : Fillable names members)
    (present : member ∈ members) (means : partOf names member = some part) : part ∈ names := by
  cases member with
  | name name =>
    cases means
    exact fillable.known part present
  | position k => exact List.mem_of_getElem? means

theorem mem_replaced {parts changed made : List (String × Value)}
    (replaced : Value.replaceParts parts changed = .ok made) (here : (part, old) ∈ parts) :
    (part, ((changed.find? (·.1 == part)).map (·.2)).getD old) ∈ made := by
  unfold Value.replaceParts at replaced
  split at replaced
  · cases replaced
    exact List.mem_map.mpr ⟨_, here, rfl⟩
  · cases replaced

theorem filled_of_changes {parts : List (String × Value)} (passes : plan.Passes stored arguments)
    (fillable : Fillable (parts.map (·.1)) plan.members) :
    ∃ made, Filled stored parts made ∧ Value.replaceParts parts
      ((parts.map (·.1)).zip arguments.positional ++ arguments.named) = .ok made := by
  have all_known : (((parts.map (·.1)).zip arguments.positional ++ arguments.named).all
      fun change => parts.any (·.1 == change.1)) = true := by
    simp only [List.all_eq_true, List.any_eq_true, beq_iff_eq]
    rintro ⟨name, value⟩ changed
    obtain ⟨member, present, means⟩ := passes.mem_changed.mp changed
    exact List.mem_map.mp (fillable.mem_parts (passes.mem_members.mpr ⟨_, present⟩) means)
  have replaced : Value.replaceParts parts _ = .ok _ := if_pos all_known
  refine ⟨_, ⟨?_, ?_, ?_⟩, replaced⟩
  · rw [List.map_map]
    rfl
  · intro member value part present means
    have declared := passes.mem_members.mpr ⟨value, present⟩
    obtain ⟨⟨_, old⟩, here, rfl⟩ := List.mem_map.mp (fillable.mem_parts declared means)
    have given := mem_replaced replaced here
    -- no other member means this part, so the change that is found is the one of the member
    rw [find?_of_unique (passes.mem_changed.mpr ⟨member, present, means⟩) fun other changed => ?_]
      at given
    · exact given
    · obtain ⟨second, present', means'⟩ := passes.mem_changed.mp changed
      have declared' := passes.mem_members.mpr ⟨other, present'⟩
      obtain rfl := fillable.apart member declared second declared' _ means means'
      exact passes.unique present' present
  · intro part value here spared
    have given := mem_replaced replaced here
    rw [List.find?_eq_none.mpr fun entry changed found => ?_] at given
    · exact given
    · obtain ⟨_, other⟩ := entry
      obtain rfl := eq_of_beq found
      obtain ⟨member, present, means⟩ := passes.mem_changed.mp changed
      exact spared member (List.mem_map_of_mem present) means

theorem refused_of_changes {parts : List (String × Value)} (passes : plan.Passes stored arguments)
    (unknown : .name name ∈ plan.members) (absent : name ∉ parts.map (·.1)) :
    Value.replaceParts parts ((parts.map (·.1)).zip arguments.positional ++ arguments.named) =
      .error .value := by
  refine if_neg fun known => absent ?_
  obtain ⟨value, present⟩ := passes.mem_members.mp unknown
  have changed := List.all_eq_true.mp known _ (passes.mem_changed.mpr ⟨_, present, rfl⟩)
  obtain ⟨part, here, same⟩ := List.any_eq_true.mp changed
  exact List.mem_map.mpr ⟨part, here, eq_of_beq same⟩

theorem run_fillFromRest_tuple (interpreter : Interpreter σ) (target : Target) (world : World σ)
    {t : Value.RecordType} (tuple : t.kind = .tuple) (parts : List (String × Value))
    (args : List Value) (own : List (String × Value)) :
    (fillFromRest interpreter target (.record t parts) args own).run world =
      (match changes (parts.map (·.1)) args own with
        | .error failure => .error (.failure failure)
        | .ok changed => match Value.replaceParts parts changed with
          | .error failure => .error (.failure failure)
          | .ok made => .ok (.record t made),
        world) := by
  rw [fillFromRest, tuple, run_bind, run_lift]
  cases changes (parts.map (·.1)) args own with
  | error failure => rfl
  | ok changed =>
    dsimp only [Effect.ofResult, Except.mapError]
    cases Value.replaceParts parts changed <;> rfl

theorem run_fillFromRest_plain (interpreter : Interpreter σ) (target : Target) (world : World σ)
    {t : Value.RecordType} (plain : t.kind = .plain) (parts : List (String × Value))
    (args : List Value) (own : List (String × Value)) :
    (fillFromRest interpreter target (.record t parts) args own).run world =
      match changes (parts.map (·.1)) args own with
      | .error failure => (.error (.failure failure), world)
      | .ok changed =>
        (Effect.call interpreter (.type (.record t)) (copyArguments parts changed)).run world := by
  rw [fillFromRest, plain, run_bind, run_lift]
  cases changes (parts.map (·.1)) args own <;> rfl

theorem mem_spared {parts changed : List (String × Value)} {part : String} {value : Value} :
    (part, value) ∈ parts.filter (fun entry => !changed.any (·.1 == entry.1)) ↔
      (part, value) ∈ parts ∧ part ∉ changed.map (·.1) := by
  rw [List.mem_filter, Bool.not_eq_true', List.any_eq_false, List.mem_map]
  simp only [beq_iff_eq, not_exists, not_and]

/-- A copy gives a value to every part. -/
theorem copyArguments_all (parts changed : List (String × Value)) {part : String}
    (known : part ∈ parts.map (·.1)) :
    part ∈ (copyArguments parts changed).named.map (·.1) := by
  obtain ⟨⟨name, value⟩, here, rfl⟩ := List.mem_map.mp known
  rw [copyArguments, List.map_append, List.mem_append]
  by_cases given : name ∈ changed.map (·.1)
  · exact .inl given
  · exact .inr (List.mem_map_of_mem (mem_spared.mpr ⟨here, given⟩))

theorem names_changed (passes : plan.Passes stored arguments) (distinct : names.Nodup)
    (apart : ∀ k name, .position k ∈ plan.members → .name name ∈ plan.members →
      names[k]? ≠ some name) :
    ((names.zip arguments.positional ++ arguments.named).map (·.1)).Nodup := by
  rw [List.map_append]
  refine List.nodup_append.mpr ⟨?_, passes.once, ?_⟩
  · rw [List.zip_eq_zip_take_min, List.map_fst_zip (by simp)]
    exact distinct.sublist (List.take_sublist _ _)
  · rintro name placed _ own rfl
    obtain ⟨⟨_, value⟩, here, rfl⟩ := List.mem_map.mp placed
    obtain ⟨⟨_, other⟩, there, same⟩ := List.mem_map.mp own
    obtain ⟨k, present, means⟩ := passes.mem_zip.mp here
    obtain rfl : _ = _ := same
    exact apart k _ (passes.mem_members.mpr ⟨_, present⟩)
      (passes.mem_members.mpr ⟨_, (passes.name _ _).mp there⟩) means

/-- The arguments for a copy give each part its changed value, or else the one that it had. -/
theorem filled_of_copy {parts : List (String × Value)} (passes : plan.Passes stored arguments)
    (distinct : (parts.map (·.1)).Nodup) (fillable : Fillable (parts.map (·.1)) plan.members) :
    ∃ values, (copyArguments parts ((parts.map (·.1)).zip arguments.positional ++
        arguments.named)).bind (parts.map (·.1)) (parts.map (·.1)).length 0
          (parts.map (·.1)).length = .ok values ∧
      Filled stored parts (partsOf (parts.map (·.1)) values) := by
  have apart := ((fillable_iff distinct).mp fillable).2
  have covers : (copyArguments parts ((parts.map (·.1)).zip arguments.positional ++
      arguments.named)).Covers (parts.map (·.1)) := by
    refine ⟨Nat.zero_le _, ?_, fun _ => copyArguments_all _ _⟩
    rintro ⟨part, value⟩ here
    rcases List.mem_append.mp here with changed | spared
    · obtain ⟨member, present, means⟩ := passes.mem_changed.mp changed
      exact fillable.mem_parts (passes.mem_members.mpr ⟨value, present⟩) means
    · exact List.mem_map_of_mem (List.mem_filter.mp spared).1
  have once : ((copyArguments parts ((parts.map (·.1)).zip arguments.positional ++
      arguments.named)).named.map (·.1)).Nodup := by
    rw [copyArguments, List.map_append]
    refine List.nodup_append.mpr ⟨names_changed passes distinct apart,
      distinct.sublist (List.filter_sublist.map _), ?_⟩
    rintro name changed _ spared rfl
    obtain ⟨⟨_, value⟩, here, rfl⟩ := List.mem_map.mp spared
    exact (mem_spared.mp here).2 changed
  obtain ⟨values, bound, names_kept, -, given⟩ := bind_covers covers once
  refine ⟨values, bound, names_kept, ?_, ?_⟩
  · intro member value part present means
    exact given _ (List.mem_append_left _ (passes.mem_changed.mpr ⟨member, present, means⟩))
  · intro part value here spared
    refine given _ (List.mem_append_right _ (mem_spared.mpr ⟨here, fun changed => ?_⟩))
    obtain ⟨⟨_, other⟩, there, rfl⟩ := List.mem_map.mp changed
    obtain ⟨member, present, means⟩ := passes.mem_changed.mp there
    exact spared member (List.mem_map_of_mem present) means

theorem refused_of_copy {parts : List (String × Value)} (passes : plan.Passes stored arguments)
    (unknown : .name name ∈ plan.members) (absent : name ∉ parts.map (·.1)) :
    (copyArguments parts ((parts.map (·.1)).zip arguments.positional ++ arguments.named)).bind
      (parts.map (·.1)) (parts.map (·.1)).length 0 (parts.map (·.1)).length = .error .type := by
  obtain ⟨value, present⟩ := passes.mem_members.mp unknown
  have changed : (name, value) ∈ (parts.map (·.1)).zip arguments.positional ++ arguments.named :=
    passes.mem_changed.mpr ⟨.name name, present, rfl⟩
  have given : name ∈ (copyArguments parts ((parts.map (·.1)).zip arguments.positional ++
      arguments.named)).named.map (·.1) := List.mem_map_of_mem (List.mem_append_left _ changed)
  exact bind_refused given absent _ _

/-- Lists with the same distinct keys in the same order are equal if one has all entries of the
other. -/
theorem eq_of_keys {key : Type} {made made' : List (key × Value)} (distinct : (made.map (·.1)).Nodup)
    (same : made.map (·.1) = made'.map (·.1)) (within : ∀ entry ∈ made, entry ∈ made') :
    made = made' := by
  have count : made.length = made'.length := by
    simpa only [List.length_map] using congrArg List.length same
  refine List.ext_getElem count fun i bound bound' => ?_
  obtain ⟨j, bound'', here⟩ := List.getElem_of_mem (within _ (List.getElem_mem bound))
  have keys : (made.map (·.1))[i]? = (made.map (·.1))[j]? := by
    conv_rhs => rw [same]
    rw [List.getElem?_map, List.getElem?_map, List.getElem?_eq_getElem bound,
      List.getElem?_eq_getElem bound'', here]
  have place : i = j :=
    (List.getElem?_inj (by rwa [List.length_map]) distinct).mp keys
  subst place
  exact here.symm

theorem Filled.unique {parts made made' : List (String × Value)}
    (distinct : (parts.map (·.1)).Nodup) (first : Filled stored parts made)
    (second : Filled stored parts made') : made = made' := by
  have once : (made.map (·.1)).Nodup := first.names ▸ distinct
  refine eq_of_keys once (first.names.trans second.names.symm) ?_
  rintro ⟨part, value⟩ here
  have only {other : Value} (there : (part, other) ∈ made) : other = value :=
    (Prod.mk.inj (List.inj_on_of_nodup_map once there here rfl)).2
  by_cases declared : ∃ entry ∈ stored, partOf (parts.map (·.1)) entry.1 = some part
  · obtain ⟨⟨member, given⟩, present, means⟩ := declared
    rw [← only (first.declared member given part present means)]
    exact second.declared member given part present means
  · have spared : ∀ member ∈ stored.map (·.1), partOf (parts.map (·.1)) member ≠ some part := by
      rintro _ present means
      obtain ⟨entry, given, rfl⟩ := List.mem_map.mp present
      exact declared ⟨entry, given, means⟩
    have listed : part ∈ parts.map (·.1) := first.names ▸ List.mem_map_of_mem here
    obtain ⟨⟨_, old⟩, there, rfl⟩ := List.mem_map.mp listed
    rw [← only (first.kept _ old there spared)]
    exact second.kept _ old there spared

/-- A record is filled in if the members can fill it in, and otherwise nothing is made. -/
theorem fillFromRest_record {interpreter : Interpreter σ} (target : Target) (world : World σ)
    {t : Value.RecordType} {parts : List (String × Value)} (passes : plan.Passes stored arguments)
    (fixed : t.kind ≠ .loose)
    (copies : t.kind = .plain → MakesRecords interpreter (.type (.record t)) t (parts.map (·.1)))
    (distinct : (parts.map (·.1)).Nodup) :
    (Fillable (parts.map (·.1)) plan.members → ∃ made, Filled stored parts made ∧
      (fillFromRest interpreter target (.record t parts) arguments.positional
        arguments.named).run world = (.ok (.record t made), world)) ∧
    (¬Fillable (parts.map (·.1)) plan.members → ∃ failure,
      (fillFromRest interpreter target (.record t parts) arguments.positional
        arguments.named).run world = (.error (.failure failure), world)) := by
  have unknown (unfillable : ¬Fillable (parts.map (·.1)) plan.members)
      (apart : ∀ k name, .position k ∈ plan.members → .name name ∈ plan.members →
        (parts.map (·.1))[k]? ≠ some name) :
      ∃ name, .name name ∈ plan.members ∧ name ∉ parts.map (·.1) := by
    by_contra known
    push Not at known
    exact unfillable ((fillable_iff distinct).mpr ⟨known, apart⟩)
  rcases passes.changes_eq with ⟨refused, k, name, first, second, means⟩ | ⟨accepted, apart⟩
  · refine ⟨fun fillable => ?_, fun _ => ?_⟩
    · exact absurd means (((fillable_iff distinct).mp fillable).2 k name first second)
    · cases kind : t.kind with
      | loose => exact absurd kind fixed
      | tuple =>
        rw [run_fillFromRest_tuple interpreter target world kind, refused]
        exact ⟨_, rfl⟩
      | plain =>
        rw [run_fillFromRest_plain interpreter target world kind, refused]
        exact ⟨_, rfl⟩
  · cases kind : t.kind with
    | loose => exact absurd kind fixed
    | tuple =>
      rw [run_fillFromRest_tuple interpreter target world kind, accepted]
      dsimp only
      constructor
      · intro fillable
        obtain ⟨made, filled, replaced⟩ := filled_of_changes passes fillable
        exact ⟨made, filled, by rw [replaced]⟩
      · intro unfillable
        obtain ⟨name, declared, absent⟩ := unknown unfillable apart
        rw [refused_of_changes passes declared absent]
        exact ⟨_, rfl⟩
    | plain =>
      rw [run_fillFromRest_plain interpreter target world kind, accepted]
      dsimp only
      rw [(copies kind).run_call fun _ => copyArguments_all parts _]
      constructor
      · intro fillable
        obtain ⟨values, bound, filled⟩ := filled_of_copy passes distinct fillable
        exact ⟨_, filled, by rw [bound]; rfl⟩
      · intro unfillable
        obtain ⟨name, declared, absent⟩ := unknown unfillable apart
        rw [refused_of_copy passes declared absent]
        exact ⟨_, rfl⟩

end

/-- A plan whose fields are all matched and whose rest is a record of named parts. If the members can
fill it in, the record made has the value of each member in the part that it means, and the parts of
the rest elsewhere; a position behind the last part is lost. If a name is no part, or two members mean
the same part, nothing is made. A plain record is copied by its class, which is to make records of
their parts. -/
theorem run_fills_record (interpreter : Interpreter σ) {plan : Plan} {before later : σ}
    (obtained : Obtained interpreter before plan later) [Reader ρ] {start after : Run σ ρ}
    {stored : Members} {consumed : Nat}
    (read : (runFields interpreter 0 plan.fields).run start = (.ok (.ok stored, consumed), after))
    {rest : Rest} (supplies : plan.rest = some rest) {t : Value.RecordType}
    {parts : List (String × Value)} {world : World σ}
    (given : (rest.outcome interpreter).run after.world = (.ok (.record t parts), world))
    (fixed : t.kind ≠ .loose)
    (copies : t.kind = .plain → MakesRecords interpreter (.type (.record t)) t (parts.map (·.1)))
    (distinct : (parts.map (·.1)).Nodup) :
    stored.map (·.1) = plan.members ∧
    (Fillable (parts.map (·.1)) plan.members → ∃ made, Filled stored parts made ∧
      (plan.run interpreter).run start =
        (.ok ⟨.ok (.record t made), consumed⟩, { after with world })) ∧
    (¬Fillable (parts.map (·.1)) plan.members → ∃ failure,
      (plan.run interpreter).run start = (.error (.failure failure), { after with world })) := by
  obtain ⟨-, layout, -⟩ := obtained.built
  have passes := passes_of_read layout read
  obtain ⟨fills, refuses⟩ := fillFromRest_record plan.target world passes fixed copies distinct
  refine ⟨passes.stores, fun fillable => ?_, fun unfillable => ?_⟩
  · obtain ⟨made, filled, run⟩ := fills fillable
    exact ⟨made, filled, run_of_supplied read supplies given run⟩
  · obtain ⟨failure, run⟩ := refuses unfillable
    exact ⟨failure, run_of_supplied read supplies given run⟩

def pair : Value.RecordType :=
  ⟨"Data", .plain, ["a", "b"]⟩

theorem pair_copies : pair.kind = .plain →
    MakesRecords .standard (.type (.record pair)) pair ["a", "b"] :=
  fun _ => makesRecords_standard nofun

def changing (members : List Member) : Plan :=
  .ofSingles (.call (.type (.record pair))) members
    (some (.value (.record pair [("a", .int 0), ("b", .int 0)])))

/-- The general statement for a name before a position. -/
theorem run_fills_record_changing :
    let plan := changing [.name "b", .position 0]
    let start : Run Expr.Counts Stream :=
      ⟨plan.world .empty fun _ => 0, .bytes [0x07, 0x08], plan.buffer⟩
    Obtained .standard (fun _ => 0) plan (fun _ => 0) ∧
      Fillable ["a", "b"] plan.members ∧
      ∃ after, (plan.run .standard).run start =
        (.ok ⟨.ok (.record pair [("a", .bytes [0x08]), ("b", .bytes [0x07])]), 2⟩, after) := by
  intro plan start
  have obtained : Obtained .standard (fun _ => 0) plan (fun _ => 0) :=
    obtained_ofSingles .standard rfl rfl _
  have fillable : Fillable ["a", "b"] plan.members := by
    have members : plan.members = [.name "b", .position 0] := rfl
    rw [members, fillable_iff (by decide)]
    simp
  obtain ⟨reader, buffer, read⟩ := runFields_singles .standard [.name "b", .position 0]
    [0x07, 0x08] rfl start.world start.buffer (Nat.le_refl 1) 0
  have given : ((Rest.value (.record pair [("a", .int 0), ("b", .int 0)])).outcome
      .standard).run start.world =
        (.ok (.record pair [("a", .int 0), ("b", .int 0)]), start.world) := rfl
  obtain ⟨-, fills, -⟩ := run_fills_record .standard obtained read rfl given nofun
    pair_copies (by decide)
  obtain ⟨made, filled, run⟩ := fills fillable
  have same : [("a", .bytes [0x08]), ("b", .bytes [0x07])] = made := by
    refine eq_of_keys (by decide) filled.names.symm (List.forall_mem_cons.mpr ⟨?_,
      List.forall_mem_singleton.mpr ?_⟩)
    · exact filled.declared (.position 0) _ "a" (.tail _ (.head _)) rfl
    · exact filled.declared (.name "b") _ "b" (.head _) rfl
  exact ⟨obtained, fillable, _, same ▸ run⟩

/-- A position behind the last part is lost: its value is nowhere in the record. -/
theorem overflowing_position_lost :
    let plan := changing [.position 0, .position 1, .position 2]
    let start : Run Expr.Counts Stream :=
      ⟨plan.world .empty fun _ => 0, .bytes [0x01, 0x02, 0x03], plan.buffer⟩
    Obtained .standard (fun _ => 0) plan (fun _ => 0) ∧ .position 2 ∈ plan.members ∧
      ∃ after, (plan.run .standard).run start =
        (.ok ⟨.ok (.record pair [("a", .bytes [0x01]), ("b", .bytes [0x02])]), 3⟩, after) := by
  intro plan start
  have layout : Layout.check plan.fields = .ok () := rfl
  obtain ⟨reader, buffer, read⟩ := runFields_singles .standard
    [.position 0, .position 1, .position 2] [0x01, 0x02, 0x03] rfl start.world start.buffer
    (Nat.le_refl 1) 0
  have passes := passes_of_read layout read
  have fillable : Fillable ["a", "b"] plan.members := by
    have members : plan.members = [.position 0, .position 1, .position 2] := rfl
    rw [members, fillable_iff (by decide)]
    simp
  have parts : (([("a", .int 0), ("b", .int 0)] : List (String × Value)).map (·.1)).Nodup := by
    decide
  obtain ⟨made, filled, run⟩ :=
    (fillFromRest_record plan.target start.world passes (t := pair) nofun
      pair_copies parts).1 fillable
  have same : [("a", .bytes [0x01]), ("b", .bytes [0x02])] = made := by
    refine eq_of_keys (by decide) filled.names.symm (List.forall_mem_cons.mpr ⟨?_,
      List.forall_mem_singleton.mpr ?_⟩)
    · exact filled.declared (.position 0) _ "a" (.head _) rfl
    · exact filled.declared (.position 1) _ "b" (.tail _ (.head _)) rfl
  subst same
  exact ⟨obtained_ofSingles .standard rfl layout _, .tail _ (.tail _ (.head _)), _,
    run_of_supplied read rfl rfl run⟩

end ByteRecord.Plan
