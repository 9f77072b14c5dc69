import ByteRecord.Proofs.Record.Filled
import ByteRecord.Proofs.Record.Merged

/-! The two forms of a rest: a record, and a mapping from the names of its parts. -/
namespace ByteRecord

namespace Plan

section
variable {plan : Plan} {stored : Members} {arguments : Value.Arguments} {names : List String}
  {values : List Value} {name : String}

theorem Passes.position_mem (passes : plan.Passes stored arguments) :
    .position k ∈ plan.members ↔ k < arguments.positional.length := by
  rw [passes.mem_members]
  constructor
  · rintro ⟨value, present⟩
    exact (List.getElem?_eq_some_iff.mp ((passes.position k value).mpr present)).1
  · intro within
    exact ⟨_, (passes.position k _).mp (List.getElem?_eq_getElem within)⟩

/-- A name means a part behind those that the positions mean. -/
theorem Passes.named_behind (passes : plan.Passes stored arguments)
    (fillable : Fillable names plan.members) (named : .name name ∈ plan.members) :
    name ∈ names.drop arguments.positional.length := by
  obtain ⟨j, place⟩ := List.mem_iff_getElem?.mp (fillable.known name named)
  have behind : arguments.positional.length ≤ j := by
    refine Nat.not_lt.mp fun within => ?_
    cases fillable.apart _ (passes.position_mem.mpr within) _ named name place rfl
  exact mem_drop_of_place behind place

theorem keys_drop_zip (count : values.length = names.length) (n : Nat) :
    ((names.zip values).drop n).map (·.1) = names.drop n := by
  rw [List.map_drop, List.map_fst_zip (Nat.le_of_eq count.symm)]

theorem Passes.covers (passes : plan.Passes stored arguments)
    (few : arguments.positional.length ≤ names.length) (count : values.length = names.length)
    (fillable : Fillable names plan.members) :
    Value.Arguments.Covers ⟨arguments.positional,
      merged ((names.zip values).drop arguments.positional.length) arguments.named⟩ names := by
  refine ⟨few, ?_, ?_⟩
  · rintro ⟨part, value⟩ here
    rcases (mem_merged passes.once).mp here with own | ⟨given, -⟩
    · exact passes.named_behind fillable (passes.mem_members.mpr ⟨value, (passes.name ..).mp own⟩)
    · rw [← keys_drop_zip count]
      exact List.mem_map_of_mem given
  · intro part here
    rw [merged_keys passes.once, keys_drop_zip count]
    exact List.mem_append_left _ here

theorem Passes.filled (passes : plan.Passes stored arguments)
    (few : arguments.positional.length ≤ names.length) (count : values.length = names.length)
    (fillable : Fillable names plan.members) (distinct : names.Nodup) :
    ∃ bound, Value.Arguments.bind ⟨arguments.positional,
        merged ((names.zip values).drop arguments.positional.length) arguments.named⟩ names
          names.length 0 names.length = .ok bound ∧
      Filled stored (names.zip values) (partsOf names bound) := by
  have keys : (names.zip values).map (·.1) = names := keys_drop_zip count 0
  have once : ((merged ((names.zip values).drop arguments.positional.length)
      arguments.named).map (·.1)).Nodup := by
    refine merged_once ?_ passes.once
    rw [keys_drop_zip count]
    exact distinct.sublist (List.drop_sublist _ _)
  obtain ⟨bound, run, names_kept, by_place, by_name⟩ :=
    bind_covers (passes.covers few count fillable) once
  refine ⟨bound, run, names_kept.trans keys.symm, ?_, ?_⟩
  · intro member value part present means
    rw [keys] at means
    cases member with
    | position k => exact by_place k part value means ((passes.position k value).mpr present)
    | name name =>
      cases means
      exact by_name _ ((mem_merged passes.once).mpr (.inl ((passes.name part value).mpr present)))
  · intro part value here spared
    rw [keys, passes.stores] at spared
    obtain ⟨k, place⟩ := List.mem_iff_getElem?.mp here
    have named := (List.getElem?_zip_eq_some.mp place).1
    have behind : arguments.positional.length ≤ k :=
      Nat.not_lt.mp fun within => spared _ (passes.position_mem.mpr within) named
    refine by_name _ ((mem_merged passes.once).mpr (.inr ⟨mem_drop_of_place behind place, ?_⟩))
    intro own
    obtain ⟨⟨_, other⟩, present, rfl⟩ := List.mem_map.mp own
    exact spared _ (passes.mem_members.mpr ⟨other, (passes.name ..).mp present⟩) rfl

theorem Passes.construct_remaining {interpreter : Interpreter σ}
    (makes : MakesRecords interpreter function kind names) (passes : plan.Passes stored arguments)
    (few : arguments.positional.length ≤ names.length) (count : values.length = names.length)
    (fillable : Fillable names plan.members) (distinct : names.Nodup) (world : World σ) :
    ∃ made, Filled stored (names.zip values) made ∧
      (construct interpreter (.call function) ⟨arguments.positional,
        merged ((names.zip values).drop arguments.positional.length) arguments.named⟩).run world =
          (.ok (.record kind made), world) := by
  obtain ⟨bound, run, filled⟩ := passes.filled few count fillable distinct
  have called := makes.run_call (passes.covers few count fillable).all world
  rw [run] at called
  exact ⟨_, filled, called⟩

/-- A call that makes a record refuses a part that is given by its place and by its name. -/
theorem Passes.construct_full {interpreter : Interpreter σ}
    (makes : MakesRecords interpreter function kind names) (passes : plan.Passes stored arguments)
    (some_position : arguments.positional ≠ [])
    (few : arguments.positional.length ≤ names.length) (count : values.length = names.length)
    (distinct : names.Nodup) (world : World σ) :
    (construct interpreter (.call function) ⟨arguments.positional,
      merged (names.zip values) arguments.named⟩).run world =
        (.error (.failure .type), world) := by
  have keys : (names.zip values).map (·.1) = names := keys_drop_zip count 0
  -- there is a first part: its place is taken by a position, and the mapping names it as well
  have first : ∃ name, name ∈ names.take arguments.positional.length := by
    refine List.exists_mem_of_ne_nil _ ?_
    rw [Ne, List.take_eq_nil_iff]
    rintro (none | none)
    · exact some_position (List.length_eq_zero_iff.mp none)
    · rw [none, List.length_nil, Nat.le_zero] at few
      exact some_position (List.length_eq_zero_iff.mp few)
  obtain ⟨name, placed⟩ := first
  have all_given : ∀ name ∈ names, name ∈ (merged (names.zip values) arguments.named).map (·.1) := by
    intro name known
    rw [merged_keys passes.once, keys]
    exact List.mem_append_left _ known
  have unknown : name ∉ names.drop arguments.positional.length :=
    List.disjoint_take_drop distinct (Nat.le_refl _) placed
  have called : (Effect.call interpreter function ⟨arguments.positional,
      merged (names.zip values) arguments.named⟩).run world = _ :=
    makes.run_call (fun name later => all_given name (List.mem_of_mem_drop later)) world
  have refused : Value.Arguments.bind ⟨arguments.positional,
      merged (names.zip values) arguments.named⟩ names names.length 0 names.length =
        .error .type := by
    refine bind_refused (?_ : name ∈ _) ?_ _ _
    · exact all_given name (List.mem_of_mem_take placed)
    · exact unknown
  rw [refused] at called
  exact called

end

/-- Behind fields that are all matched, a rest comes to a value and leaves the world as it is. -/
def Supplies [Reader ρ] (interpreter : Interpreter σ) (fields : List Field) (start : Run σ ρ)
    (rest : Rest) (value : Value) : Prop :=
  ∀ stored consumed after,
    (runFields interpreter 0 fields).run start = (.ok (.ok stored, consumed), after) →
    (rest.outcome interpreter).run after.world = (.ok value, after.world)

def withRest (plan : Plan) (rest : Rest) : Plan :=
  { plan with rest := some rest }

section
variable [Reader ρ] {interpreter : Interpreter σ} {plan : Plan} {start after : Run σ ρ}

theorem run_withRest {rest : Rest} {stored : Members} {consumed : Nat}
    (supplies : Supplies interpreter plan.fields start rest value)
    (read : (runFields interpreter 0 plan.fields).run start = (.ok (.ok stored, consumed), after))
    (made : (fillFromRest interpreter plan.target value (positional stored) (named stored)).run
      after.world = (result, after.world)) :
    ((plan.withRest rest).run interpreter).run start =
      (result.map fun record => ⟨.ok record, consumed⟩, after) := by
  have fields : (plan.withRest rest).fields = plan.fields := rfl
  exact run_of_supplied (fields ▸ read) rfl (supplies stored consumed after read) made

theorem run_withRest_unmatched
    (unmatched : ∀ stored consumed after,
      (runFields interpreter 0 plan.fields).run start ≠ (.ok (.ok stored, consumed), after))
    (rest rest' : Rest) :
    ((plan.withRest rest).run interpreter).run start =
      ((plan.withRest rest').run interpreter).run start := by
  have fields (rest : Rest) : (plan.withRest rest).fields = plan.fields := rfl
  rw [run_eq, run_eq, fields, fields]
  cases read : (runFields interpreter 0 plan.fields).run start with
  | mk result last =>
    cases result with
    | error fault => rfl
    | ok answer =>
      obtain ⟨result, consumed⟩ := answer
      cases result with
      | error error => rfl
      | ok stored => exact absurd read (unmatched stored consumed last)

end

/-- Forms of a rest for a target that makes records, and members that can fill such a record in. With
the record itself as rest, or with the mapping of the parts that no position means, the result is the
record with the values of the members in the parts that they mean. With the mapping of all parts it is
the same if there are no positions, and otherwise the target refuses its arguments. -/
theorem rest_forms {interpreter : Interpreter σ} {function : Value} {kind : Value.RecordType}
    {names : List String} (makes : MakesRecords interpreter function kind names)
    (fixed : kind.kind ≠ .loose)
    (copies : kind.kind = .plain → MakesRecords interpreter (.type (.record kind)) kind names)
    (distinct : names.Nodup) {plan : Plan}
    (target : plan.target = .call function) (layout : Layout.check plan.fields = .ok ())
    (few : (Layout.positions plan.fields).length ≤ names.length)
    (fillable : Fillable names plan.members) {values : List Value}
    (count : values.length = names.length) [Reader ρ] (start : Run σ ρ) {own remaining full : Rest}
    (own_supplies : Supplies interpreter plan.fields start own (.record kind (names.zip values)))
    (remaining_supplies : Supplies interpreter plan.fields start remaining (.dict (textEntries
      ((names.zip values).drop (Layout.positions plan.fields).length))))
    (full_supplies : Supplies interpreter plan.fields start full
      (.dict (textEntries (names.zip values)))) :
    let run (rest : Rest) := ((plan.withRest rest).run interpreter).run start
    run remaining = run own ∧
    (Layout.positions plan.fields = [] → run full = run own) ∧
    ∀ stored consumed after,
      (runFields interpreter 0 plan.fields).run start = (.ok (.ok stored, consumed), after) →
      ∃ made, Filled stored (names.zip values) made ∧
        run own = (.ok ⟨.ok (.record kind made), consumed⟩, after) ∧
        (Layout.positions plan.fields ≠ [] → run full = (.error (.failure .type), after)) := by
  intro run
  have keys : (names.zip values).map (·.1) = names := keys_drop_zip count 0
  have filled_own : ∀ stored consumed after,
      (runFields interpreter 0 plan.fields).run start = (.ok (.ok stored, consumed), after) →
      ∃ made, Filled stored (names.zip values) made ∧
        run own = (.ok ⟨.ok (.record kind made), consumed⟩, after) := by
    intro stored consumed after read
    have passes := passes_of_read layout read
    obtain ⟨made, filled, filling⟩ := (fillFromRest_record plan.target after.world passes fixed
      (keys.symm ▸ copies) (keys.symm ▸ distinct)).1 (keys.symm ▸ fillable)
    exact ⟨made, filled, run_withRest own_supplies read filling⟩
  -- both forms fill in the parts, and there is one way to do so; no rest is looked at before that
  have agrees : ∀ rest, Supplies interpreter plan.fields start rest (.dict (textEntries
      ((names.zip values).drop (Layout.positions plan.fields).length))) → run rest = run own := by
    intro rest supplies
    by_cases matched : ∃ stored consumed after,
        (runFields interpreter 0 plan.fields).run start = (.ok (.ok stored, consumed), after)
    · obtain ⟨stored, consumed, after, read⟩ := matched
      have passes := passes_of_read layout read
      obtain ⟨made, filled, own_run⟩ := filled_own stored consumed after read
      obtain ⟨other, filled', made_run⟩ := passes.construct_remaining makes
        (passes.count.symm ▸ few) count fillable distinct after.world
      obtain rfl := filled.unique (keys.symm ▸ distinct) filled'
      rw [← target, ← fillFromRest_textEntries, passes.count] at made_run
      exact (run_withRest supplies read made_run).trans own_run.symm
    · push Not at matched
      exact run_withRest_unmatched matched rest own
  refine ⟨agrees remaining remaining_supplies, fun none => agrees full ?_, ?_⟩
  · rwa [none, List.length_nil, List.drop_zero]
  · intro stored consumed after read
    obtain ⟨made, filled, own_run⟩ := filled_own stored consumed after read
    refine ⟨made, filled, own_run, fun some_position => ?_⟩
    have passes := passes_of_read layout read
    have given : positional stored ≠ [] := by
      intro none
      have count := passes.count
      rw [none] at count
      exact some_position (List.length_eq_zero_iff.mp count.symm)
    have refused := passes.construct_full makes given (passes.count.symm ▸ few) count distinct
      after.world
    rw [← target, ← fillFromRest_textEntries] at refused
    exact run_withRest full_supplies read refused

/-- The general statement for a position and a target with two parts. The mapping of both parts is
refused. -/
theorem rest_forms_position :
    let plan : Plan := .ofSingles (.call (.type (.record pair))) [.position 0] none
    let parts : List (String × Value) := [("a", .int 1), ("b", .int 2)]
    let start : Run Expr.Counts Stream :=
      ⟨plan.world .empty fun _ => 0, .bytes [0x07], plan.buffer⟩
    let run (rest : Value) := ((plan.withRest (.value rest)).run .standard).run start
    Fillable ["a", "b"] plan.members ∧
      run (.dict [(.str "b", .int 2)]) = run (.record pair parts) ∧
      ∃ after, run (.record pair parts) =
          (.ok ⟨.ok (.record pair [("a", .bytes [0x07]), ("b", .int 2)]), 1⟩, after) ∧
        run (.dict [(.str "a", .int 1), (.str "b", .int 2)]) = (.error (.failure .type), after) := by
  intro plan parts start run
  have fillable : Fillable ["a", "b"] plan.members := by
    have members : plan.members = [.position 0] := rfl
    rw [members, fillable_iff (by decide)]
    simp
  have makes : MakesRecords .standard (.type (.record pair)) pair ["a", "b"] := pair_copies rfl
  have layout : Layout.check plan.fields = .ok () := rfl
  have supplies (value : Value) : Supplies .standard plan.fields start (.value value) value :=
    fun _ _ _ _ => rfl
  have count : ([.int 1, .int 2] : List Value).length = ["a", "b"].length := rfl
  obtain ⟨agree, -, matched⟩ := rest_forms makes nofun pair_copies (by decide) rfl layout (by decide)
    fillable count start (supplies _) (supplies _) (supplies _)
  obtain ⟨reader, buffer, read⟩ := runFields_singles .standard [.position 0] [0x07] rfl start.world
    start.buffer (Nat.le_refl 1) 0
  obtain ⟨made, filled, own_run, full_run⟩ := matched _ _ _ read
  have same : [("a", .bytes [0x07]), ("b", .int 2)] = made := by
    refine eq_of_keys (by decide) filled.names.symm (List.forall_mem_cons.mpr ⟨?_,
      List.forall_mem_singleton.mpr ?_⟩)
    · exact filled.declared (.position 0) _ "a" (.head _) rfl
    · refine filled.kept "b" (.int 2) (.tail _ (.head _)) fun member present => ?_
      obtain rfl : member = .position 0 := List.mem_singleton.mp present
      decide
  subst same
  exact ⟨fillable, agree, _, own_run, full_run (by decide)⟩

end Plan
end ByteRecord
