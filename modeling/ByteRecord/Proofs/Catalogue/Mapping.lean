import ByteRecord.Proofs.Catalogue.Compiled
import ByteRecord.Proofs.Record.Filled
import ByteRecord.Proofs.Record.Gathered
import ByteRecord.Proofs.Record.Merged

/-! The records of a catalogue. The record that the plan of a format makes is a mapping: it has the
positions in ascending order, then the constants of the rest, then the other names of the members. -/
namespace ByteRecord

theorem Member.same_toValue (first second : Member) :
    Value.same first.toValue second.toValue = (first == second) := by
  cases first with
  | name name =>
    cases second with
    | name other =>
      rw [toValue, toValue, Value.same_str, Bool.eq_iff_iff, beq_iff_eq, beq_iff_eq,
        Member.name.injEq]
    | position k => exact Value.same_str_int name k
  | position k =>
    cases second with
    | name other => exact Value.same_int_str k other
    | position j =>
      rw [toValue, toValue, Value.same_int, Bool.eq_iff_iff, beq_iff_eq, beq_iff_eq,
        Member.position.injEq, Int.ofNat_inj]

namespace Plan

/-- The entries of a mapping with members as keys. -/
def entriesOf (made : Members) : List (Value × Value) :=
  made.map fun entry => (entry.1.toValue, entry.2)

theorem entriesOf_cons (entry : Member × Value) (made : Members) :
    entriesOf (entry :: made) = (entry.1.toValue, entry.2) :: entriesOf made := rfl

theorem insert_entriesOf {made : Members} {member : Member} (absent : member ∉ made.map (·.1))
    (value : Value) : Value.insert (entriesOf made) member.toValue value =
      entriesOf (made ++ [(member, value)]) := by
  induction made with
  | nil => rfl
  | cons entry made ih =>
    rw [List.map_cons, List.mem_cons, not_or] at absent
    rw [entriesOf_cons, Value.insert, if_neg, ih absent.2]
    · rfl
    · rw [Member.same_toValue, beq_iff_eq]
      exact fun same => absent.1 same.symm

/-- Entries with distinct members as keys make the mapping that they are. -/
theorem ofEntries_entriesOf {made : Members} (distinct : (made.map (·.1)).Nodup) :
    Value.ofEntries (entriesOf made) = entriesOf made := by
  have onto (found rest : Members) (distinct : ((found ++ rest).map (·.1)).Nodup) :
      (entriesOf rest).foldl (fun found entry => Value.insert found entry.1 entry.2)
        (entriesOf found) = entriesOf (found ++ rest) := by
    induction rest generalizing found with
    | nil => rw [List.append_nil]; rfl
    | cons entry rest ih =>
      have absent : entry.1 ∉ found.map (·.1) := by
        rw [List.map_append, List.map_cons] at distinct
        exact fun present =>
          (List.nodup_append.mp distinct).2.2 _ present _ List.mem_cons_self rfl
      rw [List.append_cons] at distinct ⊢
      rw [entriesOf_cons, List.foldl_cons, insert_entriesOf absent]
      exact ih (found ++ [entry]) distinct
  exact onto [] made distinct

theorem lookup?_entriesOf {made : Members} (distinct : (made.map (·.1)).Nodup) :
    Value.lookup? (entriesOf made) member.toValue = some value ↔ (member, value) ∈ made := by
  have found : Value.lookup? (entriesOf made) member.toValue =
      (made.find? (·.1 == member)).map (·.2) := by
    induction made with
    | nil => rfl
    | cons entry made ih =>
      have later := ih (List.nodup_cons.mp distinct).2
      rw [Value.lookup?] at later ⊢
      rw [entriesOf_cons, List.find?_cons, List.find?_cons]
      dsimp only
      rw [Member.same_toValue]
      cases entry.1 == member with
      | true => rfl
      | false => exact later
  rw [found, Option.map_eq_some_iff]
  constructor
  · rintro ⟨⟨other, kept⟩, here, rfl⟩
    have same := List.find?_some here
    obtain rfl : other = member := eq_of_beq same
    exact List.mem_of_find?_eq_some here
  · intro present
    exact ⟨_, find?_of_unique present fun other here =>
      (Prod.mk.inj (List.inj_on_of_nodup_map distinct here present rfl)).2, rfl⟩

/-- What arguments say of members: their positions, then their names. -/
def membersOfArguments (arguments : Value.Arguments) : Members :=
  (arguments.positional.zipIdx.map fun place => (.position place.2, place.1)) ++
    arguments.named.map fun entry => (.name entry.1, entry.2)

theorem membersOfArguments_keys (arguments : Value.Arguments) :
    (membersOfArguments arguments).map (·.1) =
      (List.range arguments.positional.length).map .position ++
        (arguments.named.map (·.1)).map .name := by
  rw [membersOfArguments, List.map_append, List.map_map, List.map_map, List.map_map]
  congr 1
  rw [List.range_eq_range', ← List.zipIdx_map_snd 0 arguments.positional, List.map_map]
  rfl

theorem membersOfArguments_distinct {arguments : Value.Arguments}
    (once : (arguments.named.map (·.1)).Nodup) :
    ((membersOfArguments arguments).map (·.1)).Nodup := by
  rw [membersOfArguments_keys, List.nodup_append]
  refine ⟨List.nodup_range.map fun _ _ => Member.position.inj, once.map fun _ _ => Member.name.inj, ?_⟩
  rintro _ here _ there rfl
  obtain ⟨k, -, rfl⟩ := List.mem_map.mp here
  obtain ⟨name, -, other⟩ := List.mem_map.mp there
  cases other

theorem construct_entries (interpreter : Interpreter σ) {arguments : Value.Arguments}
    (once : (arguments.named.map (·.1)).Nodup) :
    construct interpreter .entries arguments =
      pure (.dict (entriesOf (membersOfArguments arguments))) := by
  rw [← ofEntries_entriesOf (membersOfArguments_distinct once), entriesOf, membersOfArguments,
    List.map_append, List.map_map, List.map_map]
  rfl

section
variable {plan : Plan} {stored : Members} {arguments : Value.Arguments}
  {constants : List (String × Value)}

/-- The entries of a record of a catalogue: the positions in ascending order, the constants, and the
other names of the members in the order of the fields; each member with its value, and each constant
that is no member with its own. -/
structure Catalogued (plan : Plan) (constants : List (String × Value)) (stored made : Members) :
    Prop where
  keys : made.map (·.1) =
    (List.range (Layout.positions plan.fields).length).map .position ++
      (constants.map (·.1) ++ (plan.members.filterMap Member.name?).filter
        (· ∉ constants.map (·.1))).map .name
  distinct : (made.map (·.1)).Nodup
  declared : ∀ entry ∈ stored, entry ∈ made
  constant : ∀ name value, (name, value) ∈ constants → .name name ∉ plan.members →
    (.name name, value) ∈ made

theorem Passes.catalogued (passes : plan.Passes stored arguments)
    (distinct : (constants.map (·.1)).Nodup) :
    Catalogued plan constants stored
      (membersOfArguments ⟨arguments.positional, merged constants arguments.named⟩) := by
  have once := merged_once distinct passes.once
  refine ⟨?_, membersOfArguments_distinct once, ?_, ?_⟩
  · rw [membersOfArguments_keys, merged_keys passes.once, passes.count, passes.names]
  · rintro ⟨member, value⟩ present
    rw [membersOfArguments, List.mem_append]
    cases member with
    | position k =>
      have place := (passes.position k value).mpr present
      exact .inl (List.mem_map.mpr ⟨(value, k), List.mk_mem_zipIdx_iff_getElem?.mpr place, rfl⟩)
    | name name =>
      have own : (name, value) ∈ merged constants arguments.named :=
        (mem_merged passes.once).mpr (.inl ((passes.name name value).mpr present))
      exact .inr (List.mem_map.mpr ⟨(name, value), own, rfl⟩)
  · intro name value present absent
    have spared : name ∉ arguments.named.map (·.1) := by
      intro own
      obtain ⟨⟨_, other⟩, here, rfl⟩ := List.mem_map.mp own
      exact absent (passes.mem_members.mpr ⟨other, (passes.name ..).mp here⟩)
    have own := (mem_merged passes.once).mpr (.inr ⟨present, spared⟩)
    exact List.mem_append_right _ (List.mem_map.mpr ⟨(name, value), own, rfl⟩)

end

theorem of_build_parts {interpreter : Interpreter σ} {target : Target} {fields : List Field}
    {rest : Option Rest} {scope : Scope} {reader : Option Expression} {name : Value}
    (built : (build interpreter target fields rest scope reader name).run state =
      (.ok plan, later)) : plan.target = target ∧ plan.rest = rest := by
  obtain ⟨_, _, -, checked⟩ := run_bind_ok_iff.mp built
  obtain ⟨_, _, -, made⟩ := run_bind_ok_iff.mp checked
  cases made
  exact ⟨rfl, rfl⟩

/-- A plan that makes mappings over constants, with the arguments of its members. -/
theorem make_constants (interpreter : Interpreter σ) {plan : Plan} {stored : Members}
    {arguments : Value.Arguments} (passes : plan.Passes stored arguments)
    (target : plan.target = .entries) {constants : List (String × Value)}
    (distinct : (constants.map (·.1)).Nodup)
    (supplies : plan.rest = none ∧ constants = [] ∨
      plan.rest = some (.value (.dict (textEntries constants)))) :
    plan.make interpreter arguments = pure (.dict (entriesOf (membersOfArguments
      ⟨arguments.positional, merged constants arguments.named⟩))) := by
  have once := merged_once distinct passes.once
  rcases supplies with ⟨none, rfl⟩ | constant
  · -- without a rest the names are passed as they are, as over no constants
    have same : merged [] arguments.named = arguments.named := by
      refine eq_of_keys once ?_ fun entry here => ?_
      · rw [merged_keys passes.once]
        simp
      · simpa using (mem_merged passes.once).mp here
    rw [make, none, target]
    dsimp only
    rw [same, construct_entries interpreter passes.once]
  · rw [make, constant, target]
    dsimp only [Rest.outcome]
    rw [pure_bind, fillFromRest_textEntries, construct_entries interpreter once]

end Plan

namespace Format
open Plan

theorem compile_parts {interpreter : Interpreter σ} {format : Format} {plan : Plan} {names : Scope}
    (compiled : (format.compile interpreter names).run state = (.ok plan, later)) :
    format.fields.mapM fieldOf = .ok plan.fields ∧ Layout.check plan.fields = .ok () ∧
      plan.target = .entries ∧ plan.rest = match format.rest with
        | .none => none
        | value => some (.value value) := by
  obtain ⟨fields, _, each, built⟩ := run_bind_ok_iff.mp compiled
  obtain ⟨each, -⟩ := run_lift_ok_iff.mp each
  obtain ⟨rfl, -, layout, -⟩ := of_build built
  exact ⟨of_planFields each, layout, of_build_parts built⟩

/-- A record of a format that compiles. There is one exactly if all fields are matched; they are
read one after another, from a reader that holds bytes as these come. It is a mapping with the
entries that the members and the constants of the rest say, in their order. -/
theorem record_catalogued {interpreter : Interpreter σ} {format : Format} {plan : Plan}
    {names : Scope} {state later : σ}
    (compiled : (format.compile interpreter names).run state = (.ok plan, later))
    {constants : List (String × Value)} (distinct : (constants.map (·.1)).Nodup)
    (given : format.rest = .none ∧ constants = [] ∨ format.rest = .dict (textEntries constants))
    [Reader ρ] {start : Run σ ρ} (fits : plan.bufferSize ≤ start.buffer.length) :
    format.fields.mapM fieldOf = .ok plan.fields ∧
    (∀ record consumed after,
      (plan.run interpreter).run start = (.ok ⟨.ok record, consumed⟩, after) →
      ∃ stored,
        (runFields interpreter 0 plan.fields).run start = (.ok (.ok stored, consumed), after)) ∧
    ∀ stored consumed after,
      (runFields interpreter 0 plan.fields).run start = (.ok (.ok stored, consumed), after) →
      (∃ raws, Gathers interpreter plan.fields start raws stored after ∧
        raws.map List.length = plan.fields.map Field.size ∧
        ∀ Holds : ρ → List UInt8 → Prop, Delivers Holds → ∀ data, Holds start.reader data →
          ∃ rest, data = raws.flatten ++ rest ∧ Holds after.reader rest) ∧
      ∃ made, Catalogued plan constants stored made ∧
        (plan.run interpreter).run start =
          (.ok ⟨.ok (.dict (entriesOf made)), consumed⟩, after) ∧
        ∀ member value, Value.lookup? (entriesOf made) member.toValue = some value ↔
          (member, value) ∈ made := by
  obtain ⟨fields, layout, target, rest⟩ := compile_parts compiled
  have room : ∀ field ∈ plan.fields, field.size ≤ start.buffer.length :=
    fun field present => Nat.le_trans (size_le_bufferSize present) fits
  have supplies : plan.rest = none ∧ constants = [] ∨
      plan.rest = some (.value (.dict (textEntries constants))) := by
    rcases given with ⟨none, empty⟩ | constant
    · rw [none] at rest
      exact .inl ⟨rest, empty⟩
    · rw [constant] at rest
      exact .inr rest
  have makes : ∀ stored consumed after,
      (runFields interpreter 0 plan.fields).run start = (.ok (.ok stored, consumed), after) →
      ∃ made, Catalogued plan constants stored made ∧
        (plan.run interpreter).run start =
          (.ok ⟨.ok (.dict (entriesOf made)), consumed⟩, after) := by
    intro stored consumed after read
    have passes := passes_of_read layout read
    refine ⟨_, passes.catalogued distinct, ?_⟩
    rw [run_eq, read]
    dsimp only
    rw [assemble_eq_make, make_constants interpreter passes target distinct supplies]
    rfl
  refine ⟨fields, fun record consumed after parsed => ?_, fun stored consumed after read => ?_⟩
  · obtain ⟨⟨result, total⟩, middle, read, made⟩ := run_bind_ok_iff.mp parsed
    cases result with
    | error error => cases made
    | ok stored =>
      obtain ⟨_, -, run⟩ := makes stored total middle read
      cases run.symm.trans parsed
      exact ⟨stored, read⟩
  · obtain ⟨raws, gathers⟩ := gathers_of_runFields read
    obtain ⟨made, catalogued, run⟩ := makes stored consumed after read
    exact ⟨⟨raws, gathers, gathers.sizes room, fun Holds delivers data holds =>
      gathers.held delivers room holds⟩, made, catalogued, run, fun member value =>
      lookup?_entriesOf catalogued.distinct⟩

/-- A format with its positions in reverse and a constant that a member replaces. -/
def replacing : Format where
  name := .str "replacing"
  extensions := .list []
  fields := [.int 1, .str "b", .int 0, .str "k"].map fun member =>
    ⟨⟨[.wildcard], .hex⟩, member, .none, .none, .str ""⟩
  rest := .dict [(.str "a", .int 5), (.str "b", .int 6)]
  description := .str ""
  metadata := .dict []

def replacingConstants : List (String × Value) :=
  [("a", .int 5), ("b", .int 6)]

def replacingPlan : Plan where
  target := .entries
  fields := [.position 1, .name "b", .position 0, .name "k"].map .single
  rest := some (.value (.dict (textEntries replacingConstants)))
  scope := scope .empty
  reader := none
  name := .str "replacing"

/-- The general statement for that format. -/
theorem record_catalogued_replacing :
    let start : Run Expr.Counts Stream := ⟨replacingPlan.world .empty fun _ => 0,
      .bytes [0x01, 0x02, 0x03, 0x04], replacingPlan.buffer⟩
    (replacing.compile .standard .empty).run (fun _ => 0) = (.ok replacingPlan, fun _ => 0) ∧
    ∃ after, (replacingPlan.run .standard).run start =
      (.ok ⟨.ok (.dict [(.int 0, .bytes [0x03]), (.int 1, .bytes [0x01]), (.str "a", .int 5),
        (.str "b", .bytes [0x02]), (.str "k", .bytes [0x04])]), 4⟩, after) := by
  intro start
  have compiled : (replacing.compile .standard .empty).run (fun _ => 0) =
      (.ok replacingPlan, fun _ => 0) := rfl
  have distinct : (replacingConstants.map (·.1)).Nodup := by decide
  have given : replacing.rest = .none ∧ replacingConstants = [] ∨
      replacing.rest = .dict (textEntries replacingConstants) := .inr rfl
  obtain ⟨reader, buffer, read⟩ := runFields_singles .standard
    [.position 1, .name "b", .position 0, .name "k"] [0x01, 0x02, 0x03, 0x04] rfl start.world
    start.buffer (Nat.le_refl 1) 0
  have fits : replacingPlan.bufferSize ≤ start.buffer.length := Nat.le_refl _
  obtain ⟨-, -, makes⟩ := record_catalogued compiled distinct given fits
  obtain ⟨-, made, catalogued, parsed, -⟩ := makes _ _ _ read
  have same : [(.position 0, .bytes [0x03]), (.position 1, .bytes [0x01]), (.name "a", .int 5),
      (.name "b", .bytes [0x02]), (.name "k", .bytes [0x04])] = made := by
    refine eq_of_keys (by decide) (catalogued.keys.trans rfl).symm ?_
    simp only [List.forall_mem_cons]
    refine ⟨catalogued.declared _ (.tail _ (.tail _ (.head _))), catalogued.declared _ (.head _),
      catalogued.constant _ _ (.head _) ?_, catalogued.declared _ (.tail _ (.head _)),
      catalogued.declared _ (.tail _ (.tail _ (.tail _ (.head _)))), List.forall_mem_nil _⟩
    have members : replacingPlan.members =
        [.position 1, .name "b", .position 0, .name "k"] := rfl
    rw [members]
    decide
  subst same
  exact ⟨compiled, _, parsed⟩

end Format
end ByteRecord
