import ByteRecord.Proofs.Catalogue.Mapping
import ByteRecord.Proofs.Catalogue.Ranking
import ByteRecord.Proofs.Record.Interference

/-! Which formats data is identified as. If no expression has side effects and no transform fails,
the formats of a catalogue do not depend on each other: each is found exactly if its own plan parses
the data, and one more format leaves the others as they are. -/
namespace ByteRecord

namespace Plan
variable {interpreter : Interpreter σ} {plan : Plan} {state : σ} {data : List UInt8}

/-- The transform of every field that is reached and accepts its bytes yields a value. -/
def TransformsSucceed (interpreter : Interpreter σ) (plan : Plan) (world : World σ)
    (data : List UInt8) : Prop :=
  ∀ i field values, plan.fields[i]? = some field →
    TakenBefore interpreter world plan.fields data values i →
    offset plan.fields (i + 1) ≤ data.length →
    field.verdict interpreter world (slice plan.fields data i) = .ok true →
    field.isMember → ∃ value, field.valueOf interpreter world (slice plan.fields data i) = .ok value

def RestFills (interpreter : Interpreter σ) (plan : Plan) (world : World σ) (data : List UInt8) :
    Prop :=
  ∀ values, TakenBefore interpreter world plan.fields data values plan.fields.length →
    ∃ record, ((plan.assemble interpreter (membersOf plan.fields values)).run world).1 = .ok record

theorem verdict_of_checked (wellFormed : ∀ field ∈ plan.fields, field.WellFormed)
    (checked : (checkSymbols interpreter plan.scope plan.fields).run state = (.ok (), later))
    (free : plan.SideEffectFree interpreter (plan.world .empty state))
    (present : field ∈ plan.fields) (raw : List UInt8) :
    ∃ accepted, field.verdict interpreter (plan.world .empty state) raw = .ok accepted := by
  cases verdict : field.verdict interpreter (plan.world .empty state) raw with
  | ok accepted => exact ⟨accepted, rfl⟩
  | error fault =>
    obtain ⟨earlier, element, others, matchers, -, -, failed⟩ :=
      Pattern.accepts_fault (wellFormed field present).fixed (free.fields field present).elements
        verdict
    have member : element ∈ field.pattern.deferred :=
      Pattern.mem_deferred.mpr (matchers ▸ List.mem_append_right _ List.mem_cons_self)
    obtain ⟨-, bytes⟩ := of_checkSymbols free.elements checked
    obtain ⟨byte, resolved⟩ := bytes field present element member
    rw [world, Scope.layer_empty, resolved] at failed
    cases failed

/-- A parse that nothing makes fail has an outcome, which is a record if all fields are taken. -/
theorem parseBytes_outcome (wellFormed : ∀ field ∈ plan.fields, field.WellFormed)
    (checked : (checkSymbols interpreter plan.scope plan.fields).run state = (.ok (), later))
    (free : plan.SideEffectFree interpreter (plan.world .empty state))
    (fills : plan.RestFills interpreter (plan.world .empty state) data)
    (succeed : plan.TransformsSucceed interpreter (plan.world .empty state) data) :
    ∃ outcome, (plan.parseBytes interpreter .empty data).run state = (.ok outcome, state) ∧
      (outcome.isOk ↔ ∃ values, TakenBefore interpreter (plan.world .empty state) plan.fields data
        values plan.fields.length) := by
  have slices := parseBytes_slices interpreter plan .empty data state free.fields
  rcases taken_or_missed interpreter (plan.world .empty state) data plan.fields with
    taken | ⟨i, field, at_index, taken, stops⟩
  · obtain ⟨record, made⟩ := fills _ taken
    have parsed := (slices.1 _ taken).2
    rw [(free.assemble _).run_eq, made] at parsed
    exact ⟨_, parsed, fun _ => ⟨_, taken⟩, fun _ => rfl⟩
  · -- no values make a field taken that is missed with one choice of them
    have missed : ¬∃ values, TakenBefore interpreter (plan.world .empty state) plan.fields data
        values plan.fields.length := by
      rintro ⟨values, all⟩
      have own := all i field (List.getElem?_eq_some_iff.mp at_index).1 at_index
      exact stops own.enough ⟨own.accepted, fun member => ⟨_, own.stored member⟩⟩
    obtain ⟨short, mismatch, -⟩ := slices.2 i field _ at_index taken
    rcases Nat.lt_or_ge data.length (offset plan.fields (i + 1)) with missing | enough
    · obtain ⟨error, -, -, parsed⟩ := short missing
      exact ⟨_, parsed, nofun, fun all => absurd all missed⟩
    · obtain ⟨accepted, verdict⟩ := verdict_of_checked wellFormed checked free
        (List.mem_of_getElem? at_index) (slice plan.fields data i)
      cases accepted with
      | true =>
        exact absurd ⟨verdict, succeed i field _ at_index taken enough verdict⟩ (stops enough)
      | false =>
        obtain ⟨error, -, -, parsed⟩ := mismatch enough verdict
        exact ⟨_, parsed, nofun, fun all => absurd all missed⟩

theorem restFills_of_entries (interpreter : Interpreter σ) {plan : Plan}
    (target : plan.target = .entries) (rest : plan.rest = none ∨
      ∃ constants, plan.rest = some (.value (.dict (textEntries constants))))
    (world : World σ) (data : List UInt8) : plan.RestFills interpreter world data := by
  intro values _
  unfold assemble
  rcases rest with none | ⟨constants, constant⟩
  · rw [none, target]
    exact ⟨_, rfl⟩
  · rw [constant, target]
    dsimp only
    rw [fillFromRest_textEntries]
    exact ⟨_, rfl⟩

end Plan

namespace Format
open Plan
variable {interpreter : Interpreter σ} {format : Format} {names : Scope} {state : σ}
  {data : List UInt8}

/-- Nothing of a format has side effects or fails on data: its expressions are free of the former,
its transforms yield values, and a rest, if it has one, fills in what they leave open. -/
structure Undisturbed (interpreter : Interpreter σ) (format : Format) (names : Scope) (state : σ)
    (data : List UInt8) : Prop where
  free : format.SideEffectFree interpreter names state
  transforms : ∀ plan, ((format.compile interpreter names).run state).1 = .ok plan →
    plan.TransformsSucceed interpreter (plan.world .empty state) data
  rest : format.rest = .none ∨ ∀ plan, ((format.compile interpreter names).run state).1 = .ok plan →
    plan.RestFills interpreter (plan.world .empty state) data

/-- Whether a format's own plan parses data. -/
def parses (interpreter : Interpreter σ) (format : Format) (names : Scope) (state : σ)
    (data : List UInt8) : Bool :=
  match ((format.compile interpreter names).run state).1 with
  | .error _ => false
  | .ok plan => match ((plan.parseBytes interpreter .empty data).run state).1 with
    | .error _ => false
    | .ok outcome => outcome.isOk

theorem parses_eq (compiled : ((format.compile interpreter names).run state).1 = .ok plan)
    (parsed : (plan.parseBytes interpreter .empty data).run state = (.ok outcome, later)) :
    format.parses interpreter names state data = outcome.isOk := by
  rw [parses, compiled]
  dsimp only
  rw [parsed]

/-- The plan of an undisturbed format has an outcome, and it is a record if the fields take their
slices of the data one after another. -/
theorem Undisturbed.outcome (undisturbed : format.Undisturbed interpreter names state data)
    (compiled : ((format.compile interpreter names).run state).1 = .ok plan) :
    ∃ outcome, (plan.parseBytes interpreter .empty data).run state = (.ok outcome, state) ∧
      format.parses interpreter names state data = outcome.isOk ∧
      (outcome.isOk ↔ ∃ values, TakenBefore interpreter (plan.world .empty state) plan.fields data
        values plan.fields.length) := by
  obtain ⟨wellFormed, -, checked⟩ := (Obtained.format (Prod.ext compiled rfl)).built
  obtain ⟨-, -, target, rest⟩ := compile_parts (Prod.ext compiled rfl)
  have fills : plan.RestFills interpreter (plan.world .empty state) data := by
    rcases undisturbed.rest with none | fills
    · rw [none] at rest
      exact restFills_of_entries interpreter target (.inl rest) _ _
    · exact fills plan compiled
  obtain ⟨outcome, parsed, whole⟩ := parseBytes_outcome wellFormed checked
    (undisturbed.free plan compiled) fills (undisturbed.transforms plan compiled)
  exact ⟨outcome, parsed, parses_eq compiled parsed, whole⟩

/-- A format is disturbed by no data if its fields have no side effects and can store whatever bytes
they have, and its rest is a mapping with texts as keys or it has none. -/
theorem undisturbed_of_fields (compiled : (format.compile interpreter names).run state =
      (.ok plan, state))
    (free : ∀ field ∈ plan.fields, field.SideEffectFree interpreter (plan.world .empty state))
    (stores : ∀ field ∈ plan.fields, ∀ raw : List UInt8, raw.length = field.size →
      ∃ value, field.valueOf interpreter (plan.world .empty state) raw = .ok value)
    (entries : format.rest = .none ∨ ∃ constants, format.rest = .dict (textEntries constants))
    (data : List UInt8) : format.Undisturbed interpreter names state data := by
  obtain ⟨-, -, target, rest⟩ := compile_parts compiled
  have supplies : plan.rest = none ∨
      ∃ constants, plan.rest = some (.value (.dict (textEntries constants))) := by
    rcases entries with none | ⟨constants, constant⟩
    · rw [none] at rest
      exact .inl rest
    · rw [constant] at rest
      exact .inr ⟨constants, rest⟩
  have own (plan' : Plan) (compiled' : ((format.compile interpreter names).run state).1 =
      .ok plan') : plan' = plan := by
    rw [compiled] at compiled'
    exact (Except.ok.inj compiled').symm
  refine ⟨fun plan' compiled' => ?_, fun plan' compiled' => ?_,
    .inr fun plan' compiled' => own plan' compiled' ▸ restFills_of_entries interpreter target
      supplies _ _⟩
  · obtain rfl := own plan' compiled'
    refine ⟨free, fun e given => ?_, fun function _ given => ?_, fun t parts _ copied _ => ?_⟩
    · rcases supplies with none | ⟨constants, constant⟩
      · cases none.symm.trans given
      · cases constant.symm.trans given
    · cases target.symm.trans given
    · rcases supplies with none | ⟨constants, constant⟩
      · rw [RestCanBe, none] at copied
        cases copied
      · rw [RestCanBe, constant] at copied
        cases copied
  · obtain rfl := own plan' compiled'
    intro i field values at_index _ enough _ _
    exact stores field (List.mem_of_getElem? at_index) _ (length_slice at_index enough)

theorem undisturbed_of_plain (compiled : (format.compile interpreter names).run state =
      (.ok plan, state)) (exact : ∀ field ∈ plan.fields, field.pattern.deferred = [])
    (plain : ∀ field ∈ plan.fields, field.transform = none)
    (entries : format.rest = .none ∨ ∃ constants, format.rest = .dict (textEntries constants))
    (data : List UInt8) : format.Undisturbed interpreter names state data := by
  refine undisturbed_of_fields compiled (fun field present => ⟨fun element member => ?_,
    fun raw => ?_⟩) (fun field present raw _ => ?_) entries data
  · rw [exact field present] at member
    cases member
  · rw [Field.evaluate, plain field present]
    exact .pure _
  · rw [Field.valueOf, plain field present]
    exact ⟨_, rfl⟩

def ofMatchers (name : String) (matchers : List Matcher) : Format where
  name := .str name
  extensions := .list []
  fields := [⟨⟨matchers, .array⟩, .int 0, .none, .none, .str ""⟩]
  rest := .none
  description := .str ""
  metadata := .dict []

def planOfMatchers (name : String) (matchers : List Matcher) : Plan where
  target := .entries
  fields := [⟨some (.position 0), ⟨matchers, .array⟩, none, none, none⟩]
  rest := none
  scope := scope .empty
  reader := none
  name := .str name

theorem undisturbed_ofMatchers {label : String} {matchers : List Matcher}
    (compiled : ((ofMatchers label matchers).compile interpreter .empty).run state =
      (.ok (planOfMatchers label matchers), state))
    (exact : Pattern.deferred ⟨matchers, .array⟩ = []) (data : List UInt8) :
    (ofMatchers label matchers).Undisturbed interpreter .empty state data :=
  undisturbed_of_plain compiled (List.forall_mem_singleton.mpr exact)
    (List.forall_mem_singleton.mpr rfl) (.inl rfl) data

def wide (name : String) (count : Nat) : Format :=
  ofMatchers name (.replicate count .wildcard)

end Format

namespace Catalogue.Identifier
variable {interpreter : Interpreter σ} {formats : List Format} {names : Scope} {state : σ}
  {data : List UInt8}

/-- An identifier has the formats in their order, each with the plan that it compiles to in the
state at the beginning, if compiling has no side effects. -/
theorem of_build (built : (build interpreter formats names).run state = (.ok identifier, later))
    (free : ∀ format ∈ formats, format.SideEffectFree interpreter names state) :
    later = state ∧ List.Forall₂ (fun format entry => entry.1 = format ∧
      ((format.compile interpreter names).run state).1 = .ok entry.2)
        formats identifier.plans := by
  obtain ⟨plans, _, each, made⟩ := run_bind_ok_iff.mp built
  cases made
  dsimp only
  clear built
  induction formats generalizing plans with
  | nil =>
    cases each
    exact ⟨rfl, .nil⟩
  | cons format formats ih =>
    obtain ⟨first, others⟩ := List.forall_mem_cons.mp free
    rw [List.mapM_cons] at each
    obtain ⟨entry, middle, own, behind⟩ := run_bind_ok_iff.mp each
    obtain ⟨entries, last, more, made⟩ := run_bind_ok_iff.mp behind
    cases made
    obtain ⟨plan, _, compiled, made⟩ := run_bind_ok_iff.mp own
    cases made
    have compiles : ((format.compile interpreter names).run state).1 = .ok plan := by
      rw [compiled]
    have kept := Format.compile_keeps compiles first
    rw [Keeps, compiled] at kept
    obtain rfl : middle = state := kept
    obtain ⟨rfl, rest⟩ := ih others entries more
    exact ⟨rfl, .cons ⟨rfl, compiles⟩ rest⟩

theorem run_outcomes {identifier : Identifier}
    (plans : List.Forall₂ (fun format entry => entry.1 = format ∧
      ((format.compile interpreter names).run state).1 = .ok entry.2) formats identifier.plans)
    (undisturbed : ∀ format ∈ formats, format.Undisturbed interpreter names state data) :
    ∃ outcomes, (identifier.outcomes interpreter data).run state = (.ok outcomes, state) ∧
      (outcomes.filter (·.2.isOk)).map (·.1) =
        formats.filter (·.parses interpreter names state data) := by
  obtain ⟨plans'⟩ := identifier
  unfold outcomes
  dsimp only at plans ⊢
  induction plans with
  | nil => exact ⟨[], rfl, rfl⟩
  | @cons format entry formats entries own others ih =>
    obtain ⟨first, later⟩ := List.forall_mem_cons.mp undisturbed
    obtain ⟨rfl, compiled⟩ := own
    obtain ⟨outcome, parsed, parses, -⟩ := first.outcome compiled
    obtain ⟨outcomes, run, found⟩ := ih later
    refine ⟨(entry.1, outcome) :: outcomes, ?_, ?_⟩
    · rw [List.mapM_cons]
      exact run_bind_ok_iff.mpr ⟨(entry.1, outcome), state,
        run_bind_ok_iff.mpr ⟨outcome, state, parsed, rfl⟩,
        run_bind_ok_iff.mpr ⟨outcomes, state, run, rfl⟩⟩
    · rw [List.filter_cons, List.filter_cons, parses]
      dsimp only
      split
      · rw [List.map_cons, found]
      · exact found

theorem run_identify (built : (build interpreter formats names).run state = (.ok identifier, later))
    (undisturbed : ∀ format ∈ formats, format.Undisturbed interpreter names state data) :
    (identifier.identify interpreter data).run state =
      (.ok (bySize (formats.filter (·.parses interpreter names state data))), state) := by
  obtain ⟨-, plans⟩ := of_build built fun format present => (undisturbed format present).free
  obtain ⟨outcomes, run, found⟩ := run_outcomes plans undisturbed
  refine run_bind_ok_iff.mpr ⟨outcomes, state, run, ?_⟩
  rw [parsed, found]
  rfl

/-- Data is identified as the formats whose own plans parse it, each as often as it is in the
catalogue: the largest first, and formats of equal size in its order. A plan parses the data if its
fields take their slices one after another. One more format at the end of the catalogue is found
behind those that are at least as large, or not at all. -/
theorem identify_ranked
    (built : (build interpreter formats names).run state = (.ok identifier, later))
    (undisturbed : ∀ format ∈ formats, format.Undisturbed interpreter names state data) :
    later = state ∧ identifier.plans.map (·.1) = formats ∧
    (∀ entry ∈ identifier.plans, entry.2.size = entry.1.size ∧
      (entry.1.parses interpreter names state data ↔ ∃ values, TakenBefore interpreter
        (entry.2.world .empty state) entry.2.fields data values entry.2.fields.length)) ∧
    ∃ found, (identifier.identify interpreter data).run state = (.ok found, state) ∧
      Ranked (formats.filter (·.parses interpreter names state data)) found ∧
      ∀ further extended last, further.Undisturbed interpreter names state data →
        (build interpreter (formats ++ [further]) names).run state = (.ok extended, last) →
        (extended.identify interpreter data).run state =
          (.ok (if further.parses interpreter names state data then
              found.takeWhile (further.size ≤ ·.size) ++
                further :: found.dropWhile (further.size ≤ ·.size)
            else found), state) := by
  obtain ⟨rfl, plans⟩ := of_build built fun format present => (undisturbed format present).free
  refine ⟨rfl, ?_, fun entry listed => ?_, _, run_identify built undisturbed, .bySize _, ?_⟩
  · rw [← List.forall₂_eq_eq_eq, List.forall₂_map_left_iff]
    exact plans.flip.imp fun _ _ own => own.1
  · obtain ⟨format, present, rfl, compiled⟩ := exists_of_forall₂ plans listed
    obtain ⟨outcome, -, parses, whole⟩ := (undisturbed entry.1 present).outcome compiled
    exact ⟨(Format.of_compile (Prod.ext compiled rfl)).2, parses ▸ whole⟩
  · intro further extended last own built'
    rw [run_identify built' (List.forall_mem_append.mpr
      ⟨undisturbed, List.forall_mem_singleton.mpr own⟩), List.filter_append]
    congr 2
    cases parses : further.parses interpreter names later data with
    | true =>
      rw [List.filter_singleton, parses]
      exact (Ranked.bySize _).unique ((Ranked.bySize _).snoc further)
    | false =>
      rw [List.filter_singleton, parses]
      exact congrArg bySize (List.append_nil _)

/-- The general statement for formats of one, three and two bytes, and a further one of one byte. -/
theorem identify_ranked_wide :
    ∃ identifier extended, let formats := [Format.wide "a" 1, .wide "b" 3, .wide "c" 2]
      (build .standard formats .empty).run (fun _ => 0) = (.ok identifier, fun _ => 0) ∧
      (identifier.identify .standard [0x01, 0x02]).run (fun _ => 0) =
        (.ok [.wide "c" 2, .wide "a" 1], fun _ => 0) ∧
      (build .standard (formats ++ [.wide "d" 1]) .empty).run (fun _ => 0) =
        (.ok extended, fun _ => 0) ∧
      (extended.identify .standard [0x01, 0x02]).run (fun _ => 0) =
        (.ok [.wide "c" 2, .wide "a" 1, .wide "d" 1], fun _ => 0) := by
  let planOf (name : String) (count : Nat) : Plan :=
    Format.planOfMatchers name (.replicate count .wildcard)
  have undisturbed (name : String) (count : Nat)
      (compiled : ((Format.wide name count).compile .standard .empty).run (fun _ => 0) =
        (.ok (planOf name count), fun _ => 0)) :
      (Format.wide name count).Undisturbed .standard .empty (fun _ => 0) [0x01, 0x02] :=
    Format.undisturbed_ofMatchers compiled (List.filterMap_replicate_of_none rfl) _
  have all : ∀ format ∈ [Format.wide "a" 1, .wide "b" 3, .wide "c" 2],
      format.Undisturbed .standard .empty (fun _ => 0) [0x01, 0x02] := by
    simp only [List.forall_mem_cons]
    exact ⟨undisturbed "a" 1 rfl, undisturbed "b" 3 rfl, undisturbed "c" 2 rfl,
      List.forall_mem_nil _⟩
  have built : (build .standard [Format.wide "a" 1, .wide "b" 3, .wide "c" 2] .empty).run
      (fun _ => 0) = (.ok ⟨[(.wide "a" 1, planOf "a" 1), (.wide "b" 3, planOf "b" 3),
        (.wide "c" 2, planOf "c" 2)]⟩, fun _ => 0) := rfl
  have built' : (build .standard ([Format.wide "a" 1, .wide "b" 3, .wide "c" 2] ++ [.wide "d" 1])
      .empty).run (fun _ => 0) = (.ok ⟨[(.wide "a" 1, planOf "a" 1), (.wide "b" 3, planOf "b" 3),
        (.wide "c" 2, planOf "c" 2), (.wide "d" 1, planOf "d" 1)]⟩, fun _ => 0) := rfl
  obtain ⟨-, -, -, found, identified, ranked, further⟩ := identify_ranked built all
  have later := further _ _ _ (undisturbed "d" 1 rfl) built'
  have parsing : [Format.wide "a" 1, .wide "b" 3, .wide "c" 2].filter
      (·.parses .standard .empty (fun _ => 0) [0x01, 0x02]) = [.wide "a" 1, .wide "c" 2] := by
    with_unfolding_all rfl
  obtain rfl : found = [.wide "c" 2, .wide "a" 1] :=
    (parsing ▸ ranked).unique ((Ranked.nil.snoc (.wide "a" 1)).snoc (.wide "c" 2))
  exact ⟨_, _, built, identified, built', later.trans (by with_unfolding_all rfl)⟩

/-- Formats that are disturbed do depend on each other, or keep each other from being found. One
whose byte counts the calls of a function is not found any more if another calls it as well; and one
whose rest is a list fails when its fields match. None of them has a transform. -/
theorem identify_disturbed :
    let identified (formats : List Format) : Except Fault (List Format) :=
      ((do (← build .standard formats ⟨[("n", .counter 0)]⟩).identify .standard [0x01]
        : Action _ _).run fun _ => 0).1
    let counting : Format := .ofMatchers "counting" [.deferred ⟨"1 if n() == 2 else 0",
      .inl (.conditional (.compare (.call (.name "n") []) [.eq] [.const (.int 2)])
        (.const (.int 1)) (.const (.int 0))), none⟩]
    let calling : Format := .ofMatchers "calling"
      [.deferred ⟨"n()", .inl (.call (.name "n") []), none⟩, .wildcard]
    let listed : Format := { Format.wide "listed" 1 with rest := .list [.int 1] }
    (∀ format ∈ [counting, calling, listed], ∀ definition ∈ format.fields,
      definition.transform = .none) ∧
    identified [counting] = .ok [counting] ∧ identified [counting, calling] = .ok [] ∧
    identified [.wide "a" 1, listed] = .error (.notFillable "list") := by
  intro identified counting calling listed
  refine ⟨?_, by with_unfolding_all rfl, by with_unfolding_all rfl, by with_unfolding_all rfl⟩
  simp only [List.forall_mem_cons]
  exact ⟨List.forall_mem_singleton.mpr rfl, List.forall_mem_singleton.mpr rfl,
    List.forall_mem_singleton.mpr rfl, List.forall_mem_nil _⟩

end Catalogue.Identifier
end ByteRecord
