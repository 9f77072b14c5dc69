import ByteRecord.Proofs.Pattern.Displayed

/-! What a mismatch reports. The bytes that are observed are as many as the field has positions, and
what is displayed of the two sides differs exactly where a position rejects its byte. -/
namespace ByteRecord

/-- Where a comparison ends with a byte that is not accepted, a position rejects its byte. -/
theorem Compared.exists_rejected {matchers : List Matcher} {data : List UInt8}
    (compared : Compared matchers data own (.ok false)) :
    ∃ (i : Nat) (matcher : Matcher) (byte : UInt8) (own : List Exchange),
      matchers[i]? = some matcher ∧ data[i]? = some byte ∧ matcher.Tried byte own (.ok false) := by
  generalize same : (Except.ok false : Except Fault Bool) = result at compared
  induction compared with
  | done => cases same
  | accepted tried later ih =>
    obtain ⟨i, matcher, byte, own, at_i, at_i', rejected⟩ := ih same
    exact ⟨i + 1, matcher, byte, own, at_i, at_i', rejected⟩
  | rejected tried => exact ⟨0, _, _, _, rfl, rfl, tried⟩
  | failed tried => cases same

theorem Matcher.Tried.takes {matcher : Matcher} (tried : matcher.Tried byte own (.ok accepted))
    (plain : ∀ element, matcher ≠ .deferred element) : matcher.takes? byte = some accepted := by
  cases tried with
  | known takes => exact takes
  | computed => exact absurd rfl (plain _)

theorem Matched.mismatch {field : Field} {raw : List UInt8}
    (matched : Matched field raw own (.ok (.error error))) :
    error = .mismatch field raw ∧ Compared field.pattern.matchers raw own (.ok false) := by
  generalize same : (Except.ok (.error error) :
    Except Fault (Except ParseError Plan.Members)) = result at matched
  cases matched with
  | failed compared => cases same
  | rejected compared =>
    cases same
    exact ⟨rfl, compared⟩
  | @accepted own more result compared stored => cases result <;> cases same

section
variable [Reader ρ] {fields : List Field} {field : Field} {reader left : ρ}
  {buffer buffer' : List UInt8}

theorem Visited.length_le {result : Except Fault (Except ParseError Plan.Members)}
    (visited : Visited field reader buffer left buffer' own result) :
    buffer.length ≤ buffer'.length := by
  have grows := Filling.length_le_of_fill buffer field.size reader
  cases visited with
  | failed read => rwa [read] at grows
  | short read => rwa [read] at grows
  | full read matched => rwa [read] at grows

/-- A reader may fail with an error of reading, and then that is the result, but with no mismatch. -/
theorem Plan.passedOn_ne_mismatch (fault : Fault) (field : Field) (observed : List UInt8) :
    (passedOn fault).map (·.1) ≠ .ok (.error (.mismatch field observed)) := by
  rcases passedOn_cases fault with ⟨_, _, _, -, same⟩ | ⟨-, same⟩ <;> rw [same] <;> nofun

/-- A mismatch is about a field of the plan and about as many bytes as it has positions, which its
pattern was compared with. -/
theorem Traversed.mismatch
    (traversed : Traversed fields reader buffer own (.ok (.error (.mismatch field observed))))
    (fits : ∀ field ∈ fields, field.size ≤ buffer.length) :
    field ∈ fields ∧ observed.length = field.size ∧
      ∃ own, Compared field.pattern.matchers observed own (.ok false) := by
  generalize same : (Except.ok (.error (.mismatch field observed)) :
    Except Fault (Except ParseError Plan.Members)) = result at traversed
  induction traversed with
  | done => cases same
  | failed visited => cases same
  | @stopped other reader buffer left buffer' own error fields visited =>
    have grows := visited.length_le
    have room := fits other List.mem_cons_self
    cases same
    generalize ended : (Except.ok (.error (.mismatch field observed)) :
      Except Fault (Except ParseError Plan.Members)) = result at visited
    cases visited with
    | failed read => exact absurd ended.symm (Plan.passedOn_ne_mismatch _ field observed)
    | short read => cases ended
    | full read matched =>
      subst ended
      obtain ⟨own_bytes, compared⟩ := matched.mismatch
      cases own_bytes
      refine ⟨List.mem_cons_self, ?_, _, compared⟩
      rw [List.length_take]
      omega
  | @further other reader buffer left buffer' own members fields more result visited later ih =>
    -- Buffers only grow, so there is room for the later fields, too.
    have later_fits : ∀ field ∈ fields, field.size ≤ buffer'.length := fun other among =>
      Nat.le_trans (fits other (List.mem_cons_of_mem _ among)) visited.length_le
    have stopped : Except.ok (.error (.mismatch field observed)) = result := by
      cases result with
      | error fault => cases same
      | ok answer =>
        cases answer with
        | error error => exact same
        | ok members => cases same
    obtain ⟨among, size, compared⟩ := ih later_fits stopped
    exact ⟨List.mem_cons_of_mem _ among, size, compared⟩

end

namespace Plan

/-- What a plan responds, however a parse is started. -/
inductive Responds (interpreter : Interpreter σ) (plan : Plan) (result : Except Fault Outcome) : Prop
  | stream {ρ : Type} [Reader ρ] {reader : ρ}
    (answered : (plan.parseStream interpreter names reader state).1.1 = result)
  | source (answered : ((plan.parse interpreter names value).run state).1 = result)
  | bytes (answered : ((plan.parseBytes interpreter names data).run state).1 = result)
  | file (answered : ((plan.parseFile interpreter names content).run state).1 = result)

/-- Every outcome is that of a run of the fields with a buffer that has room for each. -/
theorem Responds.run {interpreter : Interpreter σ} {plan : Plan} {outcome : Outcome}
    (responds : plan.Responds interpreter (.ok outcome)) :
    ∃ (ρ : Type) (_ : Reader ρ) (start : Run σ ρ), start.buffer = plan.buffer ∧
      ((plan.run interpreter).run start).1 = .ok outcome := by
  cases responds with
  | stream answered => exact ⟨_, _, ⟨_, _, plan.buffer⟩, rfl, answered⟩
  | @source names value state answered =>
    cases given : (plan.streamOf interpreter value).run (plan.world names state) with
    | mk result world =>
      cases result with
      | error fault =>
        rw [parse_unsupplied interpreter given] at answered
        cases answered
      | ok stream =>
        rw [parse_supplied interpreter given] at answered
        exact ⟨_, _, ⟨world, stream, plan.buffer⟩, rfl, answered⟩
  | bytes answered => exact ⟨_, _, ⟨_, _, plan.buffer⟩, rfl, answered⟩
  | @file names content state answered =>
    cases content with
    | error fault => cases answered
    | ok data => exact ⟨_, _, ⟨_, _, plan.buffer⟩, rfl, answered⟩

theorem Responds.mismatch {interpreter : Interpreter σ} {plan : Plan}
    (fixed : ∀ field ∈ plan.fields, .openRange ∉ field.pattern.matchers)
    (responds : plan.Responds interpreter (.ok ⟨.error (.mismatch field observed), consumed⟩)) :
    field ∈ plan.fields ∧ observed.length = field.size ∧
      ∃ own, Compared field.pattern.matchers observed own (.ok false) := by
  obtain ⟨ρ, _, start, room, ran⟩ := responds.run
  have fits : ∀ field ∈ plan.fields, field.size ≤ start.buffer.length :=
    fun field among => room ▸ size_le_buffer among
  obtain ⟨own, traversed, -⟩ := runFields_logs interpreter plan.fields 0 start fixed fits
  rw [run_eq] at ran
  cases read : (runFields interpreter 0 plan.fields).run start with
  | mk result after =>
    rw [read] at ran traversed
    cases result with
    | error fault => cases ran
    | ok answer =>
      obtain ⟨result, total⟩ := answer
      cases result with
      | error error =>
        cases ran
        exact traversed.mismatch fits
      | ok members =>
        cases made : (plan.assemble interpreter members).run after.world with
        | mk value world =>
          simp only [made] at ran
          cases value <;> cases ran

end Plan

/-- What is displayed of patterns without computed elements is faithful. Two are displayed alike iff
they have the same matchers, and one is displayed as bytes are iff these are its value. So the two
sides of a mismatch are never displayed alike: they show as many positions, and those that show
neither a wildcard nor the same digits, of which there is one at least, are those at which the byte
was rejected. -/
theorem Pattern.displays_faithfully :
    (∀ pattern other : Pattern, pattern.deferred = [] → other.deferred = [] →
      (pattern.text = other.text ↔ pattern.matchers = other.matchers)) ∧
    (∀ (pattern : Pattern) (data : List UInt8), pattern.deferred = [] →
      (pattern.text = Hex.formatBytes data ↔ pattern.isLiteral ∧ pattern.toBytes = .ok data)) ∧
    ∀ (σ : Type) (interpreter : Interpreter σ) (plan : Plan) (before later : σ) (field : Field)
      (observed : List UInt8) (consumed : Nat), plan.Obtained interpreter before later →
      plan.Responds interpreter (.ok ⟨.error (.mismatch field observed), consumed⟩) →
      field.pattern.deferred = [] →
      let expected := (ParseError.mismatch field observed).expected
      let given := Hex.formatBytes observed
      expected ≠ given ∧ (Hex.positions expected).length = (Hex.positions given).length ∧
        (∃ i, Hex.DiffersAt expected given i) ∧
        ∀ i, Hex.DiffersAt expected given i ↔ ∃ matcher byte,
          field.pattern.matchers[i]? = some matcher ∧ observed[i]? = some byte ∧
          ∀ scope state, (matcher.accepts interpreter byte scope).run state = (.ok false, state) := by
  refine ⟨fun _ _ => text_eq_iff, fun pattern data plain => ?_, ?_⟩
  · rw [text_eq_formatBytes_iff plain]
    exact ⟨fun valued => ⟨isLiteral_of_toBytes valued, valued⟩, And.right⟩
  · intro σ interpreter plan before later field observed consumed obtained responds plain
    have fixed : ∀ field ∈ plan.fields, .openRange ∉ field.pattern.matchers :=
      fun field among => (obtained.built.1 field among).fixed
    obtain ⟨among, size, own, compared⟩ := responds.mismatch fixed
    have differs := differsAt_iff plain (fixed field among) observed
    have single := plain_of_deferred_eq_nil plain
    have some_place : ∃ i, Hex.DiffersAt field.pattern.text (Hex.formatBytes observed) i := by
      obtain ⟨i, matcher, byte, _, at_i, at_i', tried⟩ := compared.exists_rejected
      have rejects := tried.takes (single matcher (List.mem_of_getElem? at_i))
      exact ⟨i, (differs i).mpr ⟨matcher, byte, at_i, at_i', rejects⟩⟩
    refine ⟨?_, ?_, some_place, fun i => (differs i).trans ?_⟩
    · intro (same : field.pattern.text = Hex.formatBytes observed)
      obtain ⟨i, wanted, given, at_i, at_i', -, other⟩ := some_place
      rw [same, at_i', Option.some.injEq] at at_i
      exact other at_i.symm
    · rw [ParseError.expected, ParseError.field, positions_text plain, Hex.positions_formatBytes,
        List.length_map, List.length_map, size]
      rfl
    · refine exists_congr fun matcher => exists_congr fun byte => and_congr_right fun at_i =>
        and_congr_right fun _ => ?_
      exact Matcher.takes?_eq_false_iff (single matcher (List.mem_of_getElem? at_i)) interpreter
        before

theorem Pattern.displays_faithfully_tagged :
    let field : Field := ⟨none, ⟨[.exact 0x48, .wildcard, .exact 0x0A], .hex⟩, none, none, none⟩
    let plan : Plan := ⟨.entries, [field], none, .empty, none, .str "record"⟩
    Plan.Obtained .standard (fun _ => 0) plan (fun _ => 0) ∧
      ((plan.parseBytes .standard .empty [0x48, 0x00, 0x0D]).run fun _ => 0).1 =
        .ok ⟨.error (.mismatch field [0x48, 0x00, 0x0D]), 3⟩ ∧
      (field.pattern.text = (⟨field.pattern.matchers, .array⟩ : Pattern).text ↔
        field.pattern.matchers = field.pattern.matchers) ∧
      (field.pattern.text = Hex.formatBytes [0x48, 0x00, 0x0A] ↔
        field.pattern.isLiteral ∧ field.pattern.toBytes = .ok [0x48, 0x00, 0x0A]) ∧
      field.pattern.text ≠ Hex.formatBytes [0x48, 0x00, 0x0D] ∧
      Hex.DiffersAt field.pattern.text (Hex.formatBytes [0x48, 0x00, 0x0D]) 2 := by
  intro field plan
  have skip : Field.skip (.value (.str "48 __ 0a")) = .ok field := rfl
  have built : (Plan.build .standard .entries [field] none .empty none (.str "record")).run
      (fun _ => 0) = (.ok plan, fun _ => 0) := rfl
  have obtained : Plan.Obtained .standard (fun _ => 0) plan (fun _ => 0) :=
    .fields (List.forall_mem_singleton.mpr (.skip skip)) built
  have parsed : ((plan.parseBytes .standard .empty [0x48, 0x00, 0x0D]).run fun _ => 0).1 =
      .ok ⟨.error (.mismatch field [0x48, 0x00, 0x0D]), 3⟩ := by with_unfolding_all rfl
  obtain ⟨alike, valued, mismatch⟩ := displays_faithfully
  obtain ⟨other, -, -, differs⟩ := mismatch _ .standard plan _ _ field _ 3 obtained (.bytes parsed) rfl
  exact ⟨obtained, parsed, alike field.pattern ⟨field.pattern.matchers, .array⟩ rfl rfl,
    valued field.pattern _ rfl, other,
    (differs 2).mpr ⟨_, _, rfl, rfl, fun _ _ => rfl⟩⟩

end ByteRecord
