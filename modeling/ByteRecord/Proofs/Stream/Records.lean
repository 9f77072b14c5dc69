import Mathlib.Data.List.Forall2
import ByteRecord.Proofs.Record.Slices
import ByteRecord.Proofs.Stream.OwnBytes

/-! Records that follow one another in a stream. Each parse takes the bytes of its record and leaves
the next one untouched, so a plan without side effects reads record after record as if each stood
alone. -/
namespace ByteRecord.Plan

/-- Parses again and again from one reader, each time with further names of its own and from where
the parse before it stopped: the results, what is left of the reader, and the state. -/
def parseEach [Reader ρ] (interpreter : Interpreter σ) (plan : Plan) :
    List Scope → ρ → σ → List (Except Fault Outcome) × ρ × σ
  | [], reader, state => ([], reader, state)
  | names :: later, reader, state =>
    let ((result, reader), state) := plan.parseStream interpreter names reader state
    let (results, rest) := parseEach interpreter plan later reader state
    (result :: results, rest)

abbrev Call := Scope × List UInt8

/-- Parsed by themselves, the bytes of a call give a record. -/
def Yields (interpreter : Interpreter σ) (plan : Plan) (state : σ) (call : Call) (record : Value) :
    Prop :=
  ∃ consumed later, (plan.parseBytes interpreter call.1 call.2).run state =
    (.ok ⟨.ok record, consumed⟩, later)

section
variable [Reader ρ] [Reader τ] {Holds : ρ → List UInt8 → Prop} {Holds' : τ → List UInt8 → Prop}
  {interpreter : Interpreter σ} {plan : Plan} {names : Scope} {state : σ} {reader : ρ}
  {raw rest : List UInt8} {record : Value}

/-- Bytes that give a record by themselves give it at the start of a reader, which is left with what
follows them. -/
theorem parseStream_record (delivers : Delivers Holds)
    (free : plan.SideEffectFree interpreter (plan.world names state))
    (size : raw.length = plan.size) (alone : plan.Yields interpreter state (names, raw) record)
    (holds : Holds reader (raw ++ rest)) :
    ∃ reader', plan.parseStream interpreter names reader state =
        ((.ok ⟨.ok record, plan.size⟩, reader'), state) ∧ Holds reader' rest := by
  have bytes : Stream.IsBytes (.bytes raw) (raw ++ []) := by rw [List.append_nil, Stream.IsBytes]
  obtain ⟨result, state', reader', left, run, run', whole⟩ :=
    parseStream_own delivers Stream.isBytes_delivers interpreter plan names state size holds bytes
  obtain ⟨consumed, later, alone⟩ := alone
  have same := free.parseStream reader
  simp only [parseBytes, ExceptT.run_mk, run'] at alone
  obtain ⟨rfl, rfl⟩ := Prod.mk.inj alone
  obtain ⟨rfl, holds, -⟩ := whole record consumed rfl
  rw [run] at same
  exact ⟨reader', run.trans (congrArg _ same), holds⟩

theorem parseEach_yields (delivers : Delivers Holds) {calls : List Call} {records : List Value}
    (free : ∀ call ∈ calls, plan.SideEffectFree interpreter (plan.world call.1 state))
    (sizes : ∀ call ∈ calls, call.2.length = plan.size)
    (alone : List.Forall₂ (plan.Yields interpreter state) calls records)
    (holds : Holds reader ((calls.map Prod.snd).flatten ++ rest)) :
    ∃ reader', plan.parseEach interpreter (calls.map Prod.fst) reader state =
        (records.map fun record => .ok ⟨.ok record, plan.size⟩, reader', state) ∧
      Holds reader' rest := by
  induction alone generalizing reader with
  | nil => exact ⟨reader, rfl, holds⟩
  | @cons call record calls records own _ ih =>
    obtain ⟨own_free, free⟩ := List.forall_mem_cons.mp free
    obtain ⟨own_size, sizes⟩ := List.forall_mem_cons.mp sizes
    rw [List.map_cons, List.flatten_cons, List.append_assoc] at holds
    obtain ⟨reader₁, first, left⟩ := parseStream_record delivers own_free own_size own holds
    obtain ⟨reader', later, left⟩ := ih free sizes left
    refine ⟨reader', ?_, left⟩
    simp only [List.map_cons, parseEach, first, later]

theorem parseEach_append (calls later : List Scope) (reader : ρ) (state : σ) :
    plan.parseEach interpreter (calls ++ later) reader state =
      let (results, reader, state) := plan.parseEach interpreter calls reader state
      let (more, rest) := plan.parseEach interpreter later reader state
      (results ++ more, rest) := by
  induction calls generalizing reader state with
  | nil => rfl
  | cons names calls ih => simp only [List.cons_append, parseEach, ih]

theorem parseEach_state {calls : List Scope}
    (free : ∀ names ∈ calls, plan.SideEffectFree interpreter (plan.world names state)) :
    (plan.parseEach interpreter calls reader state).2.2 = state := by
  induction calls generalizing reader with
  | nil => rfl
  | cons names calls ih =>
    obtain ⟨own, free⟩ := List.forall_mem_cons.mp free
    have same := own.parseStream reader
    rw [parseEach]
    cases run : plan.parseStream interpreter names reader state with
    | mk answer state' =>
      rw [run] at same
      subst same
      exact ih free

end

/-- A plan can be used again and again on one reader. Bytes that follow one another, each of them a
record by itself, give these records in order and what follows them is left unread, so that the next
parse cannot be told from one of a fresh reader. Parses that succeed and parses that fail leave the
names that the expressions see and the state as they were, however many there are, and later parses
go on as if they were the first. -/
theorem parseEach_records [Reader ρ] [Reader τ] {Holds : ρ → List UInt8 → Prop}
    {Holds' : τ → List UInt8 → Prop} (delivers : Delivers Holds) (delivers' : Delivers Holds')
    (interpreter : Interpreter σ) (plan : Plan) (state : σ) :
    (∀ (calls : List Call) (records : List Value) (rest : List UInt8) (reader : ρ),
      (∀ call ∈ calls, plan.SideEffectFree interpreter (plan.world call.1 state)) →
      (∀ call ∈ calls, call.2.length = plan.size) →
      List.Forall₂ (plan.Yields interpreter state) calls records →
      Holds reader ((calls.map Prod.snd).flatten ++ rest) →
      ∃ left, plan.parseEach interpreter (calls.map Prod.fst) reader state =
          (records.map fun record => .ok ⟨.ok record, plan.size⟩, left, state) ∧
        Holds left rest ∧
        ∀ names (fresh : τ), Holds' fresh rest → ∃ result state' left' fresh' rest',
          plan.parseStream interpreter names left state = ((result, left'), state') ∧
          plan.parseStream interpreter names fresh state = ((result, fresh'), state') ∧
          Holds left' rest' ∧ Holds' fresh' rest') ∧
    ∀ (calls : List Scope) (reader : ρ),
      (∀ names ∈ calls, plan.SideEffectFree interpreter (plan.world names state)) →
      (∀ names ∈ calls, ∀ (other : τ),
        ((plan.run interpreter).run ⟨plan.world names state, other, plan.buffer⟩).2.world =
          plan.world names state) ∧
      ∃ results left, plan.parseEach interpreter calls reader state = (results, left, state) ∧
        ∀ later, plan.parseEach interpreter (calls ++ later) reader state =
          let (more, rest) := plan.parseEach interpreter later left state
          (results ++ more, rest) := by
  constructor
  · intro calls records rest reader free sizes alone holds
    obtain ⟨left, run, holds⟩ := parseEach_yields delivers free sizes alone holds
    refine ⟨left, run, holds, fun names fresh holds' => ?_⟩
    obtain ⟨result, state', left', fresh', next, next', rest', still, still'⟩ :=
      parseStream_alike (delivers.fillsAlike delivers') interpreter plan names state
        ⟨rest, holds, holds'⟩
    exact ⟨result, state', left', fresh', rest', next, next', still, still'⟩
  · intro calls reader free
    have run : plan.parseEach interpreter calls reader state =
        ((plan.parseEach interpreter calls reader state).1,
          (plan.parseEach interpreter calls reader state).2.1, state) :=
      Prod.ext rfl (Prod.ext rfl (parseEach_state free))
    refine ⟨fun names member other => (free names member).run other plan.buffer, _, _, run, fun later => ?_⟩
    rw [parseEach_append, run]

theorem tagged_free (names : Scope) (state : Expr.Counts) :
    tagged.SideEffectFree .standard (tagged.world names state) where
  fields := by
    have none_computed (field : Field) (none : field.pattern.deferred = [])
        (plain : field.transform = .none) :
        field.SideEffectFree .standard (tagged.world names state) := by
      refine ⟨fun element member => ?_, fun raw => ?_⟩
      · rw [none] at member
        cases member
      · rw [Field.evaluate, plain]
        exact .pure _
    simp only [tagged, List.forall_mem_cons]
    exact ⟨none_computed _ rfl rfl, none_computed _ rfl rfl, List.forall_mem_nil _⟩
  rest := nofun
  target := nofun
  copies := nofun

/-- Two records and the first byte of a third, cut into chunks elsewhere than between the records.
The next parse finds too few bytes and takes them, like one of a stream of that byte. -/
theorem parseEach_records_tagged :
    ∃ left left' field, tagged.fields[1]? = some field ∧
      tagged.parseEach .standard [.empty, .empty]
          (Stream.ofChunks .returns [[0x48, 0x01], [0x02, 0x48, 0x03, 0x04, 0x48]]) (fun _ => 0) =
        ([.ok ⟨.ok (.dict [(.str "a", .bytes [0x01, 0x02])]), 3⟩,
          .ok ⟨.ok (.dict [(.str "a", .bytes [0x03, 0x04])]), 3⟩], left, fun _ => 0) ∧
      Stream.IsChunked .returns left [0x48] ∧
      tagged.parseStream .standard .empty left (fun _ => 0) =
        ((.ok ⟨.error (.read field 0 none), 1⟩, left'), fun _ => 0) ∧
      ∃ results rest, tagged.parseEach .standard [.empty, .empty] left (fun _ => 0) =
        (results, rest, fun _ => 0) := by
  obtain ⟨records, unchanged⟩ := parseEach_records (Stream.isChunked_delivers .returns)
    Stream.isBytes_delivers .standard tagged fun _ => 0
  let calls : List Call := [(.empty, [0x48, 0x01, 0x02]), (.empty, [0x48, 0x03, 0x04])]
  have alone : List.Forall₂ (tagged.Yields .standard fun _ => 0) calls
      [.dict [(.str "a", .bytes [0x01, 0x02])], .dict [(.str "a", .bytes [0x03, 0x04])]] :=
    .cons ⟨3, _, by with_unfolding_all rfl⟩ (.cons ⟨3, _, by with_unfolding_all rfl⟩ .nil)
  have holds : Stream.IsChunked .returns
      (Stream.ofChunks .returns [[0x48, 0x01], [0x02, 0x48, 0x03, 0x04, 0x48]])
      ((calls.map Prod.snd).flatten ++ [0x48]) :=
    ⟨_, by decide, rfl, rfl⟩
  obtain ⟨left, run, chunked, next⟩ := records calls _ [0x48] _ (fun call _ => tagged_free call.1 _)
    (by decide) alone holds
  obtain ⟨result, state', left', fresh', rest', parsed, parsed', -⟩ := next .empty (.bytes [0x48]) rfl
  let field : Field := ⟨some (.name "a"), ⟨[.wildcard, .wildcard], .hex⟩, none, none, none⟩
  have short : tagged.parseStream .standard .empty (Stream.bytes [0x48]) (fun _ => 0) =
      ((.ok ⟨.error (.read field 0 none), 1⟩, .bytes []), fun _ => 0) := by
    with_unfolding_all rfl
  cases short.symm.trans parsed'
  obtain ⟨-, results, rest, failed, -⟩ :=
    unchanged [.empty, .empty] left fun names _ => tagged_free names _
  exact ⟨left, left', field, rfl, run, chunked, parsed, results, rest, failed⟩

end ByteRecord.Plan
