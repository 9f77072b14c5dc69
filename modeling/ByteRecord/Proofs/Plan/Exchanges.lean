import ByteRecord.Proofs.Plan.Order

/-! What a plan asks an interpreter for, from its construction to the record. Every computed element
is asked for once when the plan is made; a parse asks for the stream, then for what the fields need,
and at last for what makes the record. -/
namespace ByteRecord

/-- Elements are asked for in order, each once; the first that is no byte is the last. Its error may
get a place. -/
inductive Checked : List Deferred → List Exchange → Except Fault Unit → Prop
  | done : Checked [] [] (.ok ())
  | failed (read : element.reading answer = .error fault) :
    Checked (element :: elements) [⟨element.request, answer⟩]
      (.error (fault.mapSpecification (·.locateIfMissing place)))
  | passed (read : element.reading answer = .ok byte) (later : Checked elements own result) :
    Checked (element :: elements) (⟨element.request, answer⟩ :: own) result

namespace Checked

theorem append (first : Checked elements own (.ok ())) (later : Checked others more result) :
    Checked (elements ++ others) (own ++ more) result := by
  generalize passed : Except.ok () = first_result at first
  induction first with
  | done => exact later
  | failed read => cases passed
  | passed read _ ih => exact .passed read (ih passed)

theorem append_failed (first : Checked elements own (.error fault)) (others : List Deferred) :
    Checked (elements ++ others) own (.error fault) := by
  generalize failed : Except.error fault = result at first
  induction first with
  | done => cases failed
  | failed read => exact .failed read
  | passed read _ ih => exact .passed read (ih failed)

end Checked

/-- What a plan is made of is checked: its layout first, and then its elements. -/
inductive Built : Except Fault (List Field) → List Exchange → Except Fault Plan → Prop
  | unread : Built (.error fault) [] (.error fault)
  | refused (layout : Layout.check fields = .error fault) : Built (.ok fields) [] (.error fault)
  | failed (layout : Layout.check fields = .ok ())
      (checked : Checked (fields.flatMap (·.pattern.deferred)) own (.error fault)) :
    Built (.ok fields) own (.error fault)
  | made (layout : Layout.check fields = .ok ())
      (checked : Checked (fields.flatMap (·.pattern.deferred)) own (.ok ()))
      (consists : plan.fields = fields) : Built (.ok fields) own (.ok plan)

/-- The stream of a parse: the plan's reader is asked for once, and only if nothing is given. -/
inductive Supplied (plan : Plan) : Value → List Exchange → Except Fault Stream → Prop
  | given (present : source ≠ .none) : Supplied plan source [] (Stream.ofValue source)
  | missing (absent : plan.reader = none) :
    Supplied plan .none [] (.error (.noReader plan.name.plainText))
  | asked (present : plan.reader = some reader) :
    Supplied plan .none [⟨.evaluate reader.code, answer⟩]
      (answer >>= Stream.ofValue)

inductive Constructed : Target → Value.Arguments → List Exchange → Except Fault Value → Prop
  | called : Constructed (.call function) arguments [⟨.call function arguments, answer⟩] answer
  | entries : Constructed .entries arguments [] (.ok record)

/-- A record is filled from a rest. A mapping with names for keys leads to the target. For the copy of a
plain record its own class is called once, in the place of the target, unless a part is given twice.
Nothing is called for the copy of a tuple with names, and nothing else fills in a record. -/
inductive Filled (target : Target) (args : List Value) (own : List (String × Value)) :
    Value → List Exchange → Except Fault Value → Prop
  | named (names : Plan.namedEntries entries = .ok given)
      (constructed : Constructed target
        ⟨args, own.foldl (fun values (name, value) => Plan.setNamed values name value) given⟩
        exchanges result) :
    Filled target args own (.dict entries) exchanges result
  | unnamed {failure : Failure} (names : Plan.namedEntries entries = .error failure) :
    Filled target args own (.dict entries) [] (.error (.failure failure))
  | copied {t : Value.RecordType} (plain : t.kind = .plain)
      (given : Plan.changes (parts.map (·.1)) args own = .ok changed) :
    Filled target args own (.record t parts)
      [⟨.call (.type (.record t)) (Plan.copyArguments parts changed), answer⟩] answer
  | twice {t : Value.RecordType} {failure : Failure} (plain : t.kind = .plain)
      (given : Plan.changes (parts.map (·.1)) args own = .error failure) :
    Filled target args own (.record t parts) [] (.error (.failure failure))
  | replaced {t : Value.RecordType} (tuple : t.kind = .tuple) :
    Filled target args own (.record t parts) [] (Effect.ofResult
      ((Plan.changes (parts.map (·.1)) args own >>= Value.replaceParts parts).map (.record t)))
  | refused (unnamed : ∀ entries, rest ≠ .dict entries)
      (loose : ∀ t parts, rest = .record t parts → t.kind = .loose) :
    Filled target args own rest [] (.error fault)

/-- The record is made of the members: the rest is asked for once, and then the target. -/
inductive Assembled (plan : Plan) (members : Plan.Members) :
    List Exchange → Except Fault Value → Prop
  | plain (rest : plan.rest = none)
      (constructed : Constructed plan.target ⟨Plan.positional members, Plan.named members⟩ own
        result) :
    Assembled plan members own result
  | value (rest : plan.rest = some (.value value))
      (filled : Filled plan.target (Plan.positional members) (Plan.named members) value own
        result) :
    Assembled plan members own result
  | failed (rest : plan.rest = some (.expression e)) :
    Assembled plan members [⟨.evaluate e.code, .error fault⟩] (.error fault)
  | filled (rest : plan.rest = some (.expression e))
      (filled : Filled plan.target (Plan.positional members) (Plan.named members) value own
        result) :
    Assembled plan members (⟨.evaluate e.code, .ok value⟩ :: own) result

/-- A stream is read: the record is made only after all fields are matched. -/
inductive Read [Reader ρ] (plan : Plan) (reader : ρ) :
    List Exchange → Except Fault (Except ParseError Value) → Prop
  | failed (traversed : Traversed plan.fields reader plan.buffer own (.error fault)) :
    Read plan reader own (.error fault)
  | stopped (traversed : Traversed plan.fields reader plan.buffer own (.ok (.error error))) :
    Read plan reader own (.ok (.error error))
  | matched (traversed : Traversed plan.fields reader plan.buffer own (.ok (.ok members)))
      (assembled : Assembled plan members more result) :
    Read plan reader (own ++ more) (result.map .ok)

inductive Parsed (plan : Plan) (source : Value) :
    List Exchange → Except Fault (Except ParseError Value) → Prop
  | unsupplied (supplied : Supplied plan source own (.error fault)) :
    Parsed plan source own (.error fault)
  | read (supplied : Supplied plan source own (.ok stream)) (read : Read plan stream more result) :
    Parsed plan source (own ++ more) result

namespace Plan
variable (interpreter : Interpreter σ)

theorem checkElements_logs (scope : Scope) (field : Field) (elements : List Deferred) (state : σ) :
    Logs Logged.mk state (checkElements interpreter scope field elements)
      (checkElements interpreter.logged scope field elements) (Checked elements) := by
  induction elements generalizing state with
  | nil => exact .pure .done
  | cons element elements ih =>
    let place : Fault → Fault := Fault.mapSpecification (·.locateIfMissing field.location)
    have first : Logs Logged.mk state
        (ExceptT.adapt place (element.resolve interpreter scope))
        (ExceptT.adapt place (element.resolve interpreter.logged scope))
        fun own result => ∃ answer, own = [⟨element.request, answer⟩] ∧
          result = (element.reading answer).mapError place := by
      apply (element.resolve_logs interpreter scope state).adapt
      rintro own result ⟨answer, rfl, rfl⟩
      exact ⟨answer, rfl, rfl⟩
    apply Logs.bind first
    · intro byte after _
      apply (ih after).mono
      rintro own result later before ⟨answer, rfl, same⟩
      exact .passed (mapError_ok_iff.mp same.symm) later
    · rintro own fault ⟨answer, rfl, same⟩
      cases read : element.reading answer with
      | error fault =>
        rw [read] at same
        cases same
        exact .failed read
      | ok byte =>
        rw [read] at same
        cases same

theorem checkSymbols_logs (scope : Scope) (fields : List Field) (state : σ) :
    Logs Logged.mk state (checkSymbols interpreter scope fields)
      (checkSymbols interpreter.logged scope fields)
      (Checked (fields.flatMap (·.pattern.deferred))) := by
  induction fields generalizing state with
  | nil => exact .pure .done
  | cons field fields ih =>
    apply Logs.bind (checkElements_logs interpreter scope field field.pattern.deferred state)
    · intro _ after _
      apply (ih after).mono
      intro own result later before first
      exact first.append later
    · intro own fault failed
      exact failed.append_failed _

theorem build_logs (target : Target) (fields : List Field) (rest : Option Rest) (scope : Scope)
    (reader : Option Expression) (name : Value) (state : σ) :
    Logs Logged.mk state (build interpreter target fields rest scope reader name)
      (build interpreter.logged target fields rest scope reader name) (Built (.ok fields)) := by
  apply Logs.lift_bind
  · intro fault layout
    exact .refused layout
  · intro _ layout
    apply Logs.bind (checkSymbols_logs interpreter scope fields state)
    · intro _ later _
      apply Logs.pure
      intro before checked
      rw [List.append_nil]
      exact .made layout checked rfl
    · intro own fault checked
      exact .failed layout checked

def declared (scope : Scope) (source : String) : Except Fault Declaration := do
  let cursor ← Source.Cursor.ofText source.toList
  (readDeclaration scope).run cursor |>.1

/-- A text is read, and only what it declares is asked for. -/
theorem ofText_logs (scope : Scope) (source : String) (state : σ) :
    Logs Logged.mk state (ofText interpreter scope source) (ofText interpreter.logged scope source)
      (Built ((declared scope source).map Declaration.fields)) := by
  have parts {τ : Type} (interpreter : Interpreter τ) : ofText interpreter scope source =
      (liftM (declared scope source) : Action τ Declaration) >>= fun declaration =>
        build interpreter (.call declaration.target) declaration.fields
          (declaration.rest.map .expression) scope declaration.reader
          (.str (".".intercalate declaration.path)) := by
    unfold ofText declared
    cases Source.Cursor.ofText source.toList with
    | error fault => rfl
    | ok cursor => rfl
  rw [parts, parts]
  apply Logs.lift_bind
  · intro fault read
    rw [read]
    exact .unread
  · intro declaration read
    rw [read]
    exact build_logs ..

theorem compile_logs (format : Format) (names : Scope) (state : σ) :
    Logs Logged.mk state (format.compile interpreter names)
      (format.compile interpreter.logged names) (Built format.planFields) := by
  apply Logs.lift_bind
  · intro fault read
    rw [read]
    exact .unread
  · intro fields read
    rw [read]
    exact build_logs ..

theorem streamOf_logs (plan : Plan) (source : Value) (world : World σ) :
    Logs World.logged world (plan.streamOf interpreter source)
      (plan.streamOf interpreter.logged source) (Supplied plan source) := by
  unfold streamOf
  split
  · next absent => exact .throw (.missing absent)
  · next reader present =>
    apply Logs.bind (Logs.evaluate interpreter reader.code world)
    · intro value after _
      apply Logs.lift
      rintro before rfl
      exact .asked present
    · rintro own fault rfl
      exact .asked present
  · next given unsupplied =>
    apply Logs.lift
    apply Supplied.given
    rintro rfl
    cases reader : plan.reader with
    | none => exact given rfl reader
    | some e => exact unsupplied e rfl reader

theorem construct_logs (target : Target) (arguments : Value.Arguments) (world : World σ) :
    Logs World.logged world (construct interpreter target arguments)
      (construct interpreter.logged target arguments) (Constructed target arguments) := by
  cases target with
  | call function =>
    apply (Logs.call interpreter function arguments world).mono
    rintro own result rfl
    exact .called
  | entries => exact .pure .entries

theorem fillFromRest_logs (target : Target) (rest : Value) (args : List Value)
    (own : List (String × Value)) (world : World σ) :
    Logs World.logged world (fillFromRest interpreter target rest args own)
      (fillFromRest interpreter.logged target rest args own) (Filled target args own rest) := by
  have refused (fault : Fault) (unnamed : ∀ entries, rest ≠ .dict entries)
      (loose : ∀ t parts, rest = .record t parts → t.kind = .loose) :
      Logs World.logged world (throw fault : Effect σ Value) (throw fault) (Filled target args own rest) :=
    .throw (.refused unnamed loose)
  unfold fillFromRest
  split
  · next entries =>
    apply Logs.lift_bind
    · intro fault failed
      obtain ⟨failure, names, rfl⟩ := mapError_error_iff.mp failed
      exact .unnamed names
    · intro given names
      apply (construct_logs interpreter target _ world).mono
      intro exchanges result constructed
      exact .named (mapError_ok_iff.mp names) constructed
  · next t parts =>
    split
    · next plain =>
      apply Logs.lift_bind
      · intro fault failed
        obtain ⟨failure, given, rfl⟩ := mapError_error_iff.mp failed
        exact .twice plain given
      · intro changed given
        apply (Logs.call interpreter _ _ world).mono
        rintro exchanges result rfl
        exact .copied plain (mapError_ok_iff.mp given)
    · next tuple =>
      have whole : Filled target args own (.record t parts) [] _ := .replaced tuple
      apply Logs.lift_bind
      · intro fault failed
        obtain ⟨failure, given, rfl⟩ := mapError_error_iff.mp failed
        rwa [given] at whole
      · intro changed given
        rw [mapError_ok_iff.mp given] at whole
        apply Logs.lift_bind
        · intro fault failed
          obtain ⟨failure, replaced, rfl⟩ := mapError_error_iff.mp failed
          change Filled target args own (.record t parts) [] (Effect.ofResult
            ((Value.replaceParts parts changed).map (.record t))) at whole
          rwa [replaced] at whole
        · intro made replaced
          change Filled target args own (.record t parts) [] (Effect.ofResult
            ((Value.replaceParts parts changed).map (.record t))) at whole
          rw [mapError_ok_iff.mp replaced] at whole
          exact .pure whole
    · next loose =>
      apply refused
      · nofun
      · rintro t parts ⟨⟩
        exact loose
  · apply refused <;> nofun
  · next unnamed unrecorded _ =>
    apply refused
    · exact fun entries same => unnamed entries same
    · exact fun t parts same => absurd same (unrecorded t parts)

theorem assemble_logs (plan : Plan) (members : Members) (world : World σ) :
    Logs World.logged world (plan.assemble interpreter members)
      (plan.assemble interpreter.logged members) (Assembled plan members) := by
  unfold assemble
  dsimp only
  split
  · next rest =>
    apply (construct_logs interpreter plan.target _ world).mono
    intro own result constructed
    exact .plain rest constructed
  · next value rest =>
    apply (fillFromRest_logs interpreter plan.target value _ _ world).mono
    intro own result filled
    exact .value rest filled
  · next e rest =>
    apply Logs.bind (Logs.evaluate interpreter e.code world)
    · intro value after _
      apply (fillFromRest_logs interpreter plan.target value _ _ after).mono
      rintro own result filled before rfl
      exact .filled rest filled
    · rintro own fault rfl
      exact .failed rest

section
variable [Reader ρ]

theorem run_logs {plan : Plan} (fixed : ∀ field ∈ plan.fields, .openRange ∉ field.pattern.matchers)
    (world : World σ) (reader : ρ) :
    Logs Run.logged ⟨world, reader, plan.buffer⟩ (plan.run interpreter)
      (plan.run interpreter.logged)
      fun own result => Read plan reader own (result.map (·.value)) := by
  apply Logs.bind (runFields_logs interpreter plan.fields 0 ⟨world, reader, plan.buffer⟩ fixed
    fun field present => size_le_buffer present)
  · rintro ⟨answer, consumed⟩ after _
    cases answer with
    | error error =>
      apply Logs.pure
      intro before traversed
      rw [List.append_nil]
      exact .stopped traversed
    | ok members =>
      apply Logs.bind (Logs.ofEffect (assemble_logs interpreter plan members after.world))
      · intro value later _
        apply Logs.pure
        intro own assembled before traversed
        rw [List.append_nil]
        exact .matched traversed assembled
      · intro own fault assembled before traversed
        exact .matched traversed assembled
  · intro own fault traversed
    exact .failed traversed

end

theorem parse_logs {plan : Plan} (fixed : ∀ field ∈ plan.fields, .openRange ∉ field.pattern.matchers)
    (names : Scope) (source : Value) (state : σ) :
    Logs Logged.mk state (plan.parse interpreter names source)
      (plan.parse interpreter.logged names source)
      fun own result => Parsed plan source own (result.map (·.value)) := by
  obtain ⟨own, supplied, asked⟩ := streamOf_logs interpreter plan source (plan.world names state)
  cases given : (plan.streamOf interpreter source).run (plan.world names state) with
  | mk result world =>
    rw [given] at supplied asked
    cases result with
    | error fault =>
      have plain := parse_unsupplied interpreter given
      refine ⟨own, ?_, fun log => ?_⟩
      · rw [plain]
        exact .unsupplied supplied
      · rw [plain]
        exact parse_unsupplied interpreter.logged (asked log)
    | ok stream =>
      have plain := parse_supplied interpreter given
      obtain ⟨more, read, ran⟩ := run_logs interpreter fixed world stream
      refine ⟨own ++ more, ?_, fun log => ?_⟩
      · rw [plain]
        exact .read supplied read
      · have asked : (plan.streamOf interpreter.logged source).run (plan.world names ⟨state, log⟩) =
            (.ok stream, world.logged (log ++ own)) := asked log
        have later := ran (log ++ own)
        rw [Run.logged] at later
        rw [plain, parse_supplied interpreter.logged asked, later, ← List.append_assoc]
        rfl

/-- The order of evaluation. A plan asks for its computed elements once each, in order, when it is
made, and no further than the first that is no byte. A parse asks for the stream if none is given,
for what the fields need in their order and no further than the first that ends the parse, and
only after all fields are matched for the rest and for the target, each once; where the rest is a
plain record, its class takes the place of the target, and any other rest than a mapping with names
for keys leads to no call. -/
theorem evaluation_order (interpreter : Interpreter σ) :
    (∀ (target : Target) (fields : List Field) (rest : Option Rest) (scope : Scope)
      (reader : Option Expression) (name : Value) (state : σ),
      Logs Logged.mk state (build interpreter target fields rest scope reader name)
        (build interpreter.logged target fields rest scope reader name) (Built (.ok fields))) ∧
    (∀ (scope : Scope) (source : String) (state : σ),
      Logs Logged.mk state (ofText interpreter scope source)
        (ofText interpreter.logged scope source)
        (Built ((declared scope source).map Declaration.fields))) ∧
    (∀ (format : Format) (names : Scope) (state : σ),
      Logs Logged.mk state (format.compile interpreter names)
        (format.compile interpreter.logged names) (Built format.planFields)) ∧
    ∀ (plan : Plan) (before after : σ), Obtained interpreter before plan after →
      ∀ (names : Scope) (state : σ),
        (∀ source : Value,
          Logs Logged.mk state (plan.parse interpreter names source)
            (plan.parse interpreter.logged names source)
            fun own result => Parsed plan source own (result.map (·.value))) ∧
        ∀ {ρ : Type} [Reader ρ] (reader : ρ),
          ∃ own, Read plan reader own
              ((plan.parseStream interpreter names reader state).1.1.map (·.value)) ∧
            ∀ log, plan.parseStream interpreter.logged names reader ⟨state, log⟩ =
              ((plan.parseStream interpreter names reader state).1,
                ⟨(plan.parseStream interpreter names reader state).2, log ++ own⟩) := by
  refine ⟨build_logs interpreter, ofText_logs interpreter, compile_logs interpreter, ?_⟩
  intro plan before after obtained names state
  have fixed : ∀ field ∈ plan.fields, .openRange ∉ field.pattern.matchers :=
    fun field present => (obtained.built.1 field present).fixed
  refine ⟨fun source => parse_logs interpreter fixed names source state, ?_⟩
  intro ρ _ reader
  obtain ⟨own, read, ran⟩ := run_logs interpreter fixed (plan.world names state) reader
  refine ⟨own, read, fun log => ?_⟩
  have start : plan.world names ⟨state, log⟩ = (plan.world names state).logged log := rfl
  have later := ran log
  rw [Run.logged] at later
  rw [parseStream, start, later]
  rfl

/-- A plan that reads what `data` means. Its first byte is what `n` means, and for the second one the
value of `n` is stored. -/
def selfSupplied : Plan where
  target := .call (.type .dict)
  fields := [⟨none, ⟨[.deferred ⟨"n", .inl (.name "n"), none⟩], .array⟩, none, none, none⟩,
    ⟨some (.name "a"), ⟨[.wildcard], .hex⟩, none, some (.expression ⟨.str "n", .name "n", none⟩),
      none⟩]
  rest := none
  scope := ⟨[("n", .int 7), ("data", .bytes [0x07, 0x01])]⟩
  reader := some ⟨.str "data", .name "data", none⟩
  name := .str "dict"

theorem selfSupplied_obtained (state : Expr.Counts) :
    Obtained .standard state selfSupplied state := by
  have skip : Field.skip (.array [.matcher (.deferred ⟨"n", .inl (.name "n"), none⟩)]) =
      .ok ⟨none, ⟨[.deferred ⟨"n", .inl (.name "n"), none⟩], .array⟩, none, none, none⟩ := rfl
  have bound : Field.bound (.str "a") (.value (.str "__"))
      (some (.expression ⟨.str "n", .name "n", none⟩)) .none =
      .ok ⟨some (.name "a"), ⟨[.wildcard], .hex⟩, none,
        some (.expression ⟨.str "n", .name "n", none⟩), none⟩ := rfl
  have made : ∀ field ∈ selfSupplied.fields, Field.Made field :=
    List.forall_mem_cons.mpr ⟨.skip skip, List.forall_mem_singleton.mpr (.bound bound)⟩
  have built : (build .standard selfSupplied.target selfSupplied.fields none selfSupplied.scope
      selfSupplied.reader (.str "dict")).run state = (.ok selfSupplied, state) := rfl
  exact .fields made built

/-- The general statement for a parse to which nothing is given: the reader, the computed element,
the transform and the target are asked for, in this order and once each. -/
theorem evaluation_order_selfSupplied :
    let record : Value := .dict [(.str "a", .int 7)]
    Obtained .standard (fun _ => 0) selfSupplied (fun _ => 0) ∧
      Parsed selfSupplied .none
        [⟨.evaluate (.name "data"), .ok (.bytes [0x07, 0x01])⟩,
          ⟨.evaluate (.name "n"), .ok (.int 7)⟩, ⟨.evaluate (.name "n"), .ok (.int 7)⟩,
          ⟨.call (.type .dict) ⟨[], [("a", .int 7)]⟩, .ok record⟩]
        (.ok (.ok record)) := by
  intro record
  have obtained := selfSupplied_obtained fun _ => 0
  obtain ⟨-, -, -, parses⟩ := evaluation_order .standard
  obtain ⟨own, parsed, ran⟩ := (parses selfSupplied _ _ obtained .empty fun _ => 0).1 .none
  have log : ((selfSupplied.parse Interpreter.standard.logged .empty .none).run
      ⟨fun _ => 0, []⟩).2.log =
      [⟨.evaluate (.name "data"), .ok (.bytes [0x07, 0x01])⟩,
        ⟨.evaluate (.name "n"), .ok (.int 7)⟩, ⟨.evaluate (.name "n"), .ok (.int 7)⟩,
        ⟨.call (.type .dict) ⟨[], [("a", .int 7)]⟩, .ok record⟩] := by
    with_unfolding_all rfl
  have outcome : ((selfSupplied.parse .standard .empty .none).run fun _ => 0).1 =
      .ok ⟨.ok record, 2⟩ := by
    with_unfolding_all rfl
  rw [ran []] at log
  rw [outcome] at parsed
  obtain rfl : own = _ := log
  exact ⟨obtained, parsed⟩

/-- A tuple with names as rest leads to no target: all bytes are matched, and still the counter that is
the target is never called. -/
theorem record_rest_without_target :
    let point : Value := .record ⟨"Point", .tuple, ["x", "y"]⟩ [("x", .int 1), ("y", .int 2)]
    let plan : Plan := ⟨.call (.counter 0), [⟨none, ⟨[.exact 0x48], .hex⟩, none, none, none⟩],
      some (.expression ⟨.str "p", .name "p", none⟩), ⟨[("p", point)]⟩, none, .str "counter"⟩
    Obtained .standard (fun _ => 0) plan (fun _ => 0) ∧
      (plan.parse Interpreter.standard.logged .empty (.bytes [0x48])).run ⟨fun _ => 0, []⟩ =
        (.ok ⟨.ok point, 1⟩, ⟨fun _ => 0, [⟨.evaluate (.name "p"), .ok point⟩]⟩) := by
  intro point plan
  have skip : Field.skip (.value (.str "48")) =
      .ok ⟨none, ⟨[.exact 0x48], .hex⟩, none, none, none⟩ := rfl
  have made : ∀ field ∈ plan.fields, Field.Made field :=
    List.forall_mem_singleton.mpr (.skip skip)
  have built : (build .standard plan.target plan.fields plan.rest plan.scope none
      (.str "counter")).run (fun _ => 0) = (.ok plan, fun _ => 0) := rfl
  exact ⟨.fields made built, by with_unfolding_all rfl⟩

end Plan
end ByteRecord
