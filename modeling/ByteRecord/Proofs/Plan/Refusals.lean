import ByteRecord.Proofs.Specification.Refusals

/-! Texts that are no plan. They are refused with an error that says where, apart from texts that
cannot be tokenized and from numbers of too many digits. -/
namespace ByteRecord.Plan
open Source

variable {interpreter : Interpreter σ} {scope : Scope} {source : List Char} {tokens : List Token}

section
variable {Refused : Fault → Prop}

theorem readReader_reads (located : Located source tokens Refused) :
    Reads source tokens Refused readReader fun _ => True := by
  refine Reads.get_bind fun index => ?_
  split
  · exact .pure trivial
  · refine Reads.bind (located.takeExpression true .struct) fun _ _ => ?_
    refine Reads.get_bind fun behind => ?_
    split
    · refine Reads.seq .set fun _ => ?_
      refine Reads.seq (located.takeCompiled true .struct) fun _ => ?_
      exact Reads.seq (located.expectArrow .struct .arrow) fun _ => .pure trivial
    · exact Reads.seq .set fun _ => .pure trivial

theorem readPathFrom_reads (located : Located source tokens Refused) (fuel : Nat) :
    Reads source tokens Refused (readPathFrom fuel) fun _ => True := by
  induction fuel with
  | zero => exact .pure trivial
  | succ fuel ih =>
    refine Reads.get_bind fun index => ?_
    split
    · refine Reads.bind located.next fun _ _ => ?_
      refine Reads.get_bind fun behind => ?_
      split
      · refine Reads.bind located.next fun _ _ => ?_
        exact Reads.seq ih fun _ => .pure trivial
      · exact located.fail .struct .nameAfterDot
    · exact .pure trivial

theorem readPath_reads (located : Located source tokens Refused) :
    Reads source tokens Refused readPath fun _ => True := by
  refine Reads.get_bind fun index => ?_
  split
  · refine Reads.bind located.next fun _ _ => ?_
    exact Reads.seq (readPathFrom_reads located _) fun _ => .pure trivial
  · exact located.fail .struct .typePath

end

theorem readBody_reads
    (located : Located source tokens (Refused interpreter scope source tokens)) (fuel : Nat) :
    Reads source tokens (Refused interpreter scope source tokens) (readBody fuel) fun (fields, _) =>
      ∀ field ∈ fields, field.Written source tokens := by
  induction fuel with
  | zero => exact .pure (List.forall_mem_nil _)
  | succ fuel ih =>
    refine Reads.get_bind fun index => ?_
    split
    · exact .pure (List.forall_mem_nil _)
    · split
      · refine Reads.seq (.skip 2) fun _ => ?_
        exact Reads.seq (located.takeCompiled false .struct) fun _ => .pure (List.forall_mem_nil _)
      · refine Reads.bind (Field.read_reads located) fun field own => ?_
        refine Reads.get_bind fun behind => ?_
        split
        · exact .pure (List.forall_mem_singleton.mpr own)
        · refine Reads.bind (located.expectOp "," .field .separator) fun _ _ => ?_
          refine Reads.bind ih fun (others, rest) later => ?_
          exact .pure (List.forall_mem_cons.mpr ⟨own, later⟩)

theorem readDeclaration_reads
    (located : Located source tokens (Refused interpreter scope source tokens)) :
    Reads source tokens (Refused interpreter scope source tokens) (readDeclaration scope)
      fun declaration => ∀ field ∈ declaration.fields, field.Written source tokens := by
  refine Reads.seq (readReader_reads located) fun reader => ?_
  refine Reads.get_bind fun index => ?_
  have start := located.isStart_location index
  refine Reads.seq (readPath_reads located) fun path => ?_
  refine Reads.seq (.lift (fun _ _ => trivial) fun fault refused => ?_) fun target => ?_
  · obtain ⟨cause, resolved, rfl⟩ := mapError_error_iff.mp refused
    exact located.refuse start .struct (resolvePath_refused resolved)
  · refine Reads.bind (located.expectOp _ .struct _) fun _ _ => ?_
    refine Reads.get_bind fun _ => ?_
    refine Reads.bind (readBody_reads located _) fun (fields, rest) written => ?_
    refine Reads.bind (located.expectOp _ .struct _) fun _ _ => ?_
    refine Reads.get_bind fun behind => ?_
    split
    · exact .pure written
    · exact located.fail .struct .finish

/-- The layout rules refuse fields of a text at the start of one of them. -/
theorem check_located {fields : List Field}
    (located : Located source tokens (Refused interpreter scope source tokens))
    (written : ∀ field ∈ fields, field.Written source tokens)
    (refused : Layout.check fields = .error fault) :
    Refused interpreter scope source tokens fault := by
  obtain ⟨field, cause, broken, rfl⟩ := Layout.check_refused refused
  obtain ⟨location, at_location, start⟩ := (written field broken.mem).location
  rw [at_location]
  refine located.refuse start .layout (broken.isWritable fun k present => ?_)
  obtain ⟨other, listed, own⟩ := List.mem_filterMap.mp (Layout.mem_positions.mp present)
  exact (written other listed).short k own

/-- A computed element of a text is refused where it stands, unless its value cannot be written. -/
theorem resolve_refused {element : Deferred} {state : σ}
    (located : Located source tokens (Refused interpreter scope source tokens))
    (written : element.Written source tokens)
    (refused : ((element.resolve interpreter scope).run state).1 = .error fault) :
    Refused interpreter scope source tokens fault := by
  obtain ⟨location, at_location, start⟩ := written.location
  obtain ⟨display, code, displayed, compiled, origin⟩ := written.origin
  have own : (element.outcome interpreter scope).run state =
      interpreter.evaluateApart code scope state := by
    rw [Deferred.outcome, origin]
    rfl
  have unwritten {value : Value} {cause : Cause}
      (evaluated : (interpreter.evaluateApart code scope state).1 = .ok value)
      (long : cause.isWritable = false → value.hasOverlong = true) :
      Refused interpreter scope source tokens (.ofCauseAt (some location) .pattern cause) := by
    rcases Fault.ofCauseAt_cases (some location) .pattern cause with
      ⟨writable, -⟩ | ⟨unwritable, same⟩
    · exact located.refuse start .pattern writable
    · rw [same]
      exact .computed displayed compiled evaluated (long unwritable)
  rw [Deferred.run_resolve, own] at refused
  split at refused
  · next value later given =>
    have evaluated : (interpreter.evaluateApart code scope state).1 = .ok value := by rw [given]
    unfold Deferred.byteOf at refused
    split at refused
    · next n =>
      split at refused
      · cases refused
      · rw [← Except.error.inj refused, at_location]
        refine unwritten evaluated fun unwritable => ?_
        rwa [Cause.isWritable, Bool.not_eq_false'] at unwritable
    · next value other =>
      rw [← Except.error.inj refused, at_location]
      refine unwritten evaluated fun unwritable => ?_
      rwa [Cause.isWritable, Bool.not_eq_false'] at unwritable
  · next raised later given =>
    obtain rfl : element.refusal raised = fault := Except.error.inj refused
    rcases element.refusal_cases raised with ⟨className, rfl, same⟩ | same
    · rw [same]
      exact .exits displayed compiled (congrArg Prod.fst given)
    · rw [same, at_location]
      exact located.located _ ⟨_, location, rfl, rfl, start⟩

theorem checkElements_refused {field : Field} {elements : List Deferred} {state : σ}
    (located : Located source tokens (Refused interpreter scope source tokens))
    (written : ∀ element ∈ elements, element.Written source tokens)
    (refused : ((checkElements interpreter scope field elements).run state).1 = .error fault) :
    Refused interpreter scope source tokens fault := by
  induction elements generalizing state with
  | nil => cases refused
  | cons element elements ih =>
    obtain ⟨own, others⟩ := List.forall_mem_cons.mp written
    rcases run_bind_error_iff.mp refused with failed | ⟨byte, middle, -, refused⟩
    · obtain ⟨raised, resolved, rfl⟩ := mapError_error_iff.mp failed
      have allowed := resolve_refused located own resolved
      rw [allowed.placed]
      exact allowed
    · exact ih others refused

theorem checkSymbols_refused {fields : List Field} {state : σ}
    (located : Located source tokens (Refused interpreter scope source tokens))
    (written : ∀ field ∈ fields, field.Written source tokens)
    (refused : ((checkSymbols interpreter scope fields).run state).1 = .error fault) :
    Refused interpreter scope source tokens fault := by
  induction fields generalizing state with
  | nil => cases refused
  | cons field fields ih =>
    obtain ⟨own, others⟩ := List.forall_mem_cons.mp written
    rcases run_bind_error_iff.mp refused with failed | ⟨_, middle, -, refused⟩
    · exact checkElements_refused located own.elements failed
    · exact ih others refused

/-- A text that is no plan is refused where it cannot be tokenized, or with an error at the start of
one of its tokens, unless a number in it, or one that it computes, has too many digits, or computing
one ends the program. -/
theorem ofText_refused (interpreter : Interpreter σ) (scope : Scope) (source : String) (state : σ)
    (refused : ((ofText interpreter scope source).run state).1 = .error fault) :
    (∃ error, tokenize source.toList = .error error ∧
      fault = .specification ⟨.struct, .tokens error, none, none⟩) ∨
    ∃ tokens, tokenize source.toList = .ok tokens ∧
      Refused interpreter scope source.toList tokens fault := by
  -- opening, reading, the layout and the computed elements follow each other, and each may refuse
  rcases run_bind_error_iff.mp refused with failed | ⟨cursor, _, opening, opened⟩
  · rw [run_lift, Cursor.ofText] at failed
    split at failed
    · cases failed
    · next error unscanned => exact .inl ⟨error, unscanned, (Except.error.inj failed).symm⟩
  obtain ⟨opening, rfl⟩ := run_lift_ok_iff.mp opening
  rw [Cursor.ofText] at opening
  split at opening
  · next tokens scanned =>
    cases opening
    refine .inr ⟨tokens, scanned, ?_⟩
    have located : Located source.toList tokens (Refused interpreter scope source.toList tokens) :=
      Refused.of_scanned scanned
    have own := readDeclaration_reads located 0
    generalize (readDeclaration scope).run ⟨source.toList, tokens, 0⟩ = declared at own opened
    obtain ⟨result, behind⟩ := declared
    rcases run_bind_error_iff.mp opened with failed | ⟨declaration, _, read, built⟩
    · rw [run_lift] at failed
      obtain rfl : result = .error fault := failed
      exact own
    obtain ⟨declared, -⟩ := run_lift_ok_iff.mp read
    obtain rfl : result = .ok declaration := declared
    rcases run_bind_error_iff.mp built with failed | ⟨_, _, -, checked⟩
    · rw [run_lift] at failed
      exact check_located located own.1 failed
    rcases run_bind_error_iff.mp checked with failed | ⟨_, _, -, made⟩
    · exact checkSymbols_refused located own.1 failed
    · cases made
  · cases opening

/-- The general statement for a computed element that is no byte. -/
theorem ofText_refused_element :
    let source := "dict \x7b a: [256 + 1] \x7d"
    ∃ error : SpecificationError,
      ((ofText .standard .empty source).run fun _ => 0).1 = .error (.specification error) ∧
        error.message = "line 1, column 10: byte array element `256 + 1` evaluated to 257, " ++
          "out of range 0..255" ∧
        ((∃ unscanned, tokenize source.toList = .error unscanned ∧
          Fault.specification error = .specification ⟨.struct, .tokens unscanned, none, none⟩) ∨
        ∃ tokens, tokenize source.toList = .ok tokens ∧
          Refused .standard .empty source.toList tokens (.specification error)) := by
  intro source
  have computed : (specificationOf? ((ofText .standard .empty source).run fun _ => 0).1).map
      (·.message) = some ("line 1, column 10: byte array element `256 + 1` evaluated to 257, " ++
        "out of range 0..255") := by
    decide +kernel
  obtain ⟨error, found, message⟩ := Option.map_eq_some_iff.mp computed
  have refused := specificationOf?_eq_some.mp found
  exact ⟨error, refused, message, ofText_refused .standard .empty source _ refused⟩

/-- A computed element of too many digits is no byte, and no error says so: the message would have
to show the number. -/
theorem overlong_element_escapes :
    ((ofText .standard .empty "dict \x7b a: [10 ** 4300] \x7d").run fun _ => 0).1 =
      .error (.failure .value) := by
  exact failureOf?_eq_some.mp (by decide +kernel)

end ByteRecord.Plan
