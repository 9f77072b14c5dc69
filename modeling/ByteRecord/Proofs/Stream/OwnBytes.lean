import ByteRecord.Proofs.Record.Offsets
import ByteRecord.Proofs.Stream.Chunks

/-! A plan reads its own bytes and no others. Readers that begin with the same bytes, enough of them
for every field, give the same outcome whatever follows, and a record leaves what follows unread. -/
namespace ByteRecord.Plan
variable [Reader ρ] [Reader τ] {Holds : ρ → List UInt8 → Prop} {Holds' : τ → List UInt8 → Prop}
  {first : ρ} {second : τ} {raw more more' buffer : List UInt8}

theorem runFields_own (delivers : Delivers Holds) (delivers' : Delivers Holds')
    (interpreter : Interpreter σ) (fields : List Field) (consumed : Nat) (world : World σ)
    (size : raw.length = offset fields fields.length)
    (holds : Holds first (raw ++ more)) (holds' : Holds' second (raw ++ more'))
    (fits : ∀ field ∈ fields, field.size ≤ buffer.length) :
    ∃ result world' first' second' buffer',
      (runFields interpreter consumed fields).run ⟨world, first, buffer⟩ =
        (result, ⟨world', first', buffer'⟩) ∧
      (runFields interpreter consumed fields).run ⟨world, second, buffer⟩ =
        (result, ⟨world', second', buffer'⟩) ∧
      ∀ members total, result = .ok (.ok members, total) →
        total = consumed + raw.length ∧ Holds first' more ∧ Holds' second' more' := by
  induction fields generalizing consumed world first second raw buffer with
  | nil =>
    obtain rfl := List.length_eq_zero_iff.mp size
    refine ⟨_, world, first, second, buffer, rfl, rfl, ?_⟩
    rintro members total ⟨⟩
    exact ⟨rfl, holds, holds'⟩
  | cons field later ih =>
    rw [List.length_cons, offset_cons] at size
    obtain ⟨own, rest, rfl, own_size⟩ :
        ∃ own rest, raw = own ++ rest ∧ own.length = field.size :=
      ⟨raw.take field.size, raw.drop field.size, (List.take_append_drop _ _).symm,
        by rw [List.length_take]; omega⟩
    rw [List.length_append] at size
    rw [List.append_assoc] at holds holds'
    have room := fits field List.mem_cons_self
    obtain ⟨first', run, left⟩ := runField_full interpreter delivers holds own_size room world
    obtain ⟨second', run', left'⟩ := runField_full interpreter delivers' holds' own_size room world
    rw [runFields_cons, runFields_cons, run, run']
    cases (matchField interpreter field own).run world with
    | mk result world' =>
      cases result with
      | error fault => exact ⟨_, _, _, _, _, rfl, rfl, nofun⟩
      | ok answer =>
        cases answer with
        | error error => exact ⟨_, _, _, _, _, rfl, rfl, nofun⟩
        | ok members =>
          obtain ⟨result, world'', first'', second'', buffer'', run, run', whole⟩ :=
            ih (consumed + field.size) world' (by omega) left left' (fits_refilled own_size fits)
          simp only [Except.map, run, run']
          refine ⟨_, _, _, _, _, rfl, rfl, ?_⟩
          intro all total same
          cases result with
          | error fault => cases same
          | ok answer =>
            obtain ⟨values, total'⟩ := answer
            cases values with
            | error error => cases same
            | ok values =>
              obtain ⟨rfl, left, left'⟩ := whole values total' rfl
              cases same
              exact ⟨by rw [List.length_append]; omega, left, left'⟩

/-- Readers that begin with the bytes of one record cannot be told apart by a parse. If it succeeds,
the bytes are consumed and both still hold what follows them. -/
theorem parseStream_own (delivers : Delivers Holds) (delivers' : Delivers Holds')
    (interpreter : Interpreter σ) (plan : Plan) (names : Scope) (state : σ)
    (size : raw.length = plan.size) (holds : Holds first (raw ++ more))
    (holds' : Holds' second (raw ++ more')) :
    ∃ result state' first' second',
      plan.parseStream interpreter names first state = ((result, first'), state') ∧
      plan.parseStream interpreter names second state = ((result, second'), state') ∧
      ∀ value consumed, result = .ok ⟨.ok value, consumed⟩ →
        consumed = plan.size ∧ Holds first' more ∧ Holds' second' more' := by
  obtain ⟨result, world', first', second', buffer', run, run', whole⟩ :=
    runFields_own delivers delivers' interpreter plan.fields 0 (plan.world names state)
      (size.trans plan.size_eq_offset) holds holds' fun _ => size_le_buffer
  simp only [parseStream, run_eq, run, run']
  cases result with
  | error fault =>
    refine ⟨_, _, first', second', rfl, rfl, ?_⟩
    rintro value consumed ⟨⟩
  | ok answer =>
    obtain ⟨result, consumed⟩ := answer
    cases result with
    | error error =>
      refine ⟨_, _, first', second', rfl, rfl, ?_⟩
      rintro value consumed ⟨⟩
    | ok members =>
      obtain ⟨total, left, left'⟩ := whole members consumed rfl
      dsimp only
      cases (plan.assemble interpreter members).run world' with
      | mk made world'' =>
        refine ⟨_, _, first', second', rfl, rfl, ?_⟩
        rintro value consumed' same
        cases made with
        | error fault => cases same
        | ok record =>
          cases same
          exact ⟨by omega, left, left'⟩

end ByteRecord.Plan
