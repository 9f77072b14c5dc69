import ByteRecord.Plan.Run

/-! Readers that hold bytes and deliver them in pieces of any size. A view is filled with the first
bytes that the reader holds, wherever the pieces end; a field reads exactly its own bytes, and a
parse leaves the reader with what follows the bytes it consumed. -/
namespace ByteRecord

/-- Readers that hold bytes: each call hands out some of the first of them, and none only if there
are none left. -/
structure Delivers [Reader ρ] (Holds : ρ → List UInt8 → Prop) : Prop where
  ask (count : Nat) : Holds reader data → 0 < count → ∃ piece rest reader',
    data = piece ++ rest ∧ Reader.ask count reader = (.handed piece, reader') ∧
    piece.length ≤ count ∧ (piece = [] → rest = []) ∧ Holds reader' rest

namespace Filling
variable [Reader ρ] {Holds : ρ → List UInt8 → Prop}

/-- A view is filled up with the first bytes that the reader holds, if they are enough. -/
theorem fillFrom_full (delivers : Delivers Holds) (protocol : Protocol)
    (holds : Holds reader (taken ++ rest)) (size : view.length = requested)
    (enough : filled + taken.length = requested) :
    ∃ reader', fillFrom protocol requested filled view reader =
      (.full, view.take filled ++ taken, reader') ∧ Holds reader' rest := by
  induction missing : taken.length using Nat.strongRecOn
    generalizing filled view reader taken with
  | ind missing ih =>
    subst missing
    by_cases lacking : filled < requested
    · obtain ⟨piece, later, reader', split, asked, fits, last, held⟩ :=
        delivers.ask (requested - filled) holds (by omega)
      -- a piece is never longer than what is missing
      obtain ⟨still, rfl, rfl⟩ : ∃ still, taken = piece ++ still ∧ later = still ++ rest := by
        obtain ⟨still, whole, rfl⟩ | ⟨excess, rfl, whole⟩ := List.append_eq_append_iff.mp split.symm
        · exact ⟨still, whole, rfl⟩
        · rw [List.length_append] at fits
          obtain rfl : excess = [] := List.length_eq_zero_iff.mp (by omega)
          exact ⟨[], by simp, by simpa using whole.symm⟩
      rw [List.length_append] at enough
      cases piece with
      | nil =>
        have none_still := (List.append_eq_nil_iff.mp (last rfl)).1
        simp only [none_still, List.length_nil] at enough
        omega
      | cons byte piece =>
        rw [List.length_cons] at enough
        have room : filled + (byte :: piece).length ≤ view.length := by
          rw [List.length_cons]
          omega
        have shorter : still.length < (byte :: piece ++ still).length := by
          simp only [List.length_append, List.length_cons]
          omega
        have further : filled + (byte :: piece).length + still.length = requested := by
          rw [List.length_cons]
          omega
        obtain ⟨reader'', fill, holds⟩ :=
          ih still.length shorter held ((length_overwrite room).trans size) further rfl
        refine ⟨reader'', ?_, holds⟩
        calc fillFrom protocol requested filled view reader
            = fillFrom protocol requested (filled + (byte :: piece).length)
                (overwrite view filled (byte :: piece)) reader' :=
              fillFrom_handed protocol lacking room asked
          _ = (.full, view.take filled ++ (byte :: piece ++ still), reader'') := by
              rw [fill, take_overwrite (by omega), List.append_assoc]
    · obtain rfl : taken = [] := List.length_eq_zero_iff.mp (by omega)
      rw [List.length_nil, Nat.add_zero] at enough
      exact ⟨reader, by rw [fillFrom_of_le protocol view (by omega), enough, ← size,
        List.take_length, List.append_nil], holds⟩

/-- Bytes that are too few for a view are all taken. -/
theorem fillFrom_short (delivers : Delivers Holds) (protocol : Protocol)
    (holds : Holds reader data) (size : view.length = requested)
    (few : filled + data.length < requested) :
    ∃ view' reader', fillFrom protocol requested filled view reader =
      (.short (filled + data.length) none, view', reader') ∧ Holds reader' [] := by
  induction missing : data.length using Nat.strongRecOn
    generalizing filled view reader data with
  | ind missing ih =>
    subst missing
    obtain ⟨piece, rest, reader', rfl, asked, fits, last, held⟩ :=
      delivers.ask (requested - filled) holds (by omega)
    rw [List.length_append] at few
    cases piece with
    | nil =>
      obtain rfl := last rfl
      exact ⟨_, reader', fillFrom_ended protocol (by omega) (by omega) asked, held⟩
    | cons byte piece =>
      have room : filled + (byte :: piece).length ≤ view.length := by omega
      have shorter : rest.length < (byte :: piece ++ rest).length := by
        simp only [List.length_append, List.length_cons]
        omega
      have further : filled + (byte :: piece).length + rest.length < requested := by omega
      obtain ⟨view', reader'', fill, holds⟩ :=
        ih rest.length shorter held ((length_overwrite room).trans size) further rfl
      refine ⟨view', reader'', ?_, holds⟩
      calc fillFrom protocol requested filled view reader
          = fillFrom protocol requested (filled + (byte :: piece).length)
              (overwrite view filled (byte :: piece)) reader' :=
            fillFrom_handed protocol (by omega) room asked
        _ = (.short (filled + (byte :: piece ++ rest).length) none, view', reader'') := by
            rw [fill, List.length_append, Nat.add_assoc]

theorem fill_full (delivers : Delivers Holds) (holds : Holds reader (taken ++ rest))
    (size : view.length = taken.length) :
    ∃ reader', fill view reader = (.full, taken, reader') ∧ Holds reader' rest :=
  fillFrom_full delivers (Reader.protocol reader) holds rfl (by rw [Nat.zero_add, size])

theorem fill_short (delivers : Delivers Holds) (holds : Holds reader data)
    (few : data.length < view.length) :
    ∃ view' reader', fill view reader = (.short data.length none, view', reader') ∧
      Holds reader' [] := by
  have few_from_start : 0 + data.length < view.length := by rwa [Nat.zero_add]
  obtain ⟨view', reader', fill, holds⟩ :=
    fillFrom_short delivers (Reader.protocol reader) holds rfl few_from_start
  rw [Nat.zero_add] at fill
  exact ⟨view', reader', fill, holds⟩

end Filling

namespace Plan

theorem le_foldl_max (sizes : List Nat) (least : Nat) :
    least ≤ sizes.foldl max least ∧ ∀ size ∈ sizes, size ≤ sizes.foldl max least := by
  induction sizes generalizing least with
  | nil => simp
  | cons first rest ih =>
    obtain ⟨kept, all⟩ := ih (max least first)
    refine ⟨by simp only [List.foldl_cons]; omega, ?_⟩
    intro size member
    rcases List.mem_cons.mp member with rfl | member
    · simp only [List.foldl_cons]
      omega
    · exact all size member

theorem size_le_bufferSize {plan : Plan} (h : field ∈ plan.fields) :
    field.size ≤ plan.bufferSize :=
  (le_foldl_max (plan.fields.map Field.size) 0).2 _ (List.mem_map_of_mem h)

theorem size_le_buffer {plan : Plan} (h : field ∈ plan.fields) :
    field.size ≤ plan.buffer.length := by
  rw [buffer, List.length_replicate]
  exact size_le_bufferSize h

/-- A buffer that one field was read into still has room for the fields behind it. -/
theorem fits_refilled {field : Field} {fields : List Field} {raw buffer : List UInt8}
    (size : raw.length = field.size)
    (fits : ∀ other ∈ field :: fields, other.size ≤ buffer.length) :
    ∀ other ∈ fields, other.size ≤ (raw ++ buffer.drop field.size).length := by
  intro other member
  have own := fits field List.mem_cons_self
  have room := fits other (List.mem_cons_of_mem _ member)
  rw [List.length_append, List.length_drop]
  omega

/-- A run leaves its reader with what follows on the bytes that it counts as consumed. -/
def Leaves (Holds : ρ → List UInt8 → Prop) (data : List UInt8) (consumed : Nat)
    (ran : Except Fault (α × Nat) × Run σ ρ) : Prop :=
  ∃ rest, Holds ran.2.reader rest ∧
    ∀ answer total, ran.1 = .ok (answer, total) →
      consumed ≤ total ∧ rest = data.drop (total - consumed)

/-- What a run leaves does not depend on what is made of its answer, and bytes before those that it
reads count as consumed, too. -/
theorem Leaves.behind {Holds : ρ → List UInt8 → Prop} {rest raw : List UInt8}
    {ran : Except Fault (α × Nat) × Run σ ρ} (leaves : Leaves Holds rest (consumed + width) ran)
    (size : raw.length = width) (f : α → β) :
    Leaves Holds (raw ++ rest) consumed
      (ran.1.map fun (answer, total) => (f answer, total), ran.2) := by
  subst size
  obtain ⟨left, holds, taken⟩ := leaves
  refine ⟨left, holds, fun answer total same => ?_⟩
  cases result : ran.1 with
  | error fault =>
    rw [result] at same
    cases same
  | ok own =>
    obtain ⟨least, rfl⟩ := taken own.1 own.2 result
    rw [result] at same
    cases same
    have apart : own.2 - consumed = raw.length + (own.2 - (consumed + raw.length)) := by omega
    exact ⟨by omega, by rw [apart, List.drop_length_add_append]⟩

variable [Reader ρ] {Holds : ρ → List UInt8 → Prop} {reader : ρ} {buffer rest : List UInt8}
  (interpreter : Interpreter σ)

/-- A field that the bytes are enough for matches exactly its own, whatever the buffer held. -/
theorem runField_full (delivers : Delivers Holds) (holds : Holds reader (raw ++ rest))
    (size : raw.length = field.size) (fits : field.size ≤ buffer.length) (world : World σ) :
    ∃ reader', (runField interpreter field).run ⟨world, reader, buffer⟩ =
        (((matchField interpreter field raw).run world).1.map (·, field.size),
          ⟨((matchField interpreter field raw).run world).2, reader',
            raw ++ buffer.drop field.size⟩) ∧
      Holds reader' rest := by
  have width : (buffer.take field.size).length = raw.length := by
    rw [List.length_take, size, Nat.min_eq_left fits]
  obtain ⟨reader', fill, holds⟩ := Filling.fill_full delivers holds width
  have start : (raw ++ buffer.drop field.size).take field.size = raw := by
    rw [← size, List.take_left]
  refine ⟨reader', ?_, holds⟩
  rw [runField_eq]
  simp only [fill, start]
  rfl

theorem runField_short (delivers : Delivers Holds) (holds : Holds reader data)
    (few : data.length < field.size) (fits : field.size ≤ buffer.length) (world : World σ) :
    ∃ reader' buffer', (runField interpreter field).run ⟨world, reader, buffer⟩ =
        (.ok (.error (.read field data.length none), data.length), ⟨world, reader', buffer'⟩) ∧
      Holds reader' [] := by
  have few_for_view : data.length < (buffer.take field.size).length := by
    rwa [List.length_take, Nat.min_eq_left fits]
  obtain ⟨view', reader', fill, holds⟩ := Filling.fill_short delivers holds few_for_view
  refine ⟨reader', view' ++ buffer.drop field.size, ?_, holds⟩
  rw [runField_eq]
  simp only [fill]

/-- Bytes that are counted as consumed are those that the reader holds no longer. -/
theorem runFields_leaves (delivers : Delivers Holds) (fields : List Field) (consumed : Nat)
    (holds : Holds reader data) (fits : ∀ field ∈ fields, field.size ≤ buffer.length)
    (world : World σ) :
    Leaves Holds data consumed
      ((runFields interpreter consumed fields).run ⟨world, reader, buffer⟩) := by
  induction fields generalizing consumed reader data buffer world with
  | nil =>
    refine ⟨data, holds, ?_⟩
    rintro answer total ⟨⟩
    simp
  | cons field later ih =>
    have own := fits field List.mem_cons_self
    rw [runFields_cons]
    rcases Nat.lt_or_ge data.length field.size with few | enough
    · obtain ⟨reader', buffer', run, holds⟩ :=
        runField_short interpreter delivers holds few own world
      rw [run]
      refine ⟨[], holds, ?_⟩
      rintro answer total ⟨⟩
      simp
    · obtain ⟨raw, rest, rfl, size⟩ : ∃ raw rest, data = raw ++ rest ∧ raw.length = field.size :=
        ⟨data.take field.size, data.drop field.size, (List.take_append_drop _ _).symm,
          by rw [List.length_take, Nat.min_eq_left enough]⟩
      obtain ⟨reader', run, holds⟩ := runField_full interpreter delivers holds size own world
      rw [run]
      cases (matchField interpreter field raw).run world with
      | mk result world' =>
        cases result with
        | error fault =>
          refine ⟨rest, holds, ?_⟩
          rintro answer total ⟨⟩
        | ok result =>
          cases result with
          | error error =>
            refine ⟨rest, holds, ?_⟩
            rintro answer total ⟨⟩
            simp [← size]
          | ok own =>
            have leaves := ih (consumed + field.size) holds (fits_refilled size fits) world'
            exact leaves.behind size (Except.map (own ++ ·))

/-- A parse leaves the reader with the bytes that follow those it consumed. -/
theorem parseStream_rest (delivers : Delivers Holds) (plan : Plan) (names : Scope) (state : σ)
    (holds : Holds reader data) :
    ∃ result reader' state' rest,
      plan.parseStream interpreter names reader state = ((result, reader'), state') ∧
      Holds reader' rest ∧ ∀ outcome, result = .ok outcome → rest = data.drop outcome.consumed := by
  have leaves := runFields_leaves interpreter delivers plan.fields 0 holds
    (fun _ => size_le_buffer) (plan.world names state)
  simp only [parseStream, run_eq]
  revert leaves
  cases (runFields interpreter 0 plan.fields).run ⟨plan.world names state, reader, plan.buffer⟩ with
  | mk result after =>
    rintro ⟨rest, holds', taken⟩
    cases result with
    | error fault =>
      refine ⟨_, _, _, rest, rfl, holds', ?_⟩
      rintro outcome ⟨⟩
    | ok answer =>
      obtain ⟨result, consumed⟩ := answer
      have left : rest = data.drop consumed := (taken result consumed rfl).2
      cases result with
      | error error =>
        refine ⟨_, _, _, rest, rfl, holds', ?_⟩
        rintro outcome ⟨⟩
        exact left
      | ok members =>
        dsimp only
        cases (plan.assemble interpreter members).run after.world with
        | mk value world =>
          refine ⟨_, _, _, rest, rfl, holds', ?_⟩
          cases value with
          | error fault => rintro outcome ⟨⟩
          | ok record =>
            rintro outcome ⟨⟩
            exact left

end Plan
end ByteRecord
