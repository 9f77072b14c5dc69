import ByteRecord.Proofs.Stream.HeldBytes

/-! What fields that are all matched store. Each takes its own bytes from the reader; a field with a
member stores their value, in the world that the fields before it leave. -/
namespace ByteRecord.Plan

/-- What a field stores whose pattern accepts its bytes: nothing if it has no member, else the value
of the bytes. -/
inductive Stores (interpreter : Interpreter σ) (field : Field) (raw : List UInt8)
    (world : World σ) : Members → World σ → Prop
  | skipped {later : World σ} (alone : field.member = none)
    (accepted : (Effect.apart (field.pattern.accepts interpreter raw)).run world =
      (.ok true, later)) : Stores interpreter field raw world [] later
  | bound {middle later : World σ} (own : field.member = some member)
    (accepted : (Effect.apart (field.pattern.accepts interpreter raw)).run world =
      (.ok true, middle))
    (given : (field.evaluate interpreter raw).run middle = (.ok value, later)) :
    Stores interpreter field raw world [(member, value)] later

section
variable {interpreter : Interpreter σ} {field : Field} {raw : List UInt8} {start after : World σ}
  {stored : Members}

theorem Stores.members (stores : Stores interpreter field raw start stored after) :
    stored.map (·.1) = field.member.toList := by
  cases stores with
  | skipped alone _ =>
    rw [alone]
    rfl
  | bound own _ _ =>
    rw [own]
    rfl

theorem matchField_ok_iff :
    (matchField interpreter field raw).run start = (.ok (.ok stored), after) ↔
      Stores interpreter field raw start stored after := by
  constructor
  · intro matched
    obtain ⟨accepts, middle, accepted, matched⟩ := run_bind_ok_iff.mp matched
    cases accepts with
    | false => cases matched
    | true =>
      obtain ⟨own, _, given, matched⟩ := run_bind_ok_iff.mp matched
      cases matched
      unfold memberValue at given
      split at given
      · next alone =>
        cases given
        exact .skipped alone accepted
      · next member own =>
        obtain ⟨value, _, given, made⟩ := run_bind_ok_iff.mp given
        cases made
        exact .bound own accepted given
  · intro stores
    cases stores with
    | skipped alone accepted =>
      refine run_bind_ok_iff.mpr ⟨true, _, accepted, run_bind_ok_iff.mpr ⟨[], _, ?_, rfl⟩⟩
      rw [memberValue, alone]
      rfl
    | bound own accepted given =>
      refine run_bind_ok_iff.mpr ⟨true, _, accepted, run_bind_ok_iff.mpr ⟨_, _, ?_, rfl⟩⟩
      rw [memberValue, own]
      exact run_bind_ok_iff.mpr ⟨_, _, given, rfl⟩

end

/-- Fields that are read one after another, with the bytes that each takes and what they store. -/
inductive Gathers [Reader ρ] (interpreter : Interpreter σ) :
    List Field → Run σ ρ → List (List UInt8) → Members → Run σ ρ → Prop
  | done (run : Run σ ρ) : Gathers interpreter [] run [] [] run
  | further {field : Field} {fields : List Field} {run last : Run σ ρ} {reader : ρ}
    {view raw : List UInt8} {raws : List (List UInt8)} {own stored : Members} {world : World σ}
    (filled : Filling.fill (run.buffer.take field.size) run.reader = (.full, view, reader))
    (first : (view ++ run.buffer.drop field.size).take field.size = raw)
    (stores : Stores interpreter field raw run.world own world)
    (later : Gathers interpreter fields ⟨world, reader, view ++ run.buffer.drop field.size⟩ raws
      stored last) :
    Gathers interpreter (field :: fields) run (raw :: raws) (own ++ stored) last

section
variable [Reader ρ] {interpreter : Interpreter σ} {start after : Run σ ρ} {stored : Members}
  {fields : List Field} {raws : List (List UInt8)}

theorem runField_ok {field : Field}
    (read : (runField interpreter field).run start = (.ok (.ok stored, taken), after)) :
    ∃ view reader raw world,
      Filling.fill (start.buffer.take field.size) start.reader = (.full, view, reader) ∧
      (view ++ start.buffer.drop field.size).take field.size = raw ∧
      Stores interpreter field raw start.world stored world ∧
      after = ⟨world, reader, view ++ start.buffer.drop field.size⟩ := by
  rw [runField_eq] at read
  split at read
  · next fault _ _ _ => exact absurd (congrArg Prod.fst read) (passedOn_ne fault stored taken)
  · cases read
  · next view reader filled =>
    dsimp only at read
    cases matched : (matchField interpreter field
      ((view ++ start.buffer.drop field.size).take field.size)).run start.world with
    | mk result world =>
      rw [matched] at read
      cases result with
      | error fault => cases read
      | ok result =>
        cases read
        exact ⟨view, reader, _, world, filled, rfl, matchField_ok_iff.mp matched, rfl⟩

theorem gathers_of_runFields {consumed total : Nat}
    (read : (runFields interpreter consumed fields).run start = (.ok (.ok stored, total), after)) :
    ∃ raws, Gathers interpreter fields start raws stored after := by
  induction fields generalizing consumed start stored with
  | nil =>
    cases read
    exact ⟨[], .done _⟩
  | cons field fields ih =>
    obtain ⟨own, taken, others, middle, first, later, rfl⟩ := of_runFields_cons read
    obtain ⟨view, reader, raw, world, filled, bytes, stores, rfl⟩ := runField_ok first
    obtain ⟨raws, gathers⟩ := ih later
    exact ⟨raw :: raws, .further filled bytes stores gathers⟩

theorem Gathers.members (gathers : Gathers interpreter fields start raws stored after) :
    stored.map (·.1) = fields.filterMap Field.member := by
  induction gathers with
  | done run => rfl
  | further filled first stores later ih =>
    rw [List.map_append, stores.members, ih, List.filterMap_cons]
    split
    · next alone => rw [alone]; rfl
    · next member own => rw [own]; rfl

theorem length_le_filled {field : Field} {run : Run σ ρ} {view : List UInt8} {reader : ρ}
    (filled : Filling.fill (run.buffer.take field.size) run.reader = (.full, view, reader)) :
    run.buffer.length ≤ (view ++ run.buffer.drop field.size).length := by
  have grows := Filling.length_le_of_fill run.buffer field.size run.reader
  rwa [filled] at grows

theorem Gathers.sizes (gathers : Gathers interpreter fields start raws stored after)
    (fits : ∀ field ∈ fields, field.size ≤ start.buffer.length) :
    raws.map List.length = fields.map Field.size := by
  induction gathers with
  | done run => rfl
  | further filled first stores later ih =>
    obtain ⟨own_fits, fits⟩ := List.forall_mem_cons.mp fits
    have grows := length_le_filled filled
    rw [List.map_cons, List.map_cons, ← first, List.length_take,
      Nat.min_eq_left (Nat.le_trans own_fits grows)]
    rw [ih fun other present => Nat.le_trans (fits other present) grows]

/-- From a reader that holds bytes, the fields take them as they come. -/
theorem Gathers.held {Holds : ρ → List UInt8 → Prop}
    (gathers : Gathers interpreter fields start raws stored after) (delivers : Delivers Holds)
    (fits : ∀ field ∈ fields, field.size ≤ start.buffer.length)
    (holds : Holds start.reader data) :
    ∃ rest, data = raws.flatten ++ rest ∧ Holds after.reader rest := by
  induction gathers generalizing data with
  | done run => exact ⟨data, rfl, holds⟩
  | @further field fields run last reader view raw raws own stored world filled first stores later
      ih =>
    obtain ⟨own_fits, fits⟩ := List.forall_mem_cons.mp fits
    have width : (run.buffer.take field.size).length = field.size := by
      rw [List.length_take, Nat.min_eq_left own_fits]
    by_cases enough : field.size ≤ data.length
    · have size : (data.take field.size).length = field.size := by
        rw [List.length_take, Nat.min_eq_left enough]
      rw [← List.take_append_drop field.size data] at holds
      obtain ⟨reader', full, held⟩ := Filling.fill_full delivers holds (width.trans size.symm)
      have grows := length_le_filled filled
      cases full.symm.trans filled
      have same : data.take field.size = raw := (List.take_left' size).symm.trans first
      obtain ⟨rest, left, held⟩ :=
        ih (fun other present => Nat.le_trans (fits other present) grows) held
      refine ⟨rest, ?_, held⟩
      rw [List.flatten_cons, List.append_assoc, ← left, ← same, List.take_append_drop]
    · -- with fewer bytes than its size, the field would not be filled
      obtain ⟨view', reader', short, -⟩ :=
        Filling.fill_short delivers holds (width ▸ Nat.lt_of_not_le enough)
      cases short.symm.trans filled

end
end ByteRecord.Plan
