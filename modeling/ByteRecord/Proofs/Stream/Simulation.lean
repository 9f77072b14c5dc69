import ByteRecord.Plan.Run

/-! Readers that fill every view alike cannot be told apart by a plan. One fill decides about one
field, so a relation that each fill keeps carries over to fields, to all of them, and to a parse. -/
namespace ByteRecord

/-- A relation between readers that every fill keeps. The views need to agree only when they are
full: a parse looks at no other. -/
structure FillsAlike [Reader ρ] [Reader τ] (R : ρ → τ → Prop) : Prop where
  fill : R first second → ∀ view, ∃ filling view₁ view₂ first' second',
    Filling.fill view first = (filling, view₁, first') ∧
    Filling.fill view second = (filling, view₂, second') ∧
    R first' second' ∧ (filling = .full → view₁ = view₂)

namespace Plan
variable [Reader ρ] [Reader τ] {R : ρ → τ → Prop}

theorem runField_alike (alike : FillsAlike R) (interpreter : Interpreter σ) (field : Field)
    (world : World σ) (buffer : List UInt8) (related : R first second) :
    ∃ result world' first' second' buffer₁ buffer₂,
      (runField interpreter field).run ⟨world, first, buffer⟩ =
        (result, ⟨world', first', buffer₁⟩) ∧
      (runField interpreter field).run ⟨world, second, buffer⟩ =
        (result, ⟨world', second', buffer₂⟩) ∧
      R first' second' ∧ (∀ own taken, result = .ok (.ok own, taken) → buffer₁ = buffer₂) := by
  obtain ⟨filling, view₁, view₂, first', second', fill₁, fill₂, related', same⟩ :=
    alike.fill related (buffer.take field.size)
  rw [runField_eq, runField_eq]
  simp only [fill₁, fill₂]
  cases filling with
  | failed fault =>
    exact ⟨_, _, _, _, _, _, rfl, rfl, related', fun own taken same =>
      absurd same (passedOn_ne fault own taken)⟩
  | short received cause => exact ⟨_, _, _, _, _, _, rfl, rfl, related', nofun⟩
  | full =>
    obtain rfl := same rfl
    exact ⟨_, _, _, _, _, _, rfl, rfl, related', fun _ _ _ => rfl⟩

theorem runFields_alike (alike : FillsAlike R) (interpreter : Interpreter σ) (consumed : Nat)
    (fields : List Field) (world : World σ) (buffer : List UInt8) (related : R first second) :
    ∃ result world' first' second' buffer₁ buffer₂,
      (runFields interpreter consumed fields).run ⟨world, first, buffer⟩ =
        (result, ⟨world', first', buffer₁⟩) ∧
      (runFields interpreter consumed fields).run ⟨world, second, buffer⟩ =
        (result, ⟨world', second', buffer₂⟩) ∧
      R first' second' := by
  induction fields generalizing consumed world first second buffer with
  | nil => exact ⟨_, _, _, _, _, _, rfl, rfl, related⟩
  | cons field rest ih =>
    obtain ⟨result, world', first', second', buffer₁, buffer₂, run₁, run₂, related', same⟩ :=
      runField_alike alike interpreter field world buffer related
    rw [runFields_cons, runFields_cons, run₁, run₂]
    cases result with
    | error fault => exact ⟨_, _, _, _, _, _, rfl, rfl, related'⟩
    | ok answer =>
      obtain ⟨result, taken⟩ := answer
      cases result with
      | error error => exact ⟨_, _, _, _, _, _, rfl, rfl, related'⟩
      | ok own =>
        -- the next field starts from one and the same buffer
        obtain rfl := same own taken rfl
        obtain ⟨result, world', first', second', _, _, run₁, run₂, related'⟩ :=
          ih (consumed + taken) world' buffer₁ related'
        simp only [run₁, run₂]
        exact ⟨_, _, _, _, _, _, rfl, rfl, related'⟩

/-- Readers that are filled from alike give the same result and the same effects, and are again
related when the parse has ended. -/
theorem parseStream_alike (alike : FillsAlike R) (interpreter : Interpreter σ) (plan : Plan)
    (names : Scope) (state : σ) (related : R first second) :
    ∃ result state' first' second',
      plan.parseStream interpreter names first state = ((result, first'), state') ∧
      plan.parseStream interpreter names second state = ((result, second'), state') ∧
      R first' second' := by
  obtain ⟨result, world', first', second', buffer₁, buffer₂, run₁, run₂, related'⟩ :=
    runFields_alike alike interpreter 0 plan.fields (plan.world names state) plan.buffer
      related
  simp only [parseStream, run_eq, run₁, run₂]
  cases result with
  | error fault => exact ⟨_, _, _, _, rfl, rfl, related'⟩
  | ok answer =>
    obtain ⟨result, consumed⟩ := answer
    cases result <;> exact ⟨_, _, _, _, rfl, rfl, related'⟩

end Plan
end ByteRecord
