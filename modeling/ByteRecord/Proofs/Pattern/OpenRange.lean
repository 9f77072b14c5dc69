import ByteRecord.Proofs.Effect.Unchanged
import ByteRecord.Proofs.Specification.Patterns

/-! Matching with an open range. What stands before the range is compared with the head of the bytes
and what stands behind it with their end; that comes to filling the range with wildcards. -/
namespace ByteRecord

/-- A matcher accepts a byte, and that leaves the state as it is. -/
def Matcher.Takes (interpreter : Interpreter σ) (scope : Scope) (state : σ) (matcher : Matcher)
    (byte : UInt8) : Prop :=
  (matcher.accepts interpreter byte scope).run state = (.ok true, state)

theorem Matcher.isRange_eq_false {matcher : Matcher} (other : matcher ≠ .openRange) :
    matcher.isRange = false := by
  cases matcher with
  | openRange => exact absurd rfl other
  | exact value => rfl
  | wildcard => rfl
  | deferred element => rfl

namespace Pattern

/-- There are as many matchers as bytes, and each accepts the byte at its position. -/
def Fits (interpreter : Interpreter σ) (scope : Scope) (state : σ) (matchers : List Matcher)
    (data : List UInt8) : Prop :=
  List.Forall₂ (Matcher.Takes interpreter scope state) matchers data

/-- Matchers with as many wildcards in the place of a range. -/
def filled (count : Nat) (matchers : List Matcher) : List Matcher :=
  matchers.flatMap fun matcher =>
    if matcher.isRange then List.replicate count .wildcard else [matcher]

theorem filled_of_fixed (count : Nat) {matchers : List Matcher} (fixed : .openRange ∉ matchers) :
    filled count matchers = matchers := by
  induction matchers with
  | nil => rfl
  | cons matcher others ih =>
    obtain ⟨other, later⟩ := List.ne_and_not_mem_of_not_mem_cons fixed
    have single : matcher.isRange = false := Matcher.isRange_eq_false other.symm
    have rest : others.flatMap (fun matcher =>
        if matcher.isRange then List.replicate count .wildcard else [matcher]) = others := ih later
    rw [filled, List.flatMap_cons, single, rest]
    rfl

theorem filled_around (count : Nat) {before after : List Matcher} (head : .openRange ∉ before)
    (tail : .openRange ∉ after) : filled count (before ++ .openRange :: after) =
      before ++ (List.replicate count .wildcard ++ after) := by
  have first := filled_of_fixed count head
  have last := filled_of_fixed count tail
  rw [filled] at first last ⊢
  rw [List.flatMap_append, List.flatMap_cons, first, last]
  rfl

section
variable {interpreter : Interpreter σ} {scope : Scope} {state : σ}

variable (interpreter scope state) in
theorem run_acceptsAll {matchers : List Matcher} {data : List UInt8}
    (plain : ∀ element, .deferred element ∉ matchers) (same : matchers.length = data.length) :
    ∃ answer, (acceptsAll interpreter scope matchers data).run state = (.ok answer, state) ∧
      (answer = true ↔ Fits interpreter scope state matchers data) := by
  induction matchers generalizing data with
  | nil =>
    obtain rfl := List.length_eq_zero_iff.mp same.symm
    exact ⟨true, rfl, fun _ => .nil, fun _ => rfl⟩
  | cons matcher matchers ih =>
    obtain ⟨byte, data, rfl⟩ := List.exists_cons_of_length_eq_add_one same.symm
    have own : ∃ answer,
        (matcher.accepts interpreter byte scope).run state = (.ok answer, state) := by
      cases matcher with
      | exact value => exact ⟨_, rfl⟩
      | wildcard => exact ⟨_, rfl⟩
      | openRange => exact ⟨_, rfl⟩
      | deferred element => exact absurd List.mem_cons_self (plain element)
    obtain ⟨first, run⟩ := own
    rw [acceptsAll, run_bind, run]
    cases first with
    | false =>
      refine ⟨false, rfl, nofun, fun fits => ?_⟩
      cases fits with
      | cons taken _ => cases run.symm.trans taken
    | true =>
      obtain ⟨answer, later, fits⟩ :=
        ih (fun element among => plain element (List.mem_cons_of_mem _ among)) (Nat.succ.inj same)
      refine ⟨answer, later, fun yes => .cons run (fits.mp yes), fun all => ?_⟩
      cases all with
      | cons _ others => exact fits.mpr others

variable (interpreter scope state) in
/-- Without a range, the lengths are equal and every position is accepted. -/
theorem run_accepts_fixed (pattern : Pattern)
    (plain : ∀ element, .deferred element ∉ pattern.matchers)
    (fixed : .openRange ∉ pattern.matchers) (data : List UInt8) :
    ∃ answer, (pattern.accepts interpreter data scope).run state = (.ok answer, state) ∧
      (answer = true ↔ Fits interpreter scope state pattern.matchers data) := by
  rw [accepts_fixed interpreter fixed]
  split
  · next same => exact run_acceptsAll interpreter scope state plain (beq_iff_eq.mp same).symm
  · next other =>
    refine ⟨false, rfl, nofun, fun fits => absurd (beq_iff_eq.mpr ?_) other⟩
    exact (List.Forall₂.length_eq fits).symm

theorem fits_wildcards (data : List UInt8) :
    Fits interpreter scope state (List.replicate data.length .wildcard) data := by
  induction data with
  | nil => exact .nil
  | cons byte data ih => exact .cons rfl ih

/-- Both ends of the bytes fit iff wildcards in between make up for what is left. -/
theorem fits_ends_iff {before after : List Matcher} {data : List UInt8}
    (enough : before.length + after.length ≤ data.length) :
    Fits interpreter scope state before (data.take before.length) ∧
        Fits interpreter scope state after (data.drop (data.length - after.length)) ↔
      ∃ count, Fits interpreter scope state
        (before ++ (List.replicate count .wildcard ++ after)) data := by
  constructor
  · rintro ⟨head, tail⟩
    obtain ⟨middle, parted⟩ : ∃ middle, data = data.take before.length ++
        (middle ++ data.drop (data.length - after.length)) := by
      refine ⟨(data.drop before.length).take (data.length - after.length - before.length), ?_⟩
      have rest : data.drop (data.length - after.length) =
          (data.drop before.length).drop (data.length - after.length - before.length) := by
        rw [List.drop_drop, Nat.add_sub_cancel' (by omega)]
      rw [rest, List.take_append_drop, List.take_append_drop]
    refine ⟨middle.length, ?_⟩
    rw [Fits, parted]
    exact List.rel_append head (List.rel_append (fits_wildcards middle) tail)
  · rintro ⟨count, fits⟩
    have length : before.length + (count + after.length) = data.length := by
      simpa using List.Forall₂.length_eq fits
    constructor
    · have head := List.forall₂_take before.length fits
      rwa [List.take_left' rfl] at head
    · have tail := List.forall₂_drop (before.length + count) fits
      rw [← List.append_assoc, List.drop_left' (by simp)] at tail
      rwa [show data.length - after.length = before.length + count by omega]

theorem takeWhile_before {before : List Matcher} (head : .openRange ∉ before)
    (after : List Matcher) :
    (before ++ .openRange :: after).takeWhile (fun matcher => !matcher.isRange) = before := by
  have fixed : ∀ matcher ∈ before, (!matcher.isRange) = true := fun matcher among =>
    Bool.not_eq_true' _ ▸ Matcher.isRange_eq_false fun same => head (same ▸ among)
  rw [List.takeWhile_append_of_pos fixed]
  exact List.append_nil before

variable (interpreter scope state) in
/-- With one range, the wildcards in its place can be chosen so that every position is accepted. -/
theorem run_accepts_around (form : Form) {before after : List Matcher}
    (plain : ∀ element, .deferred element ∉ before ++ .openRange :: after)
    (head : .openRange ∉ before) (data : List UInt8) :
    ∃ answer, (accepts interpreter ⟨before ++ .openRange :: after, form⟩ data scope).run state =
        (.ok answer, state) ∧
      (answer = true ↔ ∃ count, Fits interpreter scope state
        (before ++ (List.replicate count .wildcard ++ after)) data) := by
  simp only [accepts, takeWhile_before head, List.drop_left' rfl]
  split
  · next few =>
    refine ⟨false, rfl, fun same => absurd same Bool.false_ne_true, fun fitting => ?_⟩
    obtain ⟨count, fits⟩ := fitting
    have length := List.Forall₂.length_eq fits
    simp only [List.length_append, List.length_replicate] at length
    omega
  · next enough =>
    have enough := Nat.le_of_not_lt enough
    have first_length : before.length = (data.take before.length).length := by
      rw [List.length_take]
      omega
    have last_length : after.length = (data.drop (data.length - after.length)).length := by
      rw [List.length_drop]
      omega
    obtain ⟨first, run, fitsHead⟩ := run_acceptsAll interpreter scope state
      (fun element among => plain element (List.mem_append_left _ among)) first_length
    obtain ⟨second, later, fitsTail⟩ := run_acceptsAll interpreter scope state
      (fun element among => plain element (List.mem_append_right _ (List.mem_cons_of_mem _ among)))
      last_length
    rw [← fits_ends_iff enough, ← fitsHead, ← fitsTail, run_bind, run]
    cases first with
    | false => exact ⟨false, rfl, by simp⟩
    | true => exact ⟨second, later, by simp⟩

end

theorem ofTokens_free_ok_iff {pieces : List Hex.Token} {pattern : Pattern} :
    ofTokens pieces true = .ok pattern ↔
      pieces.count .openRange ≤ 1 ∧ pattern = ⟨pieces.map Matcher.ofToken, .hex⟩ := by
  have ranges : (pieces.filter (· == .openRange)).length = pieces.count .openRange :=
    List.countP_eq_length_filter.symm
  by_cases several : 1 < pieces.count .openRange
  · simp [ofTokens, ranges, several, Nat.not_le.mpr several]
  · simp [ofTokens, ranges, several, Nat.le_of_not_lt several, eq_comm]

/-- A free-standing hex literal with at most one range is read as its pieces. -/
theorem ofFreeHex_ok_iff {digits : List Char} {pattern : Pattern} :
    ofFreeHex digits = .ok pattern ↔ ∃ pieces, Hex.tokenize digits = .ok pieces ∧
      pieces.count .openRange ≤ 1 ∧ pattern = ⟨pieces.map Matcher.ofToken, .hex⟩ := by
  rw [ofFreeHex]
  cases Hex.tokenize digits with
  | error fault => exact ⟨nofun, nofun⟩
  | ok pieces => simp [ofLexed, ofTokens_free_ok_iff]

theorem deferred_not_mem_ofToken (pieces : List Hex.Token) (element : Deferred) :
    .deferred element ∉ pieces.map Matcher.ofToken := by
  intro among
  obtain ⟨piece, -, made⟩ := List.mem_map.mp among
  cases piece <;> cases made

theorem openRange_mem_ofToken_iff {pieces : List Hex.Token} :
    .openRange ∈ pieces.map Matcher.ofToken ↔ .openRange ∈ pieces := by
  rw [List.mem_map]
  constructor
  · rintro ⟨piece, among, made⟩
    cases piece with
    | openRange => exact among
    | exact byte => cases made
    | wildcard => cases made
  · exact fun among => ⟨.openRange, among, rfl⟩

/-- A hex literal matches bytes iff its range, if there is one, can be filled with wildcards so that
there are as many matchers as bytes and each accepts the byte at its position. -/
theorem ofFreeHex_accepts {digits : List Char} {pattern : Pattern}
    (read : ofFreeHex digits = .ok pattern) (interpreter : Interpreter σ) (data : List UInt8)
    (scope : Scope) (state : σ) :
    ∃ answer, (pattern.accepts interpreter data scope).run state = (.ok answer, state) ∧
      (answer = true ↔
        ∃ count, Fits interpreter scope state (filled count pattern.matchers) data) ∧
      (pattern.hasRanges = false →
        (answer = true ↔ Fits interpreter scope state pattern.matchers data)) := by
  obtain ⟨pieces, -, few, rfl⟩ := ofFreeHex_ok_iff.mp read
  have plain := deferred_not_mem_ofToken pieces
  by_cases range : .openRange ∈ pieces
  · obtain ⟨before, after, rfl, head⟩ := List.eq_append_cons_of_mem range
    have tail : .openRange ∉ after := by
      rw [List.count_append, List.count_cons_self] at few
      exact List.count_eq_zero.mp (by omega)
    rw [← openRange_mem_ofToken_iff] at head tail
    rw [List.map_append, List.map_cons] at plain ⊢
    obtain ⟨answer, run, fits⟩ := run_accepts_around interpreter scope state .hex plain head data
    refine ⟨answer, run, ?_, fun fixed => ?_⟩
    · simp only [Matcher.ofToken, filled_around _ head tail]
      exact fits
    · simp [hasRanges, Matcher.ofToken, Matcher.isRange] at fixed
  · rw [← openRange_mem_ofToken_iff] at range
    obtain ⟨answer, run, fits⟩ := run_accepts_fixed interpreter scope state
      ⟨pieces.map Matcher.ofToken, .hex⟩ plain range data
    refine ⟨answer, run, ?_, fun _ => fits⟩
    simp only [filled_of_fixed _ range, exists_const]
    exact fits

/-- A range between two bytes is filled with the two bytes that are left. -/
theorem ofFreeHex_accepts_between :
    ofFreeHex "01..04".toList = .ok ⟨[.exact 1, .openRange, .exact 4], .hex⟩ ∧
    ∃ count, Fits .standard .empty (fun _ => 0)
      (filled count [.exact 1, .openRange, .exact 4]) [1, 2, 3, 4] := by
  have read : ofFreeHex "01..04".toList = .ok ⟨[.exact 1, .openRange, .exact 4], .hex⟩ := rfl
  obtain ⟨answer, run, fits, -⟩ :=
    ofFreeHex_accepts read .standard [1, 2, 3, 4] .empty fun _ => 0
  have accepted : answer = true := by
    cases run
    rfl
  exact ⟨read, fits.mp accepted⟩

end Pattern
end ByteRecord
