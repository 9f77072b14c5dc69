import ByteRecord.Proofs.Pattern.OpenRange
import ByteRecord.Proofs.Record.Slices

/-! Layouts of fixed bytes and wildcards. Such fields accept data exactly if it is long enough and
shows the fixed bytes of all of them, one pattern after the other, at their positions. -/
namespace ByteRecord

/-- Whether a matcher is one byte, fixed or any. -/
def Matcher.isPlain : Matcher → Bool
  | .exact _ | .wildcard => true
  | .openRange | .deferred _ => false

namespace Pattern

/-- Data shows every fixed byte at its position. -/
def Agrees (matchers : List Matcher) (data : List UInt8) : Prop :=
  ∀ (i : Nat) (value : Int), matchers[i]? = some (.exact value) →
    ∃ byte : UInt8, data[i]? = some byte ∧ value = byte.toNat

theorem agrees_nil (data : List UInt8) : Agrees [] data :=
  fun _ _ absent => nomatch absent

theorem agrees_cons {matcher : Matcher} {matchers : List Matcher} {byte : UInt8}
    {data : List UInt8} : Agrees (matcher :: matchers) (byte :: data) ↔
      (∀ value, matcher = .exact value → value = byte.toNat) ∧ Agrees matchers data := by
  constructor
  · refine fun agrees => ⟨?_, fun i value there => agrees (i + 1) value there⟩
    rintro value rfl
    obtain ⟨_, here, same⟩ := agrees 0 value rfl
    cases here
    exact same
  · rintro ⟨own, later⟩ (_ | i) value there
    · exact ⟨byte, rfl, own value (Option.some.inj there)⟩
    · exact later i value there

/-- Of patterns one behind the other, each is compared with its own part of the data. -/
theorem agrees_append {front rest : List Matcher} {data : List UInt8}
    (enough : front.length ≤ data.length) : Agrees (front ++ rest) data ↔
      Agrees front (data.take front.length) ∧ Agrees rest (data.drop front.length) := by
  induction front generalizing data with
  | nil => exact ⟨fun agrees => ⟨agrees_nil _, agrees⟩, And.right⟩
  | cons matcher front ih =>
    cases data with
    | nil => cases enough
    | cons byte data =>
      rw [List.cons_append, agrees_cons, ih (Nat.le_of_succ_le_succ enough), ← and_assoc,
        ← agrees_cons]
      rfl

variable {interpreter : Interpreter σ} {scope : Scope} {state : σ}

theorem takes_iff {matcher : Matcher} (plain : matcher.isPlain = true) {byte : UInt8} :
    matcher.Takes interpreter scope state byte ↔
      ∀ value, matcher = .exact value → value = byte.toNat := by
  cases matcher with
  | exact number =>
    change (Except.ok (number == (byte.toNat : Int)), state) = (.ok true, state) ↔ _
    rw [Prod.mk.injEq, Except.ok.injEq, beq_iff_eq]
    exact ⟨fun ⟨same, _⟩ _ own => Matcher.exact.inj own ▸ same, fun own => ⟨own _ rfl, rfl⟩⟩
  | wildcard => exact ⟨fun _ _ => nofun, fun _ => rfl⟩
  | openRange => cases plain
  | deferred element => cases plain

theorem fits_iff {matchers : List Matcher} {data : List UInt8}
    (plain : ∀ matcher ∈ matchers, matcher.isPlain = true) :
    Fits interpreter scope state matchers data ↔
      matchers.length = data.length ∧ Agrees matchers data := by
  induction matchers generalizing data with
  | nil =>
    rw [Fits, List.forall₂_nil_left_iff, List.length_nil, eq_comm, eq_comm (a := 0),
      List.length_eq_zero_iff]
    exact ⟨fun none => ⟨none.symm, agrees_nil data⟩, fun none => none.1.symm⟩
  | cons matcher matchers ih =>
    obtain ⟨own, plain⟩ := List.forall_mem_cons.mp plain
    cases data with
    | nil =>
      constructor
      · intro fits
        cases fits
      · rintro ⟨length, -⟩
        cases length
    | cons byte data =>
      rw [Fits, List.forall₂_cons, ← Fits, ih plain, takes_iff own, agrees_cons, List.length_cons,
        List.length_cons, Nat.add_right_cancel_iff]
      exact and_left_comm

end Pattern

namespace Field
variable {interpreter : Interpreter σ} {world : World σ} {data : List UInt8}

theorem verdict_iff {field : Field}
    (plain : ∀ matcher ∈ field.pattern.matchers, matcher.isPlain = true) :
    field.verdict interpreter world data = .ok true ↔
      field.size = data.length ∧ Pattern.Agrees field.pattern.matchers data := by
  obtain ⟨answer, ran, fits⟩ := Pattern.run_accepts_fixed interpreter world.scope world.state
    field.pattern (fun element among => nomatch plain _ among) (fun among => nomatch plain _ among)
    data
  rw [verdict, ran, Except.ok.injEq, fits, Pattern.fits_iff plain]
  rfl

/-- Every field finds its whole slice of the data and accepts it. -/
def AllAccept (interpreter : Interpreter σ) (world : World σ) (fields : List Field)
    (data : List UInt8) : Prop :=
  ∀ i field, fields[i]? = some field → offset fields (i + 1) ≤ data.length ∧
    field.verdict interpreter world (slice fields data i) = .ok true

theorem allAccept_cons {field : Field} {fields : List Field} :
    AllAccept interpreter world (field :: fields) data ↔ field.size ≤ data.length ∧
      field.verdict interpreter world (data.take field.size) = .ok true ∧
      AllAccept interpreter world fields (data.drop field.size) := by
  constructor
  · intro all
    obtain ⟨enough, own⟩ := all 0 field rfl
    rw [slice_cons_zero] at own
    refine ⟨enough, own, fun i other there => ?_⟩
    obtain ⟨within, accepted⟩ := all (i + 1) other there
    rw [slice_cons_succ] at accepted
    rw [offset_cons] at within
    rw [List.length_drop]
    exact ⟨by omega, accepted⟩
  · rintro ⟨enough, own, later⟩ (_ | i) other there
    · cases there
      rw [slice_cons_zero]
      exact ⟨enough, own⟩
    · obtain ⟨within, accepted⟩ := later i other there
      rw [List.length_drop] at within
      rw [slice_cons_succ, offset_cons]
      exact ⟨by omega, accepted⟩

/-- Fields accept data exactly if it is long enough and shows their fixed bytes. -/
theorem allAccept_iff {fields : List Field}
    (plain : ∀ field ∈ fields, ∀ matcher ∈ field.pattern.matchers, matcher.isPlain = true) :
    AllAccept interpreter world fields data ↔ offset fields fields.length ≤ data.length ∧
      Pattern.Agrees (fields.flatMap (·.pattern.matchers)) data := by
  induction fields generalizing data with
  | nil => exact ⟨fun _ => ⟨Nat.zero_le _, Pattern.agrees_nil data⟩, fun _ _ _ => nofun⟩
  | cons field fields ih =>
    obtain ⟨own, plain⟩ := List.forall_mem_cons.mp plain
    rw [allAccept_cons, ih plain, verdict_iff own, List.length_cons, offset_cons,
      List.flatMap_cons, List.length_drop]
    constructor
    · rintro ⟨enough, ⟨-, first⟩, within, later⟩
      exact ⟨by omega, (Pattern.agrees_append enough).mpr ⟨first, later⟩⟩
    · rintro ⟨within, agrees⟩
      have enough : field.size ≤ data.length := by omega
      obtain ⟨first, later⟩ := (Pattern.agrees_append enough).mp agrees
      refine ⟨enough, ⟨?_, first⟩, by omega, later⟩
      rw [List.length_take, Nat.min_eq_left enough]

/-- Fields of which each can store whatever bytes it has are all taken if they accept the data. -/
theorem exists_takenBefore_iff {fields : List Field}
    (stores : ∀ field ∈ fields, ∀ raw : List UInt8, raw.length = field.size →
      ∃ value, field.valueOf interpreter world raw = .ok value) :
    (∃ values, TakenBefore interpreter world fields data values fields.length) ↔
      AllAccept interpreter world fields data := by
  constructor
  · rintro ⟨values, taken⟩ i field there
    have own := taken i field (List.getElem?_eq_some_iff.mp there).1 there
    exact ⟨own.enough, own.accepted⟩
  · intro all
    have each (i : Nat) : ∃ value, ∀ field, fields[i]? = some field →
        field.valueOf interpreter world (slice fields data i) = .ok value := by
      cases there : fields[i]? with
      | none => exact ⟨.none, fun _ => nofun⟩
      | some field =>
        obtain ⟨value, stored⟩ := stores field (List.mem_of_getElem? there) _
          (length_slice there (all i field there).1)
        exact ⟨value, fun _ same => Option.some.inj same ▸ stored⟩
    choose values own using each
    refine ⟨values, fun i field _ there => ?_⟩
    obtain ⟨enough, accepted⟩ := all i field there
    exact ⟨enough, accepted, fun _ => own i field there⟩

end Field
end ByteRecord
