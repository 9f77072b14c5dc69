import Mathlib.Data.List.Nodup
import Mathlib.Data.List.Perm.Subperm
import Mathlib.Order.Bounds.Defs
import ByteRecord.Plan.Layout

/-! The layout rules, said of the list of fields as a whole. Each check passes exactly for the lists
that keep its rule. -/
namespace ByteRecord.Layout

/-- Of two adjacent fields one has a member. -/
def SkipsApart (fields : List Field) : Prop :=
  fields.IsChain fun first second => first.isMember ∨ second.isMember

/-- The positions among the members are those from zero up to their number. -/
def PositionsFilled (fields : List Field) : Prop :=
  ∀ position ∈ positions fields, position < (positions fields).length

theorem checkSkips_ok_iff (fields : List Field) :
    checkSkips fields = .ok () ↔ SkipsApart fields := by
  fun_induction checkSkips fields with
  | case1 first second rest kept ih =>
    rw [ih, SkipsApart, SkipsApart, List.isChain_cons_cons]
    rw [Bool.or_eq_true] at kept
    exact (and_iff_right kept).symm
  | case2 first second rest skipped =>
    rw [SkipsApart, List.isChain_cons_cons]
    rw [Bool.or_eq_true] at skipped
    constructor
    · intro refused
      cases refused
    · exact fun apart => absurd apart.1 skipped
  | case3 fields short =>
    refine iff_of_true rfl ?_
    match fields with
    | [] => exact .nil
    | [_] => exact .singleton _
    | first :: second :: rest => exact absurd rfl (short first second rest)

theorem checkDistinct_ok_iff (seen : List Member) (fields : List Field) :
    checkDistinct seen fields = .ok () ↔
      (fields.filterMap Field.member).Nodup ∧
        ∀ member ∈ fields.filterMap Field.member, member ∉ seen := by
  induction fields generalizing seen with
  | nil => simp [checkDistinct]
  | cons field rest ih =>
    rw [checkDistinct]
    cases own : field.member with
    | none =>
      rw [List.filterMap_cons_none own]
      exact ih seen
    | some member =>
      rw [List.filterMap_cons_some own]
      by_cases known : member ∈ seen
      · simp only [List.contains_eq_mem, known, decide_true, if_true]
        constructor
        · intro refused
          cases refused
        · exact fun fresh => absurd known (fresh.2 member List.mem_cons_self)
      · simp only [List.contains_eq_mem, known, decide_false, Bool.false_eq_true, if_false, ih,
          List.nodup_cons, List.mem_cons, not_or]
        grind

theorem mem_positions {fields : List Field} :
    k ∈ positions fields ↔ .position k ∈ fields.filterMap Field.member := by
  simp only [positions, List.mem_filterMap, Option.bind_eq_some_iff]
  constructor
  · rintro ⟨field, present, member, own, position⟩
    cases member with
    | name text => cases position
    | position other =>
      obtain rfl : other = k := Option.some.inj position
      exact ⟨field, present, own⟩
  · rintro ⟨field, present, own⟩
    exact ⟨field, present, _, own, rfl⟩

theorem any_position_iff {field : Field} {least : Nat} :
    (field.member.bind Member.position?).any (fun k => least ≤ k) = true ↔
      ∃ k, field.member = some (.position k) ∧ least ≤ k := by
  cases own : field.member with
  | none => simp
  | some member => cases member <;> simp [Member.position?]

theorem checkPositions_ok_iff (fields : List Field) :
    checkPositions fields = .ok () ↔ PositionsFilled fields := by
  simp only [checkPositions]
  split
  · next field found =>
    have late := List.find?_some found
    obtain ⟨k, own, large⟩ := any_position_iff.mp late
    have present : k ∈ positions fields := mem_positions.mpr
      (List.mem_filterMap.mpr ⟨field, List.mem_of_find?_eq_some found, own⟩)
    constructor
    · intro refused
      cases refused
    · intro filled
      exact absurd (filled k present) (Nat.not_lt_of_le large)
  · next none_found =>
    refine iff_of_true rfl fun k present => ?_
    obtain ⟨field, member, own⟩ := List.mem_filterMap.mp (mem_positions.mp present)
    have within := List.find?_eq_none.mp none_found field member
    rw [any_position_iff] at within
    exact Nat.lt_of_not_le fun large => within ⟨k, own, large⟩

theorem check_ok_iff (fields : List Field) :
    check fields = .ok () ↔
      SkipsApart fields ∧ (fields.filterMap Field.member).Nodup ∧ PositionsFilled fields := by
  have step (first next : Except Fault Unit) :
      (first >>= fun _ => next) = .ok () ↔ first = .ok () ∧ next = .ok () := by
    cases first with
    | error fault => exact ⟨nofun, nofun⟩
    | ok _ => exact (and_iff_right rfl).symm
  rw [check, step, step, checkSkips_ok_iff, checkDistinct_ok_iff, checkPositions_ok_iff]
  simp only [List.not_mem_nil, not_false_eq_true, implies_true, and_true]

/-- Neither a field nor the one behind it has a member. -/
def SkipsTwice (fields : List Field) (i : Nat) : Prop :=
  ∃ first second, fields[i]? = some first ∧ fields[i + 1]? = some second ∧
    first.member = none ∧ second.member = none

/-- The member of a field is one of those before it, or of some that were seen earlier. -/
def Repeats (seen : List Member) (fields : List Field) (i : Nat) : Prop :=
  ∃ field member, fields[i]? = some field ∧ field.member = some member ∧
    (member ∈ seen ∨ member ∈ (fields.take i).filterMap Field.member)

/-- The position of a field is not below the number of positions. -/
def Exceeds (fields : List Field) (i : Nat) : Prop :=
  ∃ field k, fields[i]? = some field ∧ field.member = some (.position k) ∧
    (positions fields).length ≤ k

/-- The rule that a list of fields breaks and the field where it does. The rules are checked one after
the other, and each of them from the first field on. -/
inductive Breaks (fields : List Field) (field : Field) : Cause → Prop
  | adjacent (first : IsLeast {i | SkipsTwice fields i} i) (here : fields[i + 1]? = some field) :
    Breaks fields field .adjacentSkips
  | repeated (apart : SkipsApart fields) (first : IsLeast {i | Repeats [] fields i} i)
    (here : fields[i]? = some field) (own : field.member = some member) :
    Breaks fields field (.repeatedMember member.toValue)
  | gap (apart : SkipsApart fields) (distinct : (fields.filterMap Field.member).Nodup)
    (first : IsLeast {i | Exceeds fields i} i) (here : fields[i]? = some field) :
    Breaks fields field (.positionGap (positions fields).length
      (((positions fields).mergeSort (· ≤ ·)).map Int.ofNat))

/-- Unless a position has too many digits, the error can be written. -/
theorem Breaks.isWritable {field : Field} (broken : Breaks fields field cause)
    (short : ∀ k ∈ positions fields, Number.isOverlong k = false) : cause.isWritable = true := by
  cases broken with
  | adjacent => rfl
  | @repeated i member _ _ here own =>
    cases member with
    | name name => rfl
    | position k =>
      have present : k ∈ positions fields :=
        mem_positions.mpr (List.mem_filterMap.mpr ⟨field, List.mem_of_getElem? here, own⟩)
      simp only [Cause.isWritable, Member.toValue, Value.hasOverlong, short k present, Bool.not_false]
  | gap =>
    simp only [Cause.isWritable, Bool.not_eq_true', List.any_eq_false]
    intro n among
    obtain ⟨k, sorted, rfl⟩ := List.mem_map.mp among
    exact Bool.not_eq_true _ ▸ short k (List.mem_mergeSort.mp sorted)

theorem Breaks.mem {field : Field} (broken : Breaks fields field cause) : field ∈ fields := by
  cases broken with
  | adjacent _ here => exact List.mem_of_getElem? here
  | repeated _ _ here _ => exact List.mem_of_getElem? here
  | gap _ _ _ here => exact List.mem_of_getElem? here

/-- What holds first of a list without its head holds one place later of the whole list. -/
theorem isLeast_succ {holds : Nat → Prop} (not_head : ¬holds 0)
    (least : IsLeast {i | holds (i + 1)} i) : IsLeast {i | holds i} (i + 1) := by
  refine ⟨least.1, fun j here => ?_⟩
  cases j with
  | zero => exact absurd here not_head
  | succ j => exact Nat.succ_le_succ (least.2 here)

theorem checkSkips_refused {fields : List Field} (refused : checkSkips fields = .error fault) :
    ∃ i field, IsLeast {i | SkipsTwice fields i} i ∧ fields[i + 1]? = some field ∧
      fault = .ofCauseAt field.location .layout .adjacentSkips := by
  fun_induction checkSkips fields with
  | case1 first second rest kept ih =>
    obtain ⟨i, field, least, here, same⟩ := ih refused
    refine ⟨i + 1, field, isLeast_succ ?_ least, here, same⟩
    rintro ⟨_, _, ⟨⟩, ⟨⟩, skipped, skipped'⟩
    simp [Field.isMember, skipped, skipped'] at kept
  | case2 first second rest skipped =>
    simp only [Field.isMember, Bool.or_eq_true, not_or, Bool.not_eq_true, Option.isSome_eq_false_iff,
      Option.isNone_iff_eq_none] at skipped
    exact ⟨0, second, ⟨⟨first, second, rfl, rfl, skipped⟩, fun _ _ => Nat.zero_le _⟩, rfl,
      (Except.error.inj refused).symm⟩
  | case3 => cases refused

/-- Behind its head a list repeats what it repeats after the head was seen. -/
theorem repeats_succ_iff {field : Field} :
    Repeats seen (field :: fields) (i + 1) ↔ Repeats (field.member.toList ++ seen) fields i := by
  have among (member : Member) : (member ∈ seen ∨
      member ∈ ((field :: fields).take (i + 1)).filterMap Field.member) ↔
        (member ∈ field.member.toList ++ seen ∨
          member ∈ (fields.take i).filterMap Field.member) := by
    cases own : field.member with
    | none => simp [own]
    | some _ => simp [own, or_left_comm, or_assoc]
  simp only [Repeats, List.getElem?_cons_succ, among]

theorem checkDistinct_refused {seen : List Member} {fields : List Field}
    (refused : checkDistinct seen fields = .error fault) :
    ∃ i field member, IsLeast {i | Repeats seen fields i} i ∧ fields[i]? = some field ∧
      field.member = some member ∧
      fault = .ofCauseAt field.location .layout (.repeatedMember member.toValue) := by
  induction fields generalizing seen with
  | nil => cases refused
  | cons field rest ih =>
    have later (fresh : ∀ member, field.member = some member → member ∉ seen)
        (refused : checkDistinct (field.member.toList ++ seen) rest = .error fault) :
        ∃ i other member, IsLeast {i | Repeats seen (field :: rest) i} i ∧
          (field :: rest)[i]? = some other ∧ other.member = some member ∧
          fault = .ofCauseAt other.location .layout (.repeatedMember member.toValue) := by
      obtain ⟨i, other, member, least, here, own, same⟩ := ih refused
      refine ⟨i + 1, other, member, isLeast_succ ?_ ?_, here, own, same⟩
      · rintro ⟨_, member, ⟨⟩, own, known | known⟩
        · exact fresh member own known
        · cases known
      · simpa only [repeats_succ_iff] using least
    rw [checkDistinct] at refused
    split at refused
    · next skipped =>
      refine later (fun member own => ?_) (by rwa [skipped])
      rw [skipped] at own
      cases own
    · next member own =>
      split at refused
      · next known =>
        rw [List.contains_iff_mem] at known
        exact ⟨0, field, member, ⟨⟨field, member, rfl, own, .inl known⟩, fun _ _ => Nat.zero_le _⟩,
          rfl, own, (Except.error.inj refused).symm⟩
      · next unknown =>
        refine later (fun other same known => ?_) (by rwa [own])
        cases own.symm.trans same
        exact unknown (List.contains_iff_mem.mpr known)

theorem checkPositions_refused {fields : List Field}
    (refused : checkPositions fields = .error fault) :
    ∃ i field, IsLeast {i | Exceeds fields i} i ∧ fields[i]? = some field ∧
      fault = .ofCauseAt field.location .layout (.positionGap (positions fields).length
        (((positions fields).mergeSort (· ≤ ·)).map Int.ofNat)) := by
  simp only [checkPositions] at refused
  split at refused
  · next field found =>
    obtain ⟨beyond, i, within, rfl, before⟩ := List.find?_eq_some_iff_getElem.mp found
    have exceeds_iff (j : Nat) : Exceeds fields j ↔ ∃ other, fields[j]? = some other ∧
        (other.member.bind Member.position?).any (fun k => (positions fields).length ≤ k) := by
      simp only [Exceeds, any_position_iff, exists_and_left]
    refine ⟨i, _, ⟨(exceeds_iff i).mpr ⟨_, List.getElem?_eq_getElem within, beyond⟩, fun j here => ?_⟩,
      List.getElem?_eq_getElem within, (Except.error.inj refused).symm⟩
    obtain ⟨other, at_index, beyond⟩ := (exceeds_iff j).mp here
    obtain ⟨_, rfl⟩ := List.getElem?_eq_some_iff.mp at_index
    refine Nat.le_of_not_lt fun earlier => ?_
    simpa [beyond] using before j earlier
  · cases refused

/-- A list of fields is refused for the first rule that it breaks, with an error at the first field
that breaks it. -/
theorem check_refused {fields : List Field} (refused : check fields = .error fault) :
    ∃ field cause, Breaks fields field cause ∧ fault = .ofCauseAt field.location .layout cause := by
  rcases bind_error_iff.mp refused with skips | ⟨⟨⟩, skips, refused⟩
  · obtain ⟨i, field, least, here, same⟩ := checkSkips_refused skips
    exact ⟨field, _, .adjacent least here, same⟩
  have apart := (checkSkips_ok_iff fields).mp skips
  rcases bind_error_iff.mp refused with repeats | ⟨⟨⟩, distinct, refused⟩
  · obtain ⟨i, field, member, least, here, own, same⟩ := checkDistinct_refused repeats
    exact ⟨field, _, .repeated apart least here own, same⟩
  have distinct := ((checkDistinct_ok_iff [] fields).mp distinct).1
  obtain ⟨i, field, least, here, same⟩ := checkPositions_refused refused
  exact ⟨field, _, .gap apart distinct least here, same⟩

/-- Where no member occurs twice, the positions are the numbers below their number, in some order. -/
theorem positions_perm_range {fields : List Field} (filled : PositionsFilled fields)
    (distinct : (fields.filterMap Field.member).Nodup) :
    (positions fields).Perm (List.range (positions fields).length) := by
  have own : positions fields = (fields.filterMap Field.member).filterMap Member.position? := by
    rw [List.filterMap_filterMap]
    rfl
  have nodup : (positions fields).Nodup := by
    rw [own]
    refine List.Nodup.filterMap (fun first second k at_first at_second => ?_) distinct
    cases first <;> cases at_first
    cases second <;> cases at_second
    rfl
  have within : positions fields ⊆ List.range (positions fields).length :=
    fun k present => List.mem_range.mpr (filled k present)
  exact (List.subperm_of_subset nodup within).perm_of_length_le (Nat.le_of_eq List.length_range)

theorem mem_positions_iff {fields : List Field} (filled : PositionsFilled fields)
    (distinct : (fields.filterMap Field.member).Nodup) :
    k ∈ positions fields ↔ k < (positions fields).length := by
  rw [(positions_perm_range filled distinct).mem_iff, List.mem_range]

/-- Lists of fields that keep the rules: of two adjacent fields one has a member, no member occurs
twice, and the positions are the numbers from zero up to their number, in any order. -/
structure Legal (fields : List Field) : Prop where
  apart : SkipsApart fields
  distinct : (fields.filterMap Field.member).Nodup
  numbered : (positions fields).Perm (List.range (positions fields).length)

theorem check_ok_iff_legal (fields : List Field) : check fields = .ok () ↔ Legal fields := by
  rw [check_ok_iff]
  constructor
  · rintro ⟨apart, distinct, filled⟩
    exact ⟨apart, distinct, positions_perm_range filled distinct⟩
  · rintro ⟨apart, distinct, numbered⟩
    exact ⟨apart, distinct, fun k present => List.mem_range.mp (numbered.mem_iff.mp present)⟩

end ByteRecord.Layout
