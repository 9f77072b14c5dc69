import Mathlib.Data.List.Pairwise
import Mathlib.Data.List.TakeWhile
import ByteRecord.Catalogue.Identify

/-! The order in which formats are answered: the largest first, and equal sizes as they stand in the
catalogue. These rules determine the order, so one more format at the end of a catalogue is put in
behind all that are at least as large, and the others stay as they are. -/
namespace ByteRecord.Catalogue

/-- The formats of one size. -/
def ofSize (size : Nat) (formats : List Format) : List Format :=
  formats.filter (·.size == size)

section
variable {format : Format} {formats : List Format}

theorem ofSize_cons_self : ofSize format.size (format :: formats) =
    format :: ofSize format.size formats := by
  rw [ofSize, List.filter_cons, beq_self_eq_true]
  rfl

theorem ofSize_cons_of_ne (other : format.size ≠ size) :
    ofSize size (format :: formats) = ofSize size formats := by
  rw [ofSize, List.filter_cons, beq_eq_false_iff_ne.mpr other]
  rfl

theorem ofSize_append (size : Nat) (first later : List Format) :
    ofSize size (first ++ later) = ofSize size first ++ ofSize size later :=
  List.filter_append first later

theorem mem_ofSize : format ∈ ofSize size formats ↔ format ∈ formats ∧ format.size = size := by
  rw [ofSize, List.mem_filter, beq_iff_eq]

end

/-- The formats of a list, the largest first. -/
structure Ranked (formats found : List Format) : Prop where
  same : found.Perm formats
  descending : found.Pairwise fun first later => later.size ≤ first.size
  /-- Formats of equal size keep their order. -/
  stable : ∀ size, ofSize size found = ofSize size formats

namespace Ranked

theorem nil : Ranked [] [] :=
  ⟨.nil, .nil, fun _ => rfl⟩
variable {formats found other : List Format}

/-- What comes first in one of two lists with the same formats of each size is not larger than what
comes first in the other, if that is the largest there. -/
theorem size_le {first later : Format} {behind rest : List Format}
    (descending : (later :: rest).Pairwise fun first later => later.size ≤ first.size)
    (same : ∀ size, ofSize size (first :: behind) = ofSize size (later :: rest)) :
    first.size ≤ later.size := by
  have present : first ∈ ofSize first.size (later :: rest) := by
    rw [← same, ofSize_cons_self]
    exact List.mem_cons_self
  rcases List.mem_cons.mp (mem_ofSize.mp present).1 with rfl | among
  · exact Nat.le_refl _
  · exact (List.pairwise_cons.mp descending).1 first among

/-- Formats in descending order are determined by those of each size. -/
theorem eq_of_ofSize (descending : found.Pairwise fun first later => later.size ≤ first.size)
    (also : other.Pairwise fun first later => later.size ≤ first.size)
    (same : ∀ size, ofSize size found = ofSize size other) : found = other := by
  induction found generalizing other with
  | nil =>
    cases other with
    | nil => rfl
    | cons later rest => exact absurd ((same later.size).trans ofSize_cons_self) nofun
  | cons first behind ih =>
    cases other with
    | nil => exact absurd ((same first.size).symm.trans ofSize_cons_self) nofun
    | cons later rest =>
      have equal : first.size = later.size :=
        Nat.le_antisymm (size_le also same) (size_le descending fun size => (same size).symm)
      have heads := same first.size
      rw [ofSize_cons_self, equal, ofSize_cons_self] at heads
      obtain ⟨rfl, tails⟩ := List.cons.inj heads
      rw [ih (List.pairwise_cons.mp descending).2 (List.pairwise_cons.mp also).2 fun size => ?_]
      by_cases own : first.size = size
      · exact own ▸ tails
      · have others := same size
        rwa [ofSize_cons_of_ne own, ofSize_cons_of_ne own] at others

theorem unique (ranked : Ranked formats found) (also : Ranked formats other) : found = other :=
  eq_of_ofSize ranked.descending also.descending fun size =>
    (ranked.stable size).trans (also.stable size).symm

theorem bySize (formats : List Format) : Ranked formats (Identifier.bySize formats) := by
  have trans (a b c : Format) : decide (b.size ≤ a.size) → decide (c.size ≤ b.size) →
      decide (c.size ≤ a.size) := by
    simp only [decide_eq_true_eq]
    omega
  have total (a b : Format) : (decide (b.size ≤ a.size) || decide (a.size ≤ b.size)) = true := by
    simp only [Bool.or_eq_true, decide_eq_true_eq]
    omega
  have perm : (Identifier.bySize formats).Perm formats := List.mergeSort_perm _ _
  refine ⟨perm, (List.pairwise_mergeSort trans total formats).imp of_decide_eq_true, fun size => ?_⟩
  -- the formats of one size are in order already, so sorting leaves them so
  have sorted : (ofSize size formats).Pairwise fun a b => decide (b.size ≤ a.size) := by
    refine List.pairwise_of_forall_mem_list fun a first b later => ?_
    have own := (mem_ofSize.mp first).2
    have other := (mem_ofSize.mp later).2
    exact decide_eq_true (by omega)
  have kept : (ofSize size formats).Sublist (Identifier.bySize formats) :=
    List.sublist_mergeSort trans total sorted List.filter_sublist
  have within : (ofSize size formats).Sublist (ofSize size (Identifier.bySize formats)) := by
    have twice := kept.filter (·.size == size)
    simpa only [ofSize, List.filter_filter, Bool.and_self] using twice
  exact (within.eq_of_length (perm.filter _).length_eq.symm).symm

/-- A list in descending order parts where the formats become smaller than a size. -/
theorem parts (descending : found.Pairwise fun first later => later.size ≤ first.size)
    (size : Nat) : ∃ before behind, found = before ++ behind ∧
      found.takeWhile (size ≤ ·.size) = before ∧ found.dropWhile (size ≤ ·.size) = behind ∧
      (∀ format ∈ before, size ≤ format.size) ∧ ∀ format ∈ behind, format.size < size := by
  induction found with
  | nil => exact ⟨[], [], rfl, rfl, rfl, nofun, nofun⟩
  | cons first later ih =>
    obtain ⟨largest, rest⟩ := List.pairwise_cons.mp descending
    by_cases large : size ≤ first.size
    · obtain ⟨before, behind, rfl, taken, dropped, own, others⟩ := ih rest
      refine ⟨first :: before, behind, rfl, ?_, ?_, List.forall_mem_cons.mpr ⟨large, own⟩, others⟩
      · simp [large, taken]
      · simp [large, dropped]
    · refine ⟨[], first :: later, rfl, ?_, ?_, nofun, List.forall_mem_cons.mpr ⟨by omega, ?_⟩⟩
      · simp [large]
      · simp [large]
      · intro format listed
        have below := largest format listed
        omega

/-- A further format is put in behind those that are at least as large. -/
theorem snoc (ranked : Ranked formats found) (further : Format) :
    Ranked (formats ++ [further])
      (found.takeWhile (further.size ≤ ·.size) ++
        further :: found.dropWhile (further.size ≤ ·.size)) := by
  obtain ⟨before, behind, rfl, taken, dropped, large, small⟩ :=
    parts ranked.descending further.size
  rw [taken, dropped]
  obtain ⟨first, later, across⟩ := List.pairwise_append.mp ranked.descending
  refine ⟨?_, ?_, fun size => ?_⟩
  · have moved := (List.perm_append_singleton further formats).symm
    exact List.perm_middle.trans ((ranked.same.cons further).trans moved)
  · refine List.pairwise_append.mpr ⟨first, List.pairwise_cons.mpr ⟨?_, later⟩, ?_⟩
    · exact fun format listed => Nat.le_of_lt (small format listed)
    · intro format listed next among
      rcases List.mem_cons.mp among with rfl | among
      · exact large format listed
      · exact across format listed next among
  · have own := ranked.stable size
    rw [ofSize_append] at own
    rw [ofSize_append, ofSize_append, ← own]
    by_cases equal : further.size = size
    · subst equal
      have none : ofSize further.size behind = [] := by
        refine List.eq_nil_iff_forall_not_mem.mpr fun format present => ?_
        obtain ⟨listed, same⟩ := mem_ofSize.mp present
        have below := small format listed
        omega
      rw [ofSize_cons_self, ofSize_cons_self, none, List.append_nil]
      rfl
    · rw [ofSize_cons_of_ne equal, ofSize_cons_of_ne equal]
      exact (List.append_nil _).symm

end Ranked
end ByteRecord.Catalogue
