import Mathlib.Data.List.Induction
import ByteRecord.Source.Cursor

/-! Line starts against rows. A row ends with a line feed only, a line with any line break. As long
as no row has another line break inside, both count alike; each further one shifts the line starts
of all later rows to the front. -/
namespace ByteRecord.Text

/-- A character ends a line, given what follows it: a carriage return before a line feed does
not. -/
def breaksAt (c : Char) (rest : List Char) : Bool :=
  isLineBreak c && !(c == '\r' && rest.head? == some '\n')

/-- A row holds a line break that does not end the row. -/
def HasStrayBreak (row : List Char) : Prop :=
  ∃ before c after, row = before ++ c :: after ∧ c ≠ '\n' ∧ breaksAt c after

/-- A row that ends with a line feed, its only one. -/
def IsComplete (row : List Char) : Prop :=
  ∃ body, '\n' ∉ body ∧ row = body ++ ['\n']

theorem breakEnds_cons (offset : Nat) (c : Char) (rest : List Char) :
    breakEnds offset (c :: rest) =
      (if breaksAt c rest then [offset + 1] else []) ++ breakEnds (offset + 1) rest := by
  cases rest with
  | nil =>
    rw [breakEnds, breakEnds, List.append_nil]
    simp [breaksAt]
  | cons d rest =>
    have next : ((d :: rest).head? == some '\n') = (d == '\n') := rfl
    rw [breakEnds, breaksAt, next]
    cases c == '\r' && d == '\n' with
    | true =>
      rw [Bool.not_true, Bool.and_false, if_pos rfl, if_neg Bool.false_ne_true, List.nil_append]
    | false =>
      rw [Bool.not_false, Bool.and_true, if_neg Bool.false_ne_true]
      split <;> rfl

theorem hasStrayBreak_cons (c : Char) (row : List Char) :
    HasStrayBreak (c :: row) ↔ (c ≠ '\n' ∧ breaksAt c row) ∨ HasStrayBreak row := by
  constructor
  · rintro ⟨before, d, after, split_, different, breaks⟩
    cases before with
    | nil =>
      cases split_
      exact .inl ⟨different, breaks⟩
    | cons first before =>
      cases split_
      exact .inr ⟨before, d, after, rfl, different, breaks⟩
  · rintro (⟨different, breaks⟩ | ⟨before, d, after, rfl, different, breaks⟩)
    · exact ⟨[], c, row, rfl, different, breaks⟩
    · exact ⟨c :: before, d, after, rfl, different, breaks⟩

theorem not_hasStrayBreak_nil : ¬HasStrayBreak [] := by
  rintro ⟨before, c, after, split, -⟩
  cases before <;> cases split

instance decidableHasStrayBreak : (row : List Char) → Decidable (HasStrayBreak row)
  | [] => .isFalse not_hasStrayBreak_nil
  | c :: row =>
    have := decidableHasStrayBreak row
    decidable_of_iff _ (hasStrayBreak_cons c row).symm

/-- The lines that end within a row: at its stray breaks and at its end. -/
theorem breakEnds_row (offset : Nat) (rest : List Char) (free : '\n' ∉ body) :
    ∃ inner, breakEnds offset (body ++ '\n' :: rest) =
        inner ++ (offset + body.length + 1) :: breakEnds (offset + body.length + 1) rest ∧
      (∀ stop ∈ inner, stop ≤ offset + body.length) ∧
      (inner = [] ↔ ¬HasStrayBreak (body ++ ['\n'])) := by
  induction body generalizing offset with
  | nil =>
    refine ⟨[], breakEnds_cons offset '\n' rest, nofun, fun _ => ?_, fun _ => rfl⟩
    rw [List.nil_append, hasStrayBreak_cons]
    rintro (⟨different, -⟩ | stray)
    · exact different rfl
    · exact not_hasStrayBreak_nil stray
  | cons c body ih =>
    obtain ⟨different, free⟩ : c ≠ '\n' ∧ '\n' ∉ body := by
      rw [List.mem_cons, not_or] at free
      exact ⟨fun same => free.1 same.symm, free.2⟩
    obtain ⟨inner, ends, bound, clean⟩ := ih (offset + 1) free
    have same : breaksAt c (body ++ '\n' :: rest) = breaksAt c (body ++ ['\n']) := by
      cases body <;> rfl
    have total : offset + 1 + body.length = offset + (c :: body).length := by
      rw [List.length_cons]
      omega
    refine ⟨(if breaksAt c (body ++ ['\n']) then [offset + 1] else []) ++ inner, ?_, ?_, ?_⟩
    · rw [List.cons_append, breakEnds_cons, ends, same, total, List.append_assoc]
    · intro stop member
      rcases List.mem_append.mp member with here | later
      · have first : stop = offset + 1 := by
          split at here
          · exact List.mem_singleton.mp here
          · cases here
        omega
      · have := bound stop later
        omega
    · rw [List.cons_append, hasStrayBreak_cons, not_or, List.append_eq_nil_iff, clean]
      refine and_congr_left fun _ => ?_
      split
      · next breaks => simp [different, breaks]
      · next whole => simp [whole]

/-- The lines that end within complete rows: at least one for each row, and no more only if there
is no stray break. -/
theorem breakEnds_rows (done : List (List Char)) (complete : ∀ row ∈ done, IsComplete row)
    (rest : List Char) :
    ∃ ends, breakEnds 0 (done.flatten ++ rest) =
        ends ++ breakEnds done.flatten.length rest ∧
      (∀ stop ∈ ends, stop ≤ done.flatten.length) ∧ done.length ≤ ends.length ∧
      (ends.length = done.length ↔ ∀ row ∈ done, ¬HasStrayBreak row) := by
  induction done using List.reverseRecOn generalizing rest with
  | nil => exact ⟨[], rfl, nofun, Nat.le_refl _, fun _ => nofun, fun _ => rfl⟩
  | append_singleton done row ih =>
    obtain ⟨ends, split, bound, least, clean⟩ :=
      ih (fun other member => complete other (List.mem_append_left _ member)) (row ++ rest)
    obtain ⟨body, free, rfl⟩ := complete row (by simp)
    obtain ⟨inner, own, own_bound, own_clean⟩ := breakEnds_row done.flatten.length rest free
    have total : (done ++ [body ++ ['\n']]).flatten.length =
        done.flatten.length + body.length + 1 := by
      simp [Nat.add_assoc]
    refine ⟨ends ++ inner ++ [done.flatten.length + body.length + 1], ?_, ?_, ?_, ?_⟩
    · rw [total]
      simp only [List.flatten_append, List.flatten_cons, List.flatten_nil, List.append_nil,
        List.append_assoc, List.cons_append, List.nil_append] at split own ⊢
      rw [split, own]
    · rw [total]
      intro stop member
      simp only [List.mem_append, List.mem_singleton] at member
      rcases member with (early | late) | rfl
      · have := bound stop early
        omega
      · have := own_bound stop late
        omega
      · exact Nat.le_refl _
    · simp only [List.length_append, List.length_singleton]
      omega
    · rw [List.forall_mem_append, List.forall_mem_singleton, ← clean, ← own_clean,
        ← List.length_eq_zero_iff]
      simp only [List.length_append, List.length_singleton]
      omega

theorem lineStarts_eq (text : List Char) :
    ∃ tail, lineStarts text = 0 :: (breakEnds 0 text ++ tail) :=
  ⟨_, rfl⟩

/-- The line with the number of a row starts where the row does, or before it: exactly there if no
earlier row holds a stray break. -/
theorem lineStarts_row (done : List (List Char)) (complete : ∀ row ∈ done, IsComplete row)
    (rest : List Char) :
    ∃ start, (lineStarts (done.flatten ++ rest))[done.length]? = some start ∧
      start ≤ done.flatten.length ∧
      (start = done.flatten.length ↔ ∀ row ∈ done, ¬HasStrayBreak row) := by
  rcases List.eq_nil_or_concat done with rfl | ⟨done, row, rfl⟩
  · exact ⟨0, rfl, Nat.le_refl _, fun _ => nofun, fun _ => rfl⟩
  · obtain ⟨ends, split, bound, least, clean⟩ := breakEnds_rows done
      (fun other member => complete other (by simp [member])) (row ++ rest)
    obtain ⟨body, free, rfl⟩ := complete row (by simp)
    obtain ⟨inner, own, own_bound, own_clean⟩ := breakEnds_row done.flatten.length rest free
    have total : (done.concat (body ++ ['\n'])).flatten.length =
        done.flatten.length + body.length + 1 := by
      simp [Nat.add_assoc]
    have starts : ∃ more, lineStarts ((done.concat (body ++ ['\n'])).flatten ++ rest) =
        0 :: (ends ++ (inner ++ (done.flatten.length + body.length + 1) :: more)) := by
      have text : (done.concat (body ++ ['\n'])).flatten ++ rest =
          done.flatten ++ (body ++ '\n' :: rest) := by
        simp
      have behind : body ++ ['\n'] ++ rest = body ++ '\n' :: rest := by
        simp
      rw [behind] at split
      obtain ⟨tail, starts⟩ := lineStarts_eq (done.flatten ++ (body ++ '\n' :: rest))
      refine ⟨breakEnds (done.flatten.length + body.length + 1) rest ++ tail, ?_⟩
      rw [text, starts, split, own]
      simp only [List.append_assoc, List.cons_append]
    obtain ⟨more, starts⟩ := starts
    rw [starts, List.length_concat, List.getElem?_cons_succ, total]
    rw [List.concat_eq_append, List.forall_mem_append, List.forall_mem_singleton, ← clean,
      ← own_clean]
    rcases Nat.lt_or_ge done.length ends.length with early | late
    · -- an earlier row has a stray break
      refine ⟨ends[done.length], ?_, ?_, ?_⟩
      · rw [List.getElem?_append_left early, List.getElem?_eq_getElem early]
      · have := bound _ (List.getElem_mem early)
        omega
      · have := bound _ (List.getElem_mem early)
        omega
    · have whole : done.length = ends.length := Nat.le_antisymm least late
      rw [List.getElem?_append_right late, whole, Nat.sub_self]
      cases inner with
      | nil => exact ⟨_, rfl, Nat.le_refl _, by simp⟩
      | cons stop inner =>
        have := own_bound stop List.mem_cons_self
        refine ⟨stop, rfl, by omega, ?_⟩
        simp only [reduceCtorEq, and_false, iff_false]
        omega

end ByteRecord.Text

namespace ByteRecord.Source
open Text

theorem flatten_rows (text : List Char) : (rows text).flatten = text := by
  induction text with
  | nil => rfl
  | cons c rest ih =>
    rw [rows]
    split
    · rw [List.flatten_cons, ih, List.singleton_append]
    · split
      · next none_left =>
        rw [none_left] at ih
        rw [← ih]
        rfl
      · next first more split =>
        rw [split] at ih
        rw [← ih]
        rfl

/-- Every row but the last is complete. -/
theorem isComplete_rows (text : List Char) : ∀ row ∈ (rows text).dropLast, IsComplete row := by
  induction text with
  | nil => exact nofun
  | cons c rest ih =>
    rw [rows]
    split
    · next line_feed =>
      cases rest_rows : rows rest with
      | nil => exact nofun
      | cons first more =>
        rw [rest_rows] at ih
        intro row member
        rw [List.dropLast_cons_of_ne_nil (List.cons_ne_nil _ _)] at member
        rcases List.mem_cons.mp member with rfl | member
        · exact ⟨[], nofun, by rw [eq_of_beq line_feed]; rfl⟩
        · exact ih row member
    · next other =>
      split
      · exact nofun
      · next first more split =>
        rw [split] at ih
        cases more with
        | nil => exact nofun
        | cons second more =>
          intro row member
          rw [List.dropLast_cons_of_ne_nil (List.cons_ne_nil _ _)] at member ih
          rcases List.mem_cons.mp member with rfl | member
          · obtain ⟨body, free, rfl⟩ := ih first List.mem_cons_self
            refine ⟨c :: body, ?_, rfl⟩
            rw [List.mem_cons, not_or]
            refine ⟨?_, free⟩
            rintro rfl
            exact other rfl
          · exact ih row (List.mem_cons_of_mem _ member)

end ByteRecord.Source
