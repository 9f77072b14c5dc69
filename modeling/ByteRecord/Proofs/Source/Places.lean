import ByteRecord.Fault.Basic
import ByteRecord.Proofs.Source.Rows

/-! Where tokens stand. Rows and columns tell the place of a token in the text exactly: there the
text of the token is found, and the tokens follow each other without overlap. A string literal that
is still open at the end of a row is all of the text from its start on. -/
namespace ByteRecord.Source
open Lexical

/-- The offset of a location in a text of rows. -/
def position (all : List (List Char)) (location : Location) : Nat :=
  (all.take (location.line - 1)).flatten.length + location.column

/-- One location is not behind another. -/
def Before (all : List (List Char)) (first second : Location) : Prop :=
  first.line ≤ second.line ∧ position all first ≤ position all second

theorem Before.refl (all : List (List Char)) (location : Location) : Before all location location :=
  ⟨Nat.le_refl _, Nat.le_refl _⟩

theorem Before.trans (first : Before all a b) (second : Before all b c) : Before all a c :=
  ⟨Nat.le_trans first.1 second.1, Nat.le_trans first.2 second.2⟩

/-- The text of a token is what stands between its locations. -/
structure Stands (all : List (List Char)) (token : Token) : Prop where
  lines : token.start.line ≤ token.stop.line
  width : position all token.stop = position all token.start + token.text.toList.length
  cut : (all.flatten.drop (position all token.start)).take token.text.toList.length =
    token.text.toList
  within : token.kind ≠ .finish → 0 < token.start.line ∧ token.stop.line ≤ all.length

theorem Stands.before (stands : Stands all token) : Before all token.start token.stop :=
  ⟨stands.lines, stands.width ▸ Nat.le_add_right _ _⟩

/-- Tokens stand between two locations, one after another. -/
inductive Placed (all : List (List Char)) : Location → List Token → Location → Prop
  | nil (before : Before all start stop) : Placed all start [] stop
  | cons (before : Before all start token.start) (stands : Stands all token)
      (rest : Placed all token.stop tokens stop) : Placed all start (token :: tokens) stop

namespace Placed

theorem weaken (before : Before all earlier start) (placed : Placed all start tokens stop) :
    Placed all earlier tokens stop := by
  cases placed with
  | nil within => exact .nil (before.trans within)
  | cons within stands rest => exact .cons (before.trans within) stands rest

theorem append (first : Placed all start tokens middle) (second : Placed all middle others stop) :
    Placed all start (tokens ++ others) stop := by
  induction first with
  | nil within => exact second.weaken within
  | cons within stands _ ih => exact .cons within stands (ih second)

theorem stands (placed : Placed all start tokens stop) (member : token ∈ tokens) :
    Stands all token := by
  induction placed with
  | nil within => cases member
  | cons within stands _ ih =>
    rcases List.mem_cons.mp member with rfl | member
    · exact stands
    · exact ih member

theorem drop (placed : Placed all start tokens stop) (count : Nat) :
    ∃ start', Placed all start' (tokens.drop count) stop := by
  induction placed generalizing count with
  | nil within => exact ⟨_, by rw [List.drop_nil]; exact .nil within⟩
  | cons within stands rest ih =>
    cases count with
    | zero => exact ⟨_, .cons within stands rest⟩
    | succ count => exact ih count

theorem take (placed : Placed all start tokens stop) (count : Nat) :
    ∃ stop', Placed all start (tokens.take count) stop' := by
  induction placed generalizing count with
  | nil within => exact ⟨_, by rw [List.take_nil]; exact .nil within⟩
  | cons within stands rest ih =>
    cases count with
    | zero => exact ⟨_, .nil (Before.refl _ _)⟩
    | succ count =>
      obtain ⟨stop', rest⟩ := ih count
      exact ⟨stop', .cons within stands rest⟩

/-- The last of some tokens neither starts nor ends before the first one does. -/
theorem first_before_last (placed : Placed all start (first :: rest) stop) :
    Before all first.start (rest.getLastD first).start ∧
      Before all first.stop (rest.getLastD first).stop := by
  induction rest generalizing start first with
  | nil => exact ⟨Before.refl _ _, Before.refl _ _⟩
  | cons second rest ih =>
    cases placed with
    | cons within stands later =>
      obtain ⟨starts, stops⟩ := ih later
      cases later with
      | cons between second_stands _ =>
        rw [List.getLastD_cons]
        exact ⟨stands.before.trans (between.trans starts),
          between.trans (second_stands.before.trans stops)⟩

end Placed

section
variable {all done more : List (List Char)} {row : List Char}

theorem position_row (parts : all = done ++ row :: more) (column : Nat) :
    position all ⟨done.length + 1, column⟩ = done.flatten.length + column := by
  rw [position, parts, Nat.add_sub_cancel, List.take_left]

theorem drop_row (parts : all = done ++ row :: more) (within : column ≤ row.length) :
    all.flatten.drop (done.flatten.length + column) = row.drop column ++ more.flatten := by
  rw [parts, List.flatten_append, List.flatten_cons, ← List.drop_drop, List.drop_left,
    List.drop_append_of_le_length within]

theorem cut_row (parts : all = done ++ row :: more) (within : column + width ≤ row.length) :
    (all.flatten.drop (done.flatten.length + column)).take width =
      (row.drop column).take width := by
  rw [drop_row parts (by omega), List.take_append_of_le_length]
  rw [List.length_drop]
  omega

theorem before_row (parts : all = done ++ row :: more) (ordered : column ≤ other) :
    Before all ⟨done.length + 1, column⟩ ⟨done.length + 1, other⟩ := by
  refine ⟨Nat.le_refl _, ?_⟩
  rw [position_row parts, position_row parts]
  omega

theorem stands_row (parts : all = done ++ row :: more) (within : column + width ≤ row.length)
    (kind : TokenKind) (same : text.toList = (row.drop column).take width) :
    Stands all ⟨kind, text, ⟨done.length + 1, column⟩, ⟨done.length + 1, column + width⟩⟩ := by
  have size : text.toList.length = width := by
    rw [same, List.length_take, List.length_drop]
    omega
  refine ⟨Nat.le_refl _, ?_, ?_, fun _ => ⟨Nat.succ_pos _, ?_⟩⟩
  · rw [position_row parts, position_row parts, size, Nat.add_assoc]
  · rw [position_row parts, size, cut_row parts within, same]
  · rw [parts, List.length_append, List.length_cons]
    exact Nat.add_le_add_left (Nat.le_add_left _ _) _

/-- Tokens stand on a row from a column on. A string literal that the row leaves open starts where
they end, and it is all of the row from there on. -/
def RowPlaced (all done : List (List Char)) (row : List Char) (column : Nat) (tokens : List Token)
    (last : Progress) : Prop :=
  ∃ stop ≤ row.length,
    Placed all ⟨done.length + 1, column⟩ tokens ⟨done.length + 1, stop⟩ ∧
      ∀ pending, last.pending = some pending →
        pending.start = ⟨done.length + 1, stop⟩ ∧ pending.text = row.drop stop

namespace RowPlaced
variable {last : Progress}

theorem nothing (within : column ≤ row.length) (closed : last.pending = none) :
    RowPlaced all done row column [] last := by
  refine ⟨column, within, .nil (Before.refl _ _), fun pending left => ?_⟩
  rw [closed] at left
  cases left

theorem skip (parts : all = done ++ row :: more) (ordered : column ≤ later)
    (placed : RowPlaced all done row later tokens last) :
    RowPlaced all done row column tokens last := by
  obtain ⟨stop, stop_le, placed, left⟩ := placed
  exact ⟨stop, stop_le, placed.weaken (before_row parts ordered), left⟩

theorem token (parts : all = done ++ row :: more) (within : column + width ≤ row.length)
    (kind : TokenKind) (same : text.toList = (row.drop column).take width)
    (placed : RowPlaced all done row (column + width) tokens last) :
    RowPlaced all done row column
      (⟨kind, text, ⟨done.length + 1, column⟩, ⟨done.length + 1, column + width⟩⟩ :: tokens)
      last := by
  obtain ⟨stop, stop_le, placed, left⟩ := placed
  exact ⟨stop, stop_le, .cons (Before.refl _ _) (stands_row parts within kind same) placed, left⟩

end RowPlaced

theorem rowTokens_placed (parts : all = done ++ row :: more) (column : Nat) (progress : Progress)
    (within : column ≤ row.length) (closed : progress.pending = none)
    (scanned : rowTokens (done.length + 1) column 0 (row.drop column) progress = (tokens, last)) :
    RowPlaced all done row column tokens last := by
  induction left : row.length - column using Nat.strongRecOn
    generalizing column progress tokens last with
  | ind left ih =>
    subst left
    by_cases nothing : pastBlanks (row.drop column) = []
    · rw [rowTokens_end nothing] at scanned
      cases scanned
      exact .nothing within closed
    generalize blanks : ((row.drop column).takeWhile isBlankInRow).length = count
    have body : pastBlanks (row.drop column) = row.drop (column + count) := by
      rw [pastBlanks, blanks, List.drop_drop]
    cases found : piece? (pastBlanks (row.drop column)) with
    | none =>
      obtain ⟨c, rest, here⟩ : ∃ c rest, row.drop column = c :: rest := by
        apply List.exists_cons_of_ne_nil
        intro empty
        exact nothing (by rw [empty]; rfl)
      have next : row.drop (column + 1) = rest := by
        rw [← List.drop_drop, here, List.drop_one, List.tail_cons]
      have room : column + (rest.length + 1) = row.length := by
        have size := congrArg List.length here
        rw [List.length_drop, List.length_cons] at size
        omega
      rw [here] at nothing found
      rw [here, rowTokens_stray nothing found, ← next] at scanned
      obtain ⟨rfl, rfl⟩ := Prod.mk.inj scanned
      have first : c.toString.toList = (row.drop column).take 1 := by
        rw [here, Char.toString, String.toList_singleton]
        rfl
      exact .token parts (by omega) .error first
        (ih _ (by omega) (column + 1) progress (by omega) closed rfl rfl)
    | some piece =>
      have fits := fits_piece? found
      have advances := advances_piece? found
      rw [body, List.length_drop] at fits
      cases piece with
      | token kind width =>
        simp only [Piece.Fits, Piece.Advances] at fits advances
        rw [rowTokens_token found, body, blanks, List.drop_drop] at scanned
        obtain ⟨rfl, rfl⟩ := Prod.mk.inj scanned
        apply RowPlaced.skip parts (Nat.le_add_right column count)
        apply RowPlaced.token parts (by omega) kind String.toList_ofList
        exact ih _ (by omega) _ _ (by omega) (by exact closed) rfl rfl
      | trivia width =>
        simp only [Piece.Fits, Piece.Advances] at fits advances
        rw [rowTokens_trivia found, body, blanks, List.drop_drop] at scanned
        have behind := ih _ (by omega) _ _ (by omega) closed scanned rfl
        exact behind.skip parts (by omega)
      | continuation =>
        rw [rowTokens_continuation found] at scanned
        cases scanned
        exact .nothing within closed
      | openString opening =>
        rw [rowTokens_openString found, body, blanks] at scanned
        cases scanned
        have count_le : column + count ≤ row.length := by
          rw [← blanks]
          have blanks_le := ((row.drop column).takeWhile_sublist isBlankInRow).length_le
          rw [List.length_drop] at blanks_le
          omega
        refine ⟨column + count, count_le, .nil (before_row parts (by omega)), ?_⟩
        rintro pending ⟨⟩
        exact ⟨rfl, rfl⟩

/-- An open string literal is what the text holds between its start and the end of some rows. -/
structure StandsOpen (all done : List (List Char)) (pending : OpenString) : Prop where
  positive : 0 < pending.start.line
  earlier : pending.start.line ≤ done.length
  reaches : position all pending.start + pending.text.length = done.flatten.length
  cut : (all.flatten.drop (position all pending.start)).take pending.text.length = pending.text

/-- How far a text has been read when some rows are done: all tokens end before the next row, or
before a string literal that is open and reaches up to that row. -/
def Reached (all done : List (List Char)) (start : Location) (progress : Progress) : Prop :=
  match progress.pending with
  | none => Before all start ⟨done.length + 1, 0⟩
  | some pending => Before all start pending.start ∧ StandsOpen all done pending

theorem position_next (parts : all = done ++ row :: more) :
    position all ⟨done.length + 1 + 1, 0⟩ = done.flatten.length + row.length := by
  have longer : all = (done ++ [row]) ++ more := by rw [parts, List.append_assoc]; rfl
  rw [position, longer, Nat.add_sub_cancel, List.take_left' (by simp)]
  simp

theorem before_next (parts : all = done ++ row :: more) (within : column ≤ row.length) :
    Before all ⟨done.length + 1, column⟩ ⟨(done ++ [row]).length + 1, 0⟩ := by
  rw [List.length_append, List.length_singleton]
  refine ⟨Nat.le_succ _, ?_⟩
  rw [position_row parts, position_next parts]
  omega

theorem rowTokens_reached (parts : all = done ++ row :: more) (within : column ≤ row.length)
    (closed : progress.pending = none)
    (scanned : rowTokens (done.length + 1) column 0 (row.drop column) progress = (tokens, last)) :
    ∃ stop, Placed all ⟨done.length + 1, column⟩ tokens stop ∧
      Reached all (done ++ [row]) stop last := by
  obtain ⟨stop, stop_le, placed, left⟩ :=
    rowTokens_placed parts column progress within closed scanned
  refine ⟨_, placed, ?_⟩
  unfold Reached
  split
  · exact before_next parts stop_le
  · next pending open_ =>
    obtain ⟨start, text⟩ := left pending open_
    refine ⟨start ▸ Before.refl _ _, ?_, ?_, ?_, ?_⟩
    · rw [start]
      exact Nat.succ_pos _
    · exact Nat.le_of_eq (by rw [start, List.length_append, List.length_singleton])
    · rw [start, text, position_row parts, List.length_drop]
      simp only [List.flatten_append, List.flatten_cons, List.flatten_nil, List.append_nil,
        List.length_append]
      omega
    · rw [start, text, position_row parts, List.length_drop, cut_row parts (by omega),
        List.take_of_length_le (Nat.le_of_eq List.length_drop)]

namespace StandsOpen
variable {pending : OpenString}

theorem cut_further (parts : all = done ++ row :: more) (stands : StandsOpen all done pending)
    (within : width ≤ row.length) :
    (all.flatten.drop (position all pending.start)).take (pending.text.length + width) =
      pending.text ++ row.take width := by
  have behind : (all.flatten.drop (position all pending.start)).drop pending.text.length =
      row ++ more.flatten := by
    have whole := drop_row parts (Nat.zero_le _)
    rwa [Nat.add_zero, List.drop_zero, ← stands.reaches, ← List.drop_drop] at whole
  rw [← List.take_append_drop pending.text.length
    (all.flatten.drop (position all pending.start)), stands.cut, behind,
    List.take_length_add_append, List.take_append_of_le_length within]

theorem token (parts : all = done ++ row :: more) (stands : StandsOpen all done pending)
    (within : width ≤ row.length) (kind : TokenKind) :
    Stands all ⟨kind, String.ofList (pending.text ++ row.take width), pending.start,
      ⟨done.length + 1, width⟩⟩ := by
  have size : (pending.text ++ row.take width).length = pending.text.length + width := by
    rw [List.length_append, List.length_take, Nat.min_eq_left within]
  refine ⟨?_, ?_, ?_, fun _ => ⟨stands.positive, ?_⟩⟩
  · exact Nat.le_succ_of_le stands.earlier
  · have start := stands.reaches
    rw [String.toList_ofList, size, position_row parts]
    dsimp only
    omega
  · rw [String.toList_ofList, size]
    exact stands.cut_further parts within
  · rw [parts, List.length_append, List.length_cons]
    exact Nat.add_le_add_left (Nat.le_add_left _ _) _

theorem further (parts : all = done ++ row :: more) (stands : StandsOpen all done pending) :
    StandsOpen all (done ++ [row]) { pending with text := pending.text ++ row } := by
  refine ⟨stands.positive, ?_, ?_, ?_⟩
  · rw [List.length_append]
    exact Nat.le_add_right_of_le stands.earlier
  · have start := stands.reaches
    simp only [List.flatten_append, List.flatten_cons, List.flatten_nil, List.append_nil,
      List.length_append]
    omega
  · have whole := stands.cut_further parts (Nat.le_refl _)
    rwa [List.take_length, ← List.length_append] at whole

end StandsOpen

theorem stringRow_reached (parts : all = done ++ row :: more)
    (stands : StandsOpen all done pending)
    (scanned : stringRow (done.length + 1) row pending progress = (tokens, last)) :
    ∃ stop, Placed all pending.start tokens stop ∧ Reached all (done ++ [row]) stop last := by
  unfold stringRow at scanned
  extract_lets closed at scanned
  split at scanned
  · next width closes =>
    have within : width ≤ row.length := closeWidth?_le closes
    obtain ⟨others, last', later⟩ : ∃ others last',
        rowTokens (done.length + 1) width 0 (row.drop width) closed = (others, last') :=
      ⟨_, _, rfl⟩
    simp only [later] at scanned
    cases scanned
    obtain ⟨stop, placed, reached⟩ := rowTokens_reached parts within rfl later
    exact ⟨stop, .cons (Before.refl _ _) (stands.token parts within .string) placed, reached⟩
  · split at scanned
    · obtain ⟨rfl, rfl⟩ := Prod.mk.inj scanned
      have token := stands.token parts (Nat.le_refl _) .error
      rw [List.take_length] at token
      exact ⟨_, .cons (Before.refl _ _) token (.nil (Before.refl _ _)),
        before_next parts (Nat.le_refl _)⟩
    · cases scanned
      exact ⟨pending.start, .nil (Before.refl _ _), Before.refl _ _, stands.further parts⟩

theorem rowStep_reached (parts : all = done ++ row :: more)
    (reached : Reached all done start progress)
    (stepped : rowStep (done.length + 1) row progress = .ok (tokens, last)) :
    ∃ stop, Placed all start tokens stop ∧ Reached all (done ++ [row]) stop last := by
  unfold Reached at reached
  unfold rowStep at stepped
  split at stepped
  · next pending open_ =>
    rw [open_] at reached
    obtain ⟨stop, placed, further⟩ := stringRow_reached parts reached.2 (Except.ok.inj stepped)
    exact ⟨stop, placed.weaken reached.1, further⟩
  · next closed =>
    rw [closed] at reached
    -- a row without tokens
    have passed : Reached all (done ++ [row]) start progress := by
      rw [Reached, closed]
      exact reached.trans (before_next parts (Nat.zero_le _))
    split at stepped
    · unfold statementRow at stepped
      extract_lets blanks at stepped
      have within : blanks.length ≤ row.length := (List.takeWhile_sublist _).length_le
      split at stepped
      case h_5 =>
        split at stepped
        · cases stepped
        · obtain ⟨stop, placed, further⟩ :=
            rowTokens_reached parts within (by exact closed) (Except.ok.inj stepped)
          have start_le := reached.trans (before_row parts (Nat.zero_le blanks.length))
          exact ⟨stop, placed.weaken start_le, further⟩
      all_goals
        cases stepped
        exact ⟨start, .nil (Before.refl _ _), passed⟩
    · have scanned := Except.ok.inj stepped
      rw [← List.drop_zero (l := row)] at scanned
      obtain ⟨stop, placed, further⟩ :=
        rowTokens_reached parts (Nat.zero_le _) (by exact closed) scanned
      exact ⟨stop, placed.weaken reached, further⟩

end

theorem finish_placed (reached : Reached all done start progress)
    (finished : finish (done.length + 1) progress = .ok tokens) :
    ∃ stop, Placed all start tokens stop := by
  unfold Reached at reached
  unfold finish at finished
  split at finished
  · cases finished
  · next closed =>
    rw [closed] at reached
    split at finished
    · cases finished
      have ends : Stands all ⟨.finish, "", ⟨done.length + 1, 0⟩, ⟨done.length + 1, 0⟩⟩ :=
        ⟨Nat.le_refl _, rfl, rfl, fun other => absurd rfl other⟩
      exact ⟨_, .cons reached ends (.nil (Before.refl _ _))⟩
    · cases finished

/-- The tokens of the remaining rows stand behind those of the rows that are done. -/
theorem tokensFrom_placed (more done : List (List Char)) (parts : all = done ++ more)
    (reached : Reached all done start progress)
    (scanned : tokensFrom (done.length + 1) progress more = .ok tokens) :
    ∃ stop, Placed all start tokens stop := by
  induction more generalizing done start progress tokens with
  | nil =>
    rw [tokensFrom] at scanned
    exact finish_placed reached scanned
  | cons row more ih =>
    rw [tokensFrom] at scanned
    split at scanned
    · exact finish_placed reached scanned
    · obtain ⟨⟨own, last⟩, stepped, scanned⟩ := bind_ok_iff.mp scanned
      obtain ⟨others, later, made⟩ := bind_ok_iff.mp scanned
      cases made
      obtain ⟨middle, placed, further⟩ := rowStep_reached parts reached stepped
      have longer : all = (done ++ [row]) ++ more := by
        rw [parts, List.append_assoc]
        rfl
      have count : (done ++ [row]).length = done.length + 1 := by
        rw [List.length_append, List.length_singleton]
      obtain ⟨stop, rest⟩ := ih (done ++ [row]) longer further (by rw [count]; exact later)
      exact ⟨stop, placed.append rest⟩

/-- The tokens of a text stand in it, one after another. -/
theorem tokenize_placed (scanned : tokenize text = .ok tokens) :
    ∃ stop, Placed (rows text) ⟨1, 0⟩ tokens stop := by
  have start : Reached (rows text) [] ⟨1, 0⟩ .initial := Before.refl (rows text) ⟨1, 0⟩
  exact tokensFrom_placed (rows text) [] rfl start scanned

end ByteRecord.Source
