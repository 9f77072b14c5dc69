import ByteRecord.Effect
import ByteRecord.Proofs.Source.LineStarts
import ByteRecord.Proofs.Source.Places

/-! What a cursor cuts out of its text. The offsets that it computes from rows and columns are those
of the tokens exactly as long as no earlier row holds a stray line break; then it cuts out what the
tokens say. -/
namespace ByteRecord.Source
open Text

/-- No row before a line holds a stray break. -/
def CleanBefore (source : List Char) (line : Nat) : Prop :=
  ∀ row ∈ (rows source).take (line - 1), ¬HasStrayBreak row

instance : Decidable (CleanBefore source line) :=
  inferInstanceAs (Decidable (∀ row ∈ (rows source).take (line - 1), ¬HasStrayBreak row))

theorem CleanBefore.earlier (clean : CleanBefore source line) (before : other ≤ line) :
    CleanBefore source other :=
  fun row member => clean row ((List.take_subset_take_left _ (by omega)) member)

namespace Cursor

/-- The offset that a cursor computes for a location is the right one or lies before it: it is right
if no earlier row holds a stray break. -/
theorem offset?_location (cursor : Cursor) (location : Location) (positive : 0 < location.line)
    (within : location.line ≤ (rows cursor.source).length) :
    ∃ offset : Nat, cursor.offset? location.line location.column = some (offset : Int) ∧
      offset ≤ position (rows cursor.source) location ∧
      (offset = position (rows cursor.source) location ↔
        CleanBefore cursor.source location.line) := by
  have complete : ∀ row ∈ (rows cursor.source).take (location.line - 1), IsComplete row := by
    intro row member
    refine isComplete_rows cursor.source row ?_
    rw [List.dropLast_eq_take]
    exact List.take_subset_take_left _ (by omega) member
  obtain ⟨start, at_row, bound, clean⟩ := lineStarts_row _ complete
    ((rows cursor.source).drop (location.line - 1)).flatten
  rw [← List.flatten_append, List.take_append_drop, flatten_rows, List.length_take,
    Nat.min_eq_left (by omega)] at at_row
  have place : ((location.line : Int) - 1).toNat = location.line - 1 := by omega
  have ahead : ¬((location.line : Int) - 1 < 0) := by omega
  refine ⟨start + location.column, ?_, Nat.add_le_add_right bound _, ?_⟩
  · simp only [offset?, if_neg ahead, place, at_row, Option.map_some, Int.natCast_add]
  · rw [position, Nat.add_right_cancel_iff, clean, CleanBefore]

/-- The text between the locations of two tokens, where offsets are right. -/
theorem between?_locations (cursor : Cursor) {first last : Location} (positive : 0 < first.line)
    (lines : first.line ≤ last.line) (within : last.line ≤ (rows cursor.source).length)
    (clean : CleanBefore cursor.source last.line) :
    cursor.between? first last = some ((cursor.source.drop
      (position (rows cursor.source) first)).take
        (position (rows cursor.source) last - position (rows cursor.source) first)) := by
  obtain ⟨start, found, -, right⟩ :=
    cursor.offset?_location first positive (Nat.le_trans lines within)
  obtain ⟨stop, found', -, right'⟩ :=
    cursor.offset?_location last (Nat.lt_of_lt_of_le positive lines) within
  obtain rfl := right.mpr (clean.earlier lines)
  obtain rfl := right'.mpr clean
  have length : ((position (rows cursor.source) last : Int) -
      position (rows cursor.source) first).toNat =
        position (rows cursor.source) last - position (rows cursor.source) first := by
    omega
  simp only [between?, found, found', Option.bind_eq_bind, Option.bind_some, Int.toNat_natCast,
    length]
  rfl

theorem expressionWidth_significant (stopAtArrow : Bool) (depth : Nat) (tokens : List Token) :
    ∀ token ∈ tokens.take (expressionWidth stopAtArrow depth tokens), token.kind ≠ .finish := by
  induction tokens generalizing depth with
  | nil => simp
  | cons token rest ih =>
    rw [expressionWidth]
    split
    · simp
    · next significant =>
      split
      · simp
      · intro other member
        rcases List.mem_cons.mp member with rfl | member
        · simpa using significant
        · exact ih _ other member

end Cursor

theorem Reading.takeExpression_run (stopAtArrow : Bool) (kind : SpecificationKind)
    (cursor : Cursor) :
    (takeExpression stopAtArrow kind).run cursor =
      let width := Cursor.expressionWidth stopAtArrow 0 (cursor.tokens.drop cursor.index)
      let after := { cursor with index := cursor.index + width }
      match (cursor.tokens.drop cursor.index).take width with
      | [] => (.error (after.unexpected kind .expression), after)
      | first :: rest => match cursor.between? first.start (rest.getLastD first).stop with
        | some text => (.ok (text, first.start), after)
        | none => (.error (.failure .index), after) := by
  unfold takeExpression
  rw [run_bind]
  dsimp only
  have got : (get : Reading Cursor).run cursor = (.ok cursor, cursor) := rfl
  rw [got]
  dsimp only
  generalize Cursor.expressionWidth stopAtArrow 0 (cursor.tokens.drop cursor.index) = width
  have skipped : (skip width).run cursor =
      (.ok (), { cursor with index := cursor.index + width }) := rfl
  rw [run_bind, skipped]
  dsimp only
  cases (cursor.tokens.drop cursor.index).take width with
  | nil => rfl
  | cons first rest =>
    dsimp only
    cases cursor.between? first.start (rest.getLastD first).stop <;> rfl

theorem Cursor.ofText_placed {source : List Char} {cursor : Cursor}
    (built : Cursor.ofText source = .ok cursor) :
    cursor.source = source ∧ ∃ start stop, Placed (rows source) start cursor.tokens stop := by
  unfold Cursor.ofText at built
  split at built
  · next tokens scanned =>
    cases built
    obtain ⟨stop, placed⟩ := tokenize_placed scanned
    exact ⟨rfl, _, stop, placed⟩
  · cases built

/-- Tokens of which the first starts where a text starts and the last ends where it ends are cut
out with their texts at its ends. -/
theorem Placed.cut_ends (placed : Placed (rows source) start (first :: rest) stop) :
    let text := (source.drop (position (rows source) first.start)).take
      (position (rows source) (rest.getLastD first).stop - position (rows source) first.start)
    first.text.toList <+: text ∧ (rest.getLastD first).text.toList <:+ text := by
  obtain ⟨starts, stops⟩ := placed.first_before_last
  obtain ⟨-, first_width, first_cut, -⟩ := placed.stands List.mem_cons_self
  obtain ⟨-, last_width, last_cut, -⟩ := placed.stands List.getLastD_mem_cons
  rw [flatten_rows] at first_cut last_cut
  have apart := starts.2
  have reach := stops.2
  dsimp only
  constructor
  · rw [← first_cut]
    exact List.take_prefix_take_left (by omega)
  · generalize position (rows source) first.start = p at *
    generalize position (rows source) (rest.getLastD first).stop = q at *
    rw [← last_cut]
    have behind : (source.drop (position (rows source) (rest.getLastD first).start)).take
        (rest.getLastD first).text.toList.length = ((source.drop p).take (q - p)).drop
          (position (rows source) (rest.getLastD first).start - p) := by
      rw [List.drop_take, List.drop_drop, Nat.add_sub_cancel' apart]
      congr 1
      omega
    rw [behind]
    exact List.drop_suffix _ _

/-- The offsets of all tokens of a text. A token stands where its locations say; the cursor finds it
there exactly if no earlier row holds a stray break, and then cuts out its text. So an expression
that is cut out begins with the text of its first token and ends with that of its last one. -/
theorem Cursor.offsets_of_tokens {source : List Char} {cursor : Cursor}
    (built : Cursor.ofText source = .ok cursor) :
    (∀ token ∈ cursor.tokens, token.kind ≠ .finish →
      position (rows source) token.stop =
        position (rows source) token.start + token.text.toList.length ∧
      (source.drop (position (rows source) token.start)).take token.text.toList.length =
        token.text.toList ∧
      (∃ first : Nat, cursor.offset? token.start.line token.start.column = some (first : Int) ∧
        first ≤ position (rows source) token.start ∧
        (first = position (rows source) token.start ↔ CleanBefore source token.start.line)) ∧
      (∃ last : Nat, cursor.offset? token.stop.line token.stop.column = some (last : Int) ∧
        last ≤ position (rows source) token.stop ∧
        (last = position (rows source) token.stop ↔ CleanBefore source token.stop.line)) ∧
      (CleanBefore source token.stop.line →
        cursor.between? token.start token.stop = some token.text.toList)) ∧
    ∀ index stopAtArrow kind text location after,
      (Reading.takeExpression stopAtArrow kind).run { cursor with index := index } =
        (.ok (text, location), after) →
      ∃ first rest, (cursor.tokens.drop index).take (after.index - index) = first :: rest ∧
        location = first.start ∧
        (CleanBefore source (rest.getLastD first).stop.line →
          first.text.toList <+: text ∧ (rest.getLastD first).text.toList <:+ text) := by
  obtain ⟨rfl, start, stop, placed⟩ := Cursor.ofText_placed built
  refine ⟨fun token member significant => ?_, ?_⟩
  · obtain ⟨lines, width, cut, within⟩ := placed.stands member
    obtain ⟨positive, last_row⟩ := within significant
    rw [flatten_rows] at cut
    refine ⟨width, cut, cursor.offset?_location token.start positive (Nat.le_trans lines last_row),
      cursor.offset?_location token.stop (Nat.lt_of_lt_of_le positive lines) last_row,
      fun clean => ?_⟩
    rw [cursor.between?_locations positive lines last_row clean, width, Nat.add_sub_cancel_left,
      cut]
  · intro index stopAtArrow kind text location after taken
    rw [Reading.takeExpression_run] at taken
    extract_lets width moved at taken
    have significant := Cursor.expressionWidth_significant stopAtArrow 0 (cursor.tokens.drop index)
    obtain ⟨start', ahead⟩ := placed.drop index
    obtain ⟨stop', own⟩ := ahead.take width
    cases consumed : (cursor.tokens.drop index).take width with
    | nil =>
      rw [consumed] at taken
      cases taken
    | cons first rest =>
      rw [consumed] at taken own significant
      have first_stands := own.stands List.mem_cons_self
      have last_stands := own.stands List.getLastD_mem_cons
      obtain ⟨positive, -⟩ := first_stands.within (significant first List.mem_cons_self)
      obtain ⟨-, last_row⟩ := last_stands.within (significant _ List.getLastD_mem_cons)
      have lines : first.start.line ≤ (rest.getLastD first).stop.line :=
        Nat.le_trans own.first_before_last.1.1 last_stands.lines
      have clean_cut (clean : CleanBefore cursor.source (rest.getLastD first).stop.line) :=
        Cursor.between?_locations { cursor with index := index } positive lines last_row clean
      dsimp only at taken
      split at taken
      · next found cut =>
        obtain ⟨result, rfl⟩ := Prod.mk.inj taken
        obtain ⟨rfl, rfl⟩ := Prod.mk.inj (Except.ok.inj result)
        refine ⟨first, rest, ?_, rfl, fun clean => ?_⟩
        · have count : moved.index - index = width := Nat.add_sub_cancel_left index width
          rw [count, consumed]
        · cases cut.symm.trans (clean_cut clean)
          exact own.cut_ends
      · cases taken

/-- A name behind a comment is cut out; with a form feed in the comment something else is. -/
theorem Cursor.offsets_of_tokens_comment :
    (∃ cursor, Cursor.ofText ['#', '\n', 'a', 'b'] = .ok cursor ∧
      ⟨.name, "ab", ⟨2, 0⟩, ⟨2, 2⟩⟩ ∈ cursor.tokens ∧
      cursor.between? ⟨2, 0⟩ ⟨2, 2⟩ = some "ab".toList ∧
      ∃ text after, (Reading.takeExpression false .field).run { cursor with index := 0 } =
          (.ok (text, ⟨2, 0⟩), after) ∧
        "ab".toList <+: text ∧ "ab".toList <:+ text) ∧
    ∃ cursor, Cursor.ofText ['#', '\x0c', '\n', 'a', 'b'] = .ok cursor ∧
      ⟨.name, "ab", ⟨2, 0⟩, ⟨2, 2⟩⟩ ∈ cursor.tokens ∧
      cursor.between? ⟨2, 0⟩ ⟨2, 2⟩ = some ['\n', 'a'] := by
  have plain : Cursor.ofText ['#', '\n', 'a', 'b'] = .ok ⟨['#', '\n', 'a', 'b'],
      [⟨.name, "ab", ⟨2, 0⟩, ⟨2, 2⟩⟩, ⟨.finish, "", ⟨3, 0⟩, ⟨3, 0⟩⟩], 0⟩ := rfl
  have stray : Cursor.ofText ['#', '\x0c', '\n', 'a', 'b'] = .ok ⟨['#', '\x0c', '\n', 'a', 'b'],
      [⟨.name, "ab", ⟨2, 0⟩, ⟨2, 2⟩⟩, ⟨.finish, "", ⟨3, 0⟩, ⟨3, 0⟩⟩], 0⟩ := rfl
  obtain ⟨tokens, expressions⟩ := Cursor.offsets_of_tokens plain
  obtain ⟨-, -, -, -, cut⟩ := tokens _ List.mem_cons_self (by decide)
  obtain ⟨first, rest, parts, -, ends⟩ := expressions 0 false .field "ab".toList ⟨2, 0⟩ _ rfl
  cases parts
  exact ⟨⟨_, plain, List.mem_cons_self, cut (by decide), _, _, rfl, ends (by decide)⟩,
    _, stray, List.mem_cons_self, rfl⟩

end ByteRecord.Source
