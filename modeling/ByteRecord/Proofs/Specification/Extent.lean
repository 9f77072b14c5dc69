import Mathlib.Order.Bounds.Defs
import ByteRecord.Proofs.Source.Reads
import ByteRecord.Proofs.Specification.Run

/-! How far an expression reaches: up to the first token, counted from the cursor, at which no more
brackets are open than before and which is a comma, a closing bracket or an arrow; or else up to the
end of the text. -/
namespace ByteRecord.Source
open Cursor (expressionWidth endsExpression)

/-- What a token adds to the number of open brackets. -/
def Token.nesting (token : Token) : Int :=
  if token.kind != .op then 0
  else if Lexical.isOpening token.text then 1
  else if Lexical.isClosing token.text then -1
  else 0

/-- How many more brackets tokens open than they close. -/
def nesting : List Token → Int
  | [] => 0
  | token :: tokens => token.nesting + nesting tokens

@[simp] theorem nesting_nil : nesting [] = 0 := rfl

@[simp] theorem nesting_cons (token : Token) (tokens : List Token) :
    nesting (token :: tokens) = token.nesting + nesting tokens := rfl

theorem depthAfter_eq_nesting (token : Token) {depth : Nat}
    (within : depth = 0 → token.isClosing = false) :
    (Cursor.depthAfter token depth : Int) = depth + token.nesting := by
  rw [Cursor.depthAfter, Token.nesting]
  cases kind : token.kind != .op with
  | true => simp
  | false =>
    simp only [Bool.false_eq_true, if_false]
    split
    · simp
    · split
      · next closing =>
        have positive : depth ≠ 0 := by
          intro zero
          have other := within zero
          rw [Token.isClosing, closing, Bool.and_true] at other
          simp [other, bne] at kind
        omega
      · simp

/-- An expression with so many open brackets ends before what comes next, if anything does. -/
def EndsBefore (stopAtArrow : Bool) (depth : Int) : List Token → Prop
  | [] => True
  | stop :: later =>
    stop.kind = .finish ∨ depth = 0 ∧ endsExpression stopAtArrow stop (later.headD stop) = true

/-- An expression does not end before any of its own tokens but before what stands behind them, and
at none of them are more brackets closed than were open. -/
theorem expressionWidth_extent (stopAtArrow : Bool) (depth : Nat) (tokens : List Token) :
    let width := expressionWidth stopAtArrow depth tokens
    (∀ k < width, ¬EndsBefore stopAtArrow (depth + nesting (tokens.take k)) (tokens.drop k)) ∧
      EndsBefore stopAtArrow (depth + nesting (tokens.take width)) (tokens.drop width) ∧
      ∀ k ≤ width, 0 ≤ depth + nesting (tokens.take k) := by
  -- Behind its first token the expression goes on as one with the depth that this token leaves.
  induction tokens generalizing depth with
  | nil => simp [expressionWidth, EndsBefore]
  | cons token rest ih =>
    have start : ((depth : Int) + nesting ((token :: rest).take 0)) = depth := by simp
    by_cases finish : token.kind = .finish
    · have width : expressionWidth stopAtArrow depth (token :: rest) = 0 := by
        simp [expressionWidth, finish]
      simp only [width]
      refine ⟨fun k less => absurd less k.not_lt_zero, .inl finish, fun k none => ?_⟩
      obtain rfl := Nat.le_zero.mp none
      omega
    by_cases ends : depth = 0 ∧ endsExpression stopAtArrow token (rest.headD token) = true
    · have width : expressionWidth stopAtArrow depth (token :: rest) = 0 := by
        rw [expressionWidth, if_neg (by simpa using finish), if_pos (by simpa using ends)]
      simp only [width]
      refine ⟨fun k less => absurd less k.not_lt_zero,
        .inr ⟨by rw [start, ends.1, Int.ofNat_zero], ends.2⟩, fun k none => ?_⟩
      obtain rfl := Nat.le_zero.mp none
      omega
    · have width : expressionWidth stopAtArrow depth (token :: rest) =
          expressionWidth stopAtArrow (Cursor.depthAfter token depth) rest + 1 := by
        rw [expressionWidth, if_neg (by simpa using finish), if_neg (by simpa using ends)]
      have within : depth = 0 → token.isClosing = false := fun zero => by
        have inside : endsExpression stopAtArrow token (rest.headD token) = false := by
          simpa using fun yes => ends ⟨zero, yes⟩
        exact (endsExpression_eq_false_iff.mp inside).2.1
      obtain ⟨before, at_end, open_⟩ := ih (Cursor.depthAfter token depth)
      simp only [depthAfter_eq_nesting token within, Int.add_assoc] at before at_end open_
      simp only [width]
      refine ⟨fun k small => ?_, ?_, fun k small => ?_⟩
      · cases k with
        | zero =>
          rintro (stop | ⟨zero, stop⟩)
          · exact finish stop
          · exact ends ⟨by omega, stop⟩
        | succ k =>
          rw [List.take_succ_cons, List.drop_succ_cons, nesting_cons]
          exact before k (Nat.lt_of_succ_lt_succ small)
      · rw [List.take_succ_cons, List.drop_succ_cons, nesting_cons]
        exact at_end
      · cases k with
        | zero => omega
        | succ k =>
          rw [List.take_succ_cons, nesting_cons]
          exact open_ k (Nat.le_of_succ_le_succ small)

namespace Cursor

/-- The tokens from where the cursor stands up to a place. -/
def upTo (cursor : Cursor) (place : Nat) : List Token :=
  (cursor.tokens.drop cursor.index).take (place - cursor.index)

/-- An expression that begins at the cursor could end before a place: there the text ends, or there
stands a comma, a closing bracket or, where arrows end an expression, an arrow, and up to there as
many brackets are closed as opened. -/
def EndsAt (cursor : Cursor) (stopAtArrow : Bool) (place : Nat) : Prop :=
  let there : Cursor := { cursor with index := place }
  there.atEnd ∨ nesting (cursor.upTo place) = 0 ∧
    (there.atOp "," ∨ there.current.isClosing ∨ (stopAtArrow ∧ there.atArrow))

/-- The last token marks the end of the text. -/
def IsClosed (cursor : Cursor) : Prop :=
  ∃ last, cursor.tokens.getLast? = some last ∧ last.kind = .finish

theorem IsClosed.atEnd {cursor : Cursor} (closed : cursor.IsClosed)
    (behind : cursor.tokens.length ≤ cursor.index) : cursor.atEnd = true := by
  obtain ⟨last, final, finish⟩ := closed
  have place : min (cursor.index + 0) (cursor.tokens.length - 1) = cursor.tokens.length - 1 := by
    omega
  rw [List.getLast?_eq_getElem?] at final
  rw [Cursor.atEnd, current, peek, place, List.getD_eq_getElem?_getD, final, Option.getD_some,
    finish]
  rfl

theorem endsAt_iff {cursor : Cursor} (closed : cursor.IsClosed) (stopAtArrow : Bool)
    (place : Nat) : cursor.EndsAt stopAtArrow place ↔
      EndsBefore stopAtArrow (nesting (cursor.upTo place)) (cursor.tokens.drop place) := by
  let there : Cursor := { cursor with index := place }
  cases ahead : cursor.tokens.drop place with
  | nil =>
    have at_end : there.atEnd = true := IsClosed.atEnd closed (List.drop_eq_nil_iff.mp ahead)
    exact ⟨fun _ => trivial, fun _ => .inl at_end⟩
  | cons token rest =>
    have here : there.current = token := current_of_drop ahead
    have next : there.peek 1 = rest.headD token := peek_one_of_drop ahead
    change (there.atEnd = true ∨ _ = 0 ∧ (there.atOp "," = true ∨ there.current.isClosing = true ∨
      (_ ∧ there.atArrow = true))) ↔ _
    rw [Cursor.atEnd, atOp, atArrow, here, next, EndsBefore, endsExpression_eq, beq_iff_eq]
    simp [or_assoc]

end Cursor

namespace Reading
variable {cursor : Cursor}

/-- Where no expression comes next, the cursor stays, and the error stands at its token. -/
theorem takeExpression_none (kind : SpecificationKind)
    (none : expressionWidth stopAtArrow 0 (cursor.tokens.drop cursor.index) = 0) :
    (takeExpression stopAtArrow kind).run cursor = (.error (.specification
      ⟨kind, .unexpected .expression cursor.found, some cursor.location, .none⟩), cursor) := by
  rw [takeExpression_run]
  simp only [none, List.take_zero]
  rfl

/-- An expression that comes next ends before the end of the text, and its text is looked up between
its first and its last token. -/
theorem takeExpression_some (closed : cursor.IsClosed) (kind : SpecificationKind)
    (some_width : 0 < expressionWidth stopAtArrow 0 (cursor.tokens.drop cursor.index)) :
    let stop := cursor.index + expressionWidth stopAtArrow 0 (cursor.tokens.drop cursor.index)
    stop < cursor.tokens.length ∧ ∃ last, cursor.tokens[stop - 1]? = some last ∧
      (takeExpression stopAtArrow kind).run cursor =
        (match cursor.between? cursor.location last.stop with
          | some text => .ok (text, cursor.location)
          | none => .error (.failure .index), { cursor with index := stop }) := by
  have significant := Cursor.expressionWidth_significant stopAtArrow 0
    (cursor.tokens.drop cursor.index)
  have within := Cursor.expressionWidth_le stopAtArrow 0 (cursor.tokens.drop cursor.index)
  rw [takeExpression_run]
  generalize expressionWidth stopAtArrow 0 (cursor.tokens.drop cursor.index) = width at *
  cases consumed : (cursor.tokens.drop cursor.index).take width with
  | nil =>
    have count := congrArg List.length consumed
    rw [List.length_take, Nat.min_eq_left within, List.length_nil] at count
    omega
  | cons first rest =>
    rw [consumed] at significant
    have ahead : cursor.tokens.drop cursor.index =
        first :: (rest ++ (cursor.tokens.drop cursor.index).drop width) := by
      rw [← List.cons_append, ← consumed, List.take_append_drop]
    have start : first.start = cursor.location := by
      rw [Cursor.location, Cursor.current_of_drop ahead]
    have last_at : cursor.tokens[cursor.index + width - 1]? = some (rest.getLastD first) := by
      have last := congrArg List.getLast? consumed
      rwa [List.getLast?_eq_getElem?, List.length_take, Nat.min_eq_left within,
        List.getElem?_take_of_lt (by omega), List.getElem?_drop, List.getLast?_cons,
        ← List.getLastD_eq_getLast?, ← Nat.add_sub_assoc some_width] at last
    refine ⟨?_, _, last_at, ?_⟩
    · obtain ⟨final, at_end, finish⟩ := closed
      rw [List.length_drop] at within
      by_contra beyond
      have place : cursor.index + width - 1 = cursor.tokens.length - 1 := by omega
      rw [place, ← List.getLast?_eq_getElem?, at_end, Option.some.injEq] at last_at
      exact significant _ (last_at ▸ List.getLastD_mem_cons) finish
    · simp only [consumed]
      rw [start]
      cases cursor.between? cursor.location (rest.getLastD first).stop <;> rfl

end Reading

/-- An expression reaches from the cursor up to the first place at which it could end, and nowhere
in between are more brackets closed than opened. If that is the cursor's own place, there is no
expression, and the cursor stays; otherwise it stands at that place, and the expression is located
at its first token. It is cut out of the text if the lines of its ends exist, which they do for the
tokens of the text. -/
theorem Reading.takeExpression_extent {cursor : Cursor} (closed : cursor.IsClosed)
    (stopAtArrow : Bool) (kind : SpecificationKind) :
    ∃ stop, IsLeast {place | cursor.index ≤ place ∧ cursor.EndsAt stopAtArrow place} stop ∧
      ((takeExpression stopAtArrow kind).run cursor).2 = { cursor with index := stop } ∧
      (stop = cursor.index → ((takeExpression stopAtArrow kind).run cursor).1 =
        .error (.specification
          ⟨kind, .unexpected .expression cursor.found, some cursor.location, none⟩)) ∧
      (cursor.index < stop → stop < cursor.tokens.length ∧
        ∃ last, cursor.tokens[stop - 1]? = some last ∧
          ((takeExpression stopAtArrow kind).run cursor).1 =
            match cursor.between? cursor.location last.stop with
            | some text => .ok (text, cursor.location)
            | none => .error (.failure .index)) ∧
      (cursor.index < stop → tokenize cursor.source = .ok cursor.tokens →
        ∃ text, ((takeExpression stopAtArrow kind).run cursor).1 = .ok (text, cursor.location)) ∧
      ∀ place, cursor.index ≤ place → place ≤ stop → 0 ≤ nesting (cursor.upTo place) := by
  let ahead := cursor.tokens.drop cursor.index
  let width := expressionWidth stopAtArrow 0 ahead
  obtain ⟨before, at_end, open_⟩ := expressionWidth_extent stopAtArrow 0 ahead
  simp only [Int.ofNat_zero, Int.zero_add] at before at_end open_
  have within := Cursor.expressionWidth_le stopAtArrow 0 ahead
  have up_to (k : Nat) : cursor.upTo (cursor.index + k) = ahead.take k := by
    rw [Cursor.upTo, Nat.add_sub_cancel_left]
  have ends (k : Nat) : cursor.EndsAt stopAtArrow (cursor.index + k) ↔
      EndsBefore stopAtArrow (nesting (ahead.take k)) (ahead.drop k) := by
    rw [Cursor.endsAt_iff closed, up_to, List.drop_drop]
  refine ⟨cursor.index + width, ⟨⟨Nat.le_add_right _ _, (ends width).mpr at_end⟩, ?_⟩, ?_, ?_, ?_,
    ?_, ?_⟩
  · rintro place ⟨reached, ended⟩
    obtain ⟨k, rfl⟩ := Nat.exists_eq_add_of_le reached
    rw [ends] at ended
    exact Nat.add_le_add_left (Nat.le_of_not_lt fun less => before k less ended) _
  · rcases Nat.eq_zero_or_pos width with none | some_width
    · rw [takeExpression_none kind none, none, Nat.add_zero]
    · obtain ⟨-, _, -, run⟩ := takeExpression_some closed kind some_width
      rw [run]
  · intro same
    rw [takeExpression_none kind (Nat.add_eq_left.mp same)]
  · intro less
    obtain ⟨within, last, at_last, run⟩ :=
      takeExpression_some closed kind (Nat.pos_of_lt_add_right less)
    exact ⟨within, last, at_last, by rw [run]⟩
  · intro less scanned
    obtain ⟨-, last, -, run⟩ := takeExpression_some closed kind (Nat.pos_of_lt_add_right less)
    have located : Located cursor.source cursor.tokens (IsLocated cursor.tokens) :=
      ⟨scanned, fun _ own => own⟩
    have reads := located.takeExpression stopAtArrow kind cursor.index
    rw [run] at reads ⊢
    cases cut : cursor.between? cursor.location last.stop with
    | some text => exact ⟨text, rfl⟩
    | none =>
      rw [cut] at reads
      obtain ⟨_, _, impossible, -⟩ := reads
      cases impossible
  · intro place reached small
    obtain ⟨k, rfl⟩ := Nat.exists_eq_add_of_le reached
    rw [up_to]
    exact open_ k (Nat.le_of_add_le_add_left small)

theorem Reading.takeExpression_extent_call :
    ∃ cursor, Cursor.ofText "f(a, b) => c".toList = .ok cursor ∧ cursor.IsClosed ∧
      IsLeast {place | cursor.index ≤ place ∧ cursor.EndsAt true place} 6 ∧
      (takeExpression true .field).run cursor =
        (.ok ("f(a, b)".toList, cursor.location), { cursor with index := 6 }) := by
  obtain ⟨cursor, built, closed, run⟩ : ∃ cursor, Cursor.ofText "f(a, b) => c".toList = .ok cursor ∧
      cursor.IsClosed ∧ (takeExpression true .field).run cursor =
        (.ok ("f(a, b)".toList, cursor.location), { cursor with index := 6 }) :=
    ⟨_, rfl, ⟨_, rfl, rfl⟩, rfl⟩
  obtain ⟨stop, least, moved, -⟩ := takeExpression_extent closed true .field
  rw [run] at moved
  obtain rfl : 6 = stop := congrArg Cursor.index moved
  exact ⟨cursor, built, closed, least, run⟩

end ByteRecord.Source
