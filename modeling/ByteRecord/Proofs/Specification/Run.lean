import ByteRecord.Proofs.Specification.Ahead

/-! Runs of tokens and embedded expressions. A cursor takes exactly the tokens of a run if what
follows ends an expression, and where something ends an expression, what was taken is a run. -/
namespace ByteRecord.Source
open Cursor (expressionWidth endsExpression)

theorem Token.not_isArrow_self (token : Token) : token.isArrow token = false := by
  rw [← Bool.not_eq_true]
  intro arrow
  simp only [Token.isArrow, Token.spells, Bool.and_eq_true] at arrow
  have same := (Token.text_of_isOp arrow.1.1).symm.trans (Token.text_of_isOp arrow.1.2)
  exact absurd same (by decide)

theorem endsExpression_eq (arrowEnds : Bool) (token next : Token) :
    endsExpression arrowEnds token next =
      (token.isOp "," || token.isClosing || (arrowEnds && token.isArrow next)) := by
  simp only [endsExpression, Token.isClosing, Token.isArrow, Token.spells, Token.isOp]
  cases token.kind == .op <;> simp

theorem endsExpression_eq_false_iff {arrowEnds : Bool} {token next : Token} :
    endsExpression arrowEnds token next = false ↔ token.isOp "," = false ∧
      token.isClosing = false ∧ (arrowEnds = true → token.isArrow next = false) := by
  rw [endsExpression_eq]
  cases arrowEnds <;> simp [and_assoc]

/-- What an expression ends before, outside of all its brackets. -/
def Stops (arrowEnds : Bool) : List Token → Prop
  | [] => False
  | stop :: later =>
    stop.kind = .finish ∨ endsExpression arrowEnds stop (later.headD stop) = true

/-- No expression ends before the second half of an arrow. -/
theorem Stops.not_isArrow (stops : Stops arrowEnds (stop :: later)) (token : Token) :
    token.isArrow stop = false := by
  rw [← Bool.not_eq_true]
  intro arrow
  simp only [Token.isArrow, Token.spells, Bool.and_eq_true] at arrow
  have half := arrow.1.2
  have text := Token.text_of_isOp half
  rcases stops with finish | ends
  · exact Token.significant_of_isOp half finish
  · simp only [endsExpression_eq, Token.isClosing, Token.isArrow, Token.spells, Token.isOp, text,
      Token.kind_of_isOp half] at ends
    have closing : Lexical.isClosing ">" = false := by decide
    simp [closing] at ends

/-- Where arrows end expressions, an arrow does. -/
theorem Stops.of_isArrow (arrow : first.isArrow second) :
    Stops true (first :: second :: rest) := by
  refine .inr ?_
  rw [endsExpression_eq, List.headD_cons, arrow]
  simp

theorem IsRun.significant (run : IsRun arrowEnds depth tokens) :
    ∀ token ∈ tokens, token.kind ≠ .finish := by
  induction tokens generalizing depth with
  | nil => exact nofun
  | cons token rest ih =>
    obtain ⟨significant, -, later⟩ := run
    intro other member
    rcases List.mem_cons.mp member with rfl | member
    · exact significant
    · exact ih later other member

/-- A run is taken whole, up to what ends an expression. -/
theorem expressionWidth_run (run : IsRun arrowEnds depth tokens) (stops : Stops arrowEnds rest) :
    expressionWidth arrowEnds depth (tokens ++ rest) = tokens.length := by
  induction tokens generalizing depth with
  | nil =>
    obtain rfl : depth = 0 := run
    cases rest with
    | nil => exact stops.elim
    | cons stop later =>
      rw [List.nil_append, expressionWidth]
      rcases stops with finish | ends
      · rw [finish]
        rfl
      · rw [ends]
        simp
  | cons token tokens ih =>
    obtain ⟨significant, outside, later⟩ := run
    rw [List.cons_append, expressionWidth, ih later]
    have further : (token.kind == .finish) = false := by simpa using significant
    have inside : (depth == 0 && endsExpression arrowEnds token ((tokens ++ rest).headD token)) =
        false := by
      rcases Nat.eq_zero_or_pos depth with rfl | deep
      · obtain ⟨comma, closing, arrow⟩ := outside rfl
        rw [beq_self_eq_true, Bool.true_and, endsExpression_eq_false_iff]
        refine ⟨comma, closing, fun ends => ?_⟩
        cases tokens with
        | nil =>
          cases rest with
          | nil => exact stops.elim
          | cons stop later => exact stops.not_isArrow token
        | cons second tokens => exact arrow ends
      · have nonzero : (depth == 0) = false := by simpa using Nat.ne_of_gt deep
        rw [nonzero, Bool.false_and]
    rw [further, inside]
    rfl

/-- What is taken is followed by something that ends an expression. If that is not the end of the
text, what is taken is a run. -/
theorem stops_expressionWidth (ended : IsEnded tokens) (arrowEnds : Bool) (depth : Nat) :
    ∃ stop later, tokens.drop (expressionWidth arrowEnds depth tokens) = stop :: later ∧
      (stop.kind ≠ .finish → Stops arrowEnds (stop :: later) ∧
        IsRun arrowEnds depth (tokens.take (expressionWidth arrowEnds depth tokens))) := by
  induction tokens generalizing depth with
  | nil => cases ended
  | cons token rest ih =>
    rw [expressionWidth]
    by_cases finish : token.kind = .finish
    · rw [finish]
      exact ⟨token, rest, rfl, fun further => absurd finish further⟩
    · have further : (token.kind == .finish) = false := by simpa using finish
      rw [further, if_neg Bool.false_ne_true]
      split
      · next ends =>
        obtain ⟨zero, ends⟩ := Bool.and_eq_true_iff.mp ends
        exact ⟨token, rest, rfl, fun _ => ⟨.inr ends, eq_of_beq zero⟩⟩
      · next inside =>
        obtain ⟨stop, later, left, run⟩ := ih (ended.tail finish) (Cursor.depthAfter token depth)
        refine ⟨stop, later, left, fun other => ?_⟩
        obtain ⟨stops, run⟩ := run other
        refine ⟨stops, finish, ?_, run⟩
        rintro rfl
        rw [beq_self_eq_true, Bool.true_and, Bool.not_eq_true, endsExpression_eq_false_iff]
          at inside
        obtain ⟨comma, closing, arrow⟩ := inside
        refine ⟨comma, closing, fun ends => ?_⟩
        -- the token behind this one is part of the run, or the run ends here
        cases expressionWidth arrowEnds (Cursor.depthAfter token 0) rest with
        | zero => exact token.not_isArrow_self
        | succ width =>
          cases rest with
          | nil => exact token.not_isArrow_self
          | cons second rest => exact arrow ends

theorem depthAfter_add (token : Token) (depth more : Nat)
    (within : depth = 0 → token.isClosing = false) :
    Cursor.depthAfter token (depth + more) = Cursor.depthAfter token depth + more := by
  simp only [Cursor.depthAfter]
  cases kind : token.kind != .op with
  | true => rfl
  | false =>
    rw [if_neg Bool.false_ne_true, if_neg Bool.false_ne_true]
    split
    · omega
    · split
      · next closing =>
        have positive : depth ≠ 0 := by
          intro zero
          have open_ := within zero
          rw [Token.isClosing, closing, Bool.and_true] at open_
          simp only [bne, open_] at kind
          cases kind
        omega
      · rfl

theorem IsRun.inside (run : IsRun arrowEnds depth tokens) (deep : 0 < outer)
    (later : IsRun stopAtArrow outer rest) : IsRun stopAtArrow (depth + outer) (tokens ++ rest) := by
  induction tokens generalizing depth with
  | nil =>
    obtain rfl : depth = 0 := run
    rwa [Nat.zero_add]
  | cons token tokens ih =>
    obtain ⟨significant, outside, more⟩ := run
    refine ⟨significant, fun zero => absurd zero (by omega), ?_⟩
    rw [depthAfter_add token depth outer fun zero => (outside zero).2.1]
    exact ih more

/-- The text between the ends of some tokens is what the cursor cuts out. -/
theorem Cursor.between?_spanned {cursor : Cursor}
    (placed : Placed (rows cursor.source) start (first :: rest) stop)
    (significant : ∀ token ∈ first :: rest, token.kind ≠ .finish)
    (clean : OnlyLineFeeds cursor.source) :
    cursor.between? first.start (rest.getLastD first).stop =
      some (spanned cursor.source (first :: rest)) := by
  have first_stands := placed.stands List.mem_cons_self
  have last_stands := placed.stands List.getLastD_mem_cons
  obtain ⟨positive, -⟩ := first_stands.within (significant first List.mem_cons_self)
  obtain ⟨-, last_row⟩ := last_stands.within (significant _ List.getLastD_mem_cons)
  have lines : first.start.line ≤ (rest.getLastD first).stop.line :=
    Nat.le_trans placed.first_before_last.1.1 last_stands.lines
  exact cursor.between?_locations positive lines last_row (clean.cleanBefore _)

namespace Reading
variable {cursor after : Cursor} {text : List Char} {location : Location}

/-- A run before the end of an expression is taken, with its text. -/
theorem takeExpression_of_run (faces : cursor.Faces (first :: run ++ rest))
    (closed : IsRun arrowEnds 0 (first :: run)) (stops : Stops arrowEnds rest)
    (kind : SpecificationKind) :
    (takeExpression arrowEnds kind).run cursor =
      (.ok (spanned cursor.source (first :: run), first.start),
        cursor.moved (first :: run).length) := by
  obtain ⟨start, stop, placed⟩ := faces.placed
  obtain ⟨stop', own⟩ := placed.take (first :: run).length
  rw [List.take_left' rfl] at own
  have cut := Cursor.between?_spanned own closed.significant faces.clean
  rw [takeExpression_run]
  simp only [faces.here, expressionWidth_run closed stops, List.take_left, cut]
  rfl

/-- What is taken as an expression stands ahead. Unless it is all that is left, it is a run. -/
theorem of_takeExpression (faces : cursor.Faces ahead)
    (taken : (takeExpression arrowEnds kind).run cursor = (.ok (text, location), after)) :
    ∃ first run stop rest, ahead = first :: run ++ stop :: rest ∧
      after = cursor.moved (first :: run).length ∧ after.Faces (stop :: rest) ∧
      location = first.start ∧ text = spanned cursor.source (first :: run) ∧
      (stop.kind ≠ .finish → IsRun arrowEnds 0 (first :: run) ∧ Stops arrowEnds (stop :: rest)) := by
  obtain ⟨stop, rest, left, run⟩ := stops_expressionWidth faces.ended arrowEnds 0
  have significant := Cursor.expressionWidth_significant arrowEnds 0 ahead
  have within := Cursor.expressionWidth_le arrowEnds 0 ahead
  rw [takeExpression_run] at taken
  simp only [faces.here] at taken
  generalize expressionWidth arrowEnds 0 ahead = width at *
  have parts : ahead = ahead.take width ++ stop :: rest := by
    rw [← left, List.take_append_drop]
  have count : (ahead.take width).length = width := by
    rw [List.length_take, Nat.min_eq_left within]
  cases consumed : ahead.take width with
  | nil =>
    rw [consumed] at taken
    cases taken
  | cons first own =>
    rw [consumed] at taken significant run parts count
    obtain ⟨start, last, placed⟩ := faces.placed
    obtain ⟨stop', cut⟩ := placed.take width
    rw [consumed] at cut
    have found := Cursor.between?_spanned cut significant faces.clean
    simp only [found] at taken
    cases taken
    rw [parts] at faces
    refine ⟨first, own, stop, rest, parts, ?_, ?_, rfl, rfl, fun other => ?_⟩
    · rw [count]
      rfl
    · have left_faces := faces.moved significant
      rw [count] at left_faces
      exact left_faces
    · exact ⟨(run other).2, (run other).1⟩

theorem codeOf_ok_iff {place : Option Location} {code : Expr} :
    Expression.codeOf place kind text = .ok code ↔ Expr.compile text = .ok code := by
  unfold Expression.codeOf
  split
  · next compiled => rw [compiled, Except.ok.injEq, Except.ok.injEq]
  · next failed =>
    rw [failed]
    exact ⟨nofun, nofun⟩

theorem takeCompiled_of_expression {e : Expression} (faces : cursor.Faces (tokens ++ rest))
    (own : Phrase.IsExpression cursor.source arrowEnds tokens e) (stops : Stops arrowEnds rest)
    (kind : SpecificationKind) :
    (takeCompiled arrowEnds kind).run cursor = (.ok e, cursor.moved tokens.length) := by
  cases own with
  | run closed compiled =>
    have taken := takeExpression_of_run faces closed stops kind
    rw [takeCompiled, run_bind_ok_iff]
    refine ⟨_, _, taken, ?_⟩
    rw [run_bind_ok_iff]
    refine ⟨_, _, (run_lift _ _).trans (congrArg (·, _) (codeOf_ok_iff.mpr compiled)), rfl⟩

/-- What is read as an expression is one, unless it is all that is left. -/
theorem of_takeCompiled {e : Expression} (faces : cursor.Faces ahead)
    (read : (takeCompiled arrowEnds kind).run cursor = (.ok e, after)) :
    ∃ tokens stop rest, ahead = tokens ++ stop :: rest ∧ after = cursor.moved tokens.length ∧
      after.Faces (stop :: rest) ∧ (stop.kind ≠ .finish →
        Phrase.IsExpression cursor.source arrowEnds tokens e ∧ Stops arrowEnds (stop :: rest)) := by
  rw [takeCompiled, run_bind_ok_iff] at read
  obtain ⟨⟨text, location⟩, middle, taken, read⟩ := read
  obtain ⟨first, run, stop, rest, parts, moved, left, rfl, rfl, closed⟩ :=
    of_takeExpression faces taken
  rw [run_bind_ok_iff] at read
  obtain ⟨code, place, compiled, read⟩ := read
  rw [run_lift] at compiled
  obtain ⟨result, rfl⟩ := Prod.mk.inj compiled
  cases read
  refine ⟨first :: run, stop, rest, parts, moved, left, fun other => ?_⟩
  exact ⟨.run (closed other).1 (codeOf_ok_iff.mp result), (closed other).2⟩

end Reading
end ByteRecord.Source
