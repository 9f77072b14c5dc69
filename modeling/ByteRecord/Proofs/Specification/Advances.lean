import ByteRecord.Field.Reader
import ByteRecord.Proofs.Specification.Ahead

/-! Reading only moves a cursor forward, and never over the end of the text, whether it succeeds or
fails. -/
namespace ByteRecord.Source

theorem IsEnded.finish_iff (ended : IsEnded tokens) (there : tokens[place]? = some token) :
    token.kind = .finish ↔ place + 1 = tokens.length := by
  induction ended generalizing place with
  | last finish =>
    cases place with
    | zero =>
      cases there
      exact ⟨fun _ => rfl, fun _ => finish⟩
    | succ place => cases there
  | @further first rest significant ended ih =>
    cases place with
    | zero =>
      cases there
      obtain ⟨second, later, rfl⟩ := ended.exists_cons
      exact ⟨fun finish => absurd finish significant, nofun⟩
    | succ place =>
      rw [List.getElem?_cons_succ] at there
      rw [ih there, List.length_cons, Nat.add_right_cancel_iff]

namespace Cursor

/-- A cursor has moved over tokens of which none is the end of the text. -/
structure Passed (before after : Cursor) : Prop where
  source : after.source = before.source
  tokens : after.tokens = before.tokens
  index_le : before.index ≤ after.index
  significant : ∀ place, before.index ≤ place → place < after.index →
    ∀ token, before.tokens[place]? = some token → token.kind ≠ .finish

namespace Passed

theorem refl (cursor : Cursor) : Passed cursor cursor :=
  ⟨rfl, rfl, Nat.le_refl _, fun _ behind ahead => absurd behind (Nat.not_le_of_lt ahead)⟩

theorem trans {first second third : Cursor} (earlier : Passed first second)
    (later : Passed second third) : Passed first third where
  source := later.source.trans earlier.source
  tokens := later.tokens.trans earlier.tokens
  index_le := Nat.le_trans earlier.index_le later.index_le
  significant place behind ahead token there := by
    rcases Nat.lt_or_ge place second.index with before | after
    · exact earlier.significant place behind before token there
    · exact later.significant place after ahead token (earlier.tokens ▸ there)

theorem index_lt {before after : Cursor} (passed : Passed before after)
    (ended : IsEnded before.tokens) (within : before.index < before.tokens.length) :
    after.index < before.tokens.length := by
  -- Otherwise the last token was moved over, which is the end of the text.
  by_contra outside
  have there : before.tokens[before.tokens.length - 1]? = some _ :=
    List.getElem?_eq_getElem (by omega)
  exact passed.significant _ (by omega) (by omega) _ there
    ((ended.finish_iff there).mpr (by omega))

end Passed

theorem current_of_getElem? {cursor : Cursor} (here : cursor.tokens[cursor.index]? = some token) :
    cursor.current = token := by
  obtain ⟨within, rfl⟩ := List.getElem?_eq_some_iff.mp here
  exact current_of_drop (List.drop_eq_getElem_cons within)

theorem peek_one_of_getElem? {cursor : Cursor}
    (there : cursor.tokens[cursor.index + 1]? = some token) : cursor.peek 1 = token := by
  obtain ⟨within, rfl⟩ := List.getElem?_eq_some_iff.mp there
  rw [peek_one_of_drop (List.drop_eq_getElem_cons (Nat.lt_of_succ_lt within)),
    List.drop_eq_getElem_cons within]
  rfl

end Cursor

/-- From a cursor on, a reading only moves forward, over a least number of tokens if it succeeds. -/
def Advances (least : Nat) (reading : Reading α) (cursor : Cursor) : Prop :=
  match reading.run cursor with
  | (.ok _, after) => cursor.Passed after ∧ cursor.index + least ≤ after.index
  | (.error _, after) => cursor.Passed after

namespace Advances
variable {cursor : Cursor}

theorem passed {reading : Reading α} (advances : Advances least reading cursor) :
    cursor.Passed (reading.run cursor).2 := by
  unfold Advances at advances
  split at advances
  · next ran =>
    rw [ran]
    exact advances.1
  · next ran =>
    rw [ran]
    exact advances

theorem index_le {reading : Reading α} (advances : Advances least reading cursor)
    (succeeds : (reading.run cursor).1 = .ok value) :
    cursor.index + least ≤ (reading.run cursor).2.index := by
  unfold Advances at advances
  split at advances
  · next ran =>
    rw [ran]
    exact advances.2
  · next ran =>
    rw [ran] at succeeds
    cases succeeds

theorem pure (value : α) : Advances 0 (Pure.pure value) cursor :=
  ⟨.refl cursor, Nat.le_refl _⟩

theorem throw (fault : Fault) : Advances least (MonadExcept.throw fault : Reading α) cursor :=
  Cursor.Passed.refl cursor

theorem lift (result : Except Fault α) : Advances 0 (liftM result) cursor := by
  rw [Advances, run_lift]
  cases result with
  | error fault => exact .refl cursor
  | ok value => exact ⟨.refl cursor, Nat.le_refl _⟩

theorem bind {first : Reading α} {next : α → Reading β} (own : Advances least first cursor)
    (later : ∀ value after, Advances more (next value) after) :
    Advances (least + more) (first >>= next) cursor := by
  unfold Advances at own ⊢
  rw [run_bind]
  split at own
  · next value middle ran =>
    obtain ⟨passed, far⟩ := own
    have further := later value middle
    unfold Advances at further
    rw [ran]
    dsimp only
    split at further
    · next ran' =>
      obtain ⟨passed', far'⟩ := further
      rw [ran']
      exact ⟨passed.trans passed', by omega⟩
    · next ran' =>
      rw [ran']
      exact passed.trans further
  · next ran =>
    rw [ran]
    exact own

theorem get_bind {next : Cursor → Reading α} (later : Advances least (next cursor) cursor) :
    Advances least (get >>= next) cursor :=
  later

theorem ite {condition : Prop} [Decidable condition] {first second : Reading α}
    (yes : Advances least first cursor) (no : Advances least second cursor) :
    Advances least (if condition then first else second) cursor := by
  split
  · exact yes
  · exact no

theorem mono {reading : Reading α} (advances : Advances least reading cursor) (fewer : less ≤ least) :
    Advances less reading cursor := by
  unfold Advances at advances ⊢
  split at advances
  · exact ⟨advances.1, by omega⟩
  · exact advances

theorem fail (kind : SpecificationKind) (wanted : Wanted) :
    Advances least (Reading.fail kind wanted : Reading α) cursor :=
  get_bind (throw _)

theorem next_significant (significant : cursor.current.kind ≠ .finish) :
    Advances 1 Reading.next cursor := by
  have inside : cursor.atEnd = false := beq_eq_false_iff_ne.mpr significant
  have ran : Reading.next.run cursor =
      (.ok cursor.current, { cursor with index := cursor.index + 1 }) := by
    change (_, cursor.advanced) = _
    rw [Cursor.advanced, inside]
    rfl
  rw [Advances, ran]
  refine ⟨⟨rfl, rfl, Nat.le_succ _, fun place behind ahead token there => ?_⟩, Nat.le_refl _⟩
  obtain rfl : place = cursor.index := Nat.le_antisymm (Nat.lt_succ_iff.mp ahead) behind
  rwa [← Cursor.current_of_getElem? there]

theorem next_of_kind (is_kind : (cursor.current.kind == kind) = true) (other : kind ≠ .finish) :
    Advances 1 Reading.next cursor :=
  next_significant (beq_iff_eq.mp is_kind ▸ other)

theorem next : Advances 0 Reading.next cursor := by
  by_cases finish : cursor.current.kind = .finish
  · have stays : cursor.advanced = cursor := by
      rw [Cursor.advanced, Cursor.atEnd, finish]
      rfl
    have ran : Reading.next.run cursor = (.ok cursor.current, cursor) :=
      congrArg (Prod.mk _) stays
    rw [Advances, ran]
    exact ⟨.refl cursor, Nat.le_refl _⟩
  · exact (next_significant finish).mono (Nat.zero_le 1)

theorem expectOp (op : String) (kind : SpecificationKind) (wanted : Wanted) :
    Advances 1 (Reading.expectOp op kind wanted) cursor := by
  refine get_bind ?_
  split
  · next at_op => exact next_significant (Token.significant_of_isOp at_op)
  · exact fail kind wanted

theorem expectArrow (kind : SpecificationKind) (wanted : Wanted) :
    Advances 2 (Reading.expectArrow kind wanted) cursor := by
  refine get_bind ?_
  split
  · next at_arrow =>
    obtain ⟨equals, greater⟩ := Token.isOp_of_spells at_arrow
    refine ⟨⟨rfl, rfl, Nat.le_add_right _ 2, fun place behind ahead token there => ?_⟩,
      Nat.le_refl _⟩
    have within : place < cursor.index + 2 := ahead
    obtain rfl | rfl : place = cursor.index ∨ place = cursor.index + 1 := by omega
    · rw [← Cursor.current_of_getElem? there]
      exact Token.significant_of_isOp equals
    · rw [← Cursor.peek_one_of_getElem? there]
      exact Token.significant_of_isOp greater
  · exact fail kind wanted

theorem takeExpression (stopAtArrow : Bool) (kind : SpecificationKind) :
    Advances 1 (Reading.takeExpression stopAtArrow kind) cursor := by
  have significant := Cursor.expressionWidth_significant stopAtArrow 0
    (cursor.tokens.drop cursor.index)
  rw [Advances, Reading.takeExpression_run]
  generalize Cursor.expressionWidth stopAtArrow 0 (cursor.tokens.drop cursor.index) = width
    at significant ⊢
  have passed : cursor.Passed { cursor with index := cursor.index + width } := by
    refine ⟨rfl, rfl, Nat.le_add_right _ _, fun place behind ahead token there => ?_⟩
    obtain ⟨k, rfl⟩ := Nat.exists_eq_add_of_le behind
    refine significant token (List.mem_of_getElem? (i := k) ?_)
    rw [List.getElem?_take_of_lt (Nat.lt_of_add_lt_add_left ahead), List.getElem?_drop, there]
  dsimp only
  cases own : (cursor.tokens.drop cursor.index).take width with
  | nil => exact passed
  | cons first rest =>
    have some_width : width ≠ 0 := by
      rintro rfl
      cases own
    dsimp only
    cases cursor.between? first.start (rest.getLastD first).stop with
    | none => exact passed
    | some text => exact ⟨passed, Nat.add_le_add_left (Nat.one_le_iff_ne_zero.mpr some_width) _⟩

theorem takeCompiled (stopAtArrow : Bool) (kind : SpecificationKind) :
    Advances 1 (Reading.takeCompiled stopAtArrow kind) cursor :=
  (takeExpression stopAtArrow kind).bind fun _ _ =>
    (lift _).bind fun _ _ => pure _

theorem readPattern : Advances 1 Pattern.read cursor := by
  refine get_bind ?_
  dsimp only
  split
  · next is_string => exact (next_of_kind is_string nofun).bind fun _ _ => lift _
  · split
    · exact (takeExpression true .pattern).bind fun _ _ => lift _
    · exact fail _ _

theorem readMember : Advances 1 Field.readMember cursor := by
  refine get_bind ?_
  dsimp only
  split
  · next is_name => exact (next_of_kind is_name nofun).bind fun _ _ => pure _
  · split
    · next is_number =>
      have taken : Advances 1 Reading.next cursor :=
        next_of_kind (Bool.and_eq_true_iff.mp is_number).1 nofun
      refine (taken.bind fun token after => (?_ : Advances 0 _ after))
      split
      · exact pure _
      · exact throw _
    · exact fail _ _

theorem requireMember (member : Value) : Advances 0 (Field.requireMember member) cursor := by
  unfold Field.requireMember
  split
  · exact get_bind (throw _)
  · exact pure _

theorem readBinding (member : Value) : Advances 0 (Field.readBinding member) cursor := by
  refine get_bind ?_
  split
  · exact pure _
  · split
    · exact fail _ _
    · exact (requireMember member).bind fun _ _ => next.bind fun _ _ => next.bind fun _ _ => pure _

theorem readTransform (member binding : Value) :
    Advances 0 (Field.readTransform member binding) cursor := by
  refine get_bind (ite ?_ (pure _))
  exact ((requireMember member).bind fun _ _ => (expectArrow _ _).bind fun _ _ =>
    (takeCompiled _ _).bind fun _ _ => pure _).mono (Nat.zero_le _)

theorem readField : Advances 3 Field.read cursor :=
  get_bind (readMember.bind fun _ _ => (expectOp _ _ _).bind fun _ _ => (readBinding _).bind
    fun _ _ => readPattern.bind fun _ _ => (readTransform _ _).bind fun _ _ => lift _)

end Advances

/-- What can be done with a cursor. -/
inductive Operation : Type → Type 1 where
  | peek (offset : Nat) : Operation Token
  | atEnd : Operation Bool
  | location : Operation Location
  | atOp (op : String) (offset : Nat) : Operation Bool
  | atName (offset : Nat) : Operation Bool
  | atArrow : Operation Bool
  | atRest : Operation Bool
  | next : Operation Token
  | expectOp (op : String) (kind : SpecificationKind) (wanted : Wanted) : Operation Token
  | expectArrow (kind : SpecificationKind) (wanted : Wanted) : Operation Unit
  | takeExpression (stopAtArrow : Bool) (kind : SpecificationKind) :
    Operation (List Char × Location)
  | takeCompiled (stopAtArrow : Bool) (kind : SpecificationKind) : Operation Expression
  | readPattern : Operation Pattern
  | readField : Operation Field

namespace Operation

def reading : Operation α → Reading α
  | peek offset => return (← get).peek offset
  | atEnd => return (← get).atEnd
  | location => return (← get).location
  | atOp op offset => return ((← get).peek offset).isOp op
  | atName offset => return ((← get).peek offset).kind == .name
  | atArrow => return (← get).atArrow
  | atRest => return (← get).atRest
  | next => Reading.next
  | expectOp op kind wanted => Reading.expectOp op kind wanted
  | expectArrow kind wanted => Reading.expectArrow kind wanted
  | takeExpression stopAtArrow kind => Reading.takeExpression stopAtArrow kind
  | takeCompiled stopAtArrow kind => Reading.takeCompiled stopAtArrow kind
  | readPattern => Pattern.read
  | readField => Field.read

/-- The least number of tokens that it moves over if it succeeds. -/
def least : Operation α → Nat
  | expectOp .. | takeExpression .. | takeCompiled .. | readPattern => 1
  | expectArrow .. => 2
  | readField => 3
  | _ => 0

def isPeek : Operation α → Bool
  | peek _ | atEnd | location | atOp .. | atName _ | atArrow | atRest => true
  | _ => false

/-- Whether it wants certain tokens to come next. -/
def isExpectation : Operation α → Bool
  | expectOp .. | expectArrow .. => true
  | _ => false

theorem advances (operation : Operation α) (cursor : Cursor) :
    Advances operation.least operation.reading cursor := by
  cases operation with
  | next => exact .next
  | expectOp op kind wanted => exact .expectOp op kind wanted
  | expectArrow kind wanted => exact .expectArrow kind wanted
  | takeExpression stopAtArrow kind => exact .takeExpression stopAtArrow kind
  | takeCompiled stopAtArrow kind => exact .takeCompiled stopAtArrow kind
  | readPattern => exact .readPattern
  | readField => exact .readField
  | _ => exact .get_bind (.pure _)

theorem run_of_isPeek {operation : Operation α} (peeks : operation.isPeek = true)
    (cursor : Cursor) : (operation.reading.run cursor).2 = cursor := by
  cases operation <;> first | rfl | cases peeks

theorem run_of_isExpectation {operation : Operation α} (expects : operation.isExpectation = true)
    {cursor : Cursor} (failed : (operation.reading.run cursor).1 = .error fault) :
    (operation.reading.run cursor).2 = cursor := by
  cases operation with
  | expectOp op kind wanted =>
    rw [reading, Reading.expectOp, Reading.run_get_bind] at failed ⊢
    split at failed
    · cases failed
    · next other => rw [if_neg other, Reading.run_fail]
  | expectArrow kind wanted =>
    rw [reading, Reading.expectArrow, Reading.run_get_bind] at failed ⊢
    split at failed
    · cases failed
    · next other => rw [if_neg other, Reading.run_fail]
  | _ => cases expects

end Operation

/-- The cursor after some operations, of which any may fail. -/
def Cursor.performed (cursor : Cursor) (operations : List (Σ α, Operation α)) : Cursor :=
  operations.foldl (fun cursor operation => (operation.2.reading.run cursor).2) cursor

theorem Cursor.passed_performed (cursor : Cursor) (operations : List (Σ α, Operation α)) :
    cursor.Passed (cursor.performed operations) := by
  induction operations generalizing cursor with
  | nil => exact .refl cursor
  | cons operation operations ih => exact (operation.2.advances cursor).passed.trans (ih _)

/-- Whatever is done with a cursor in a text, and whether it succeeds or fails, the cursor stays
within the tokens, never goes back, and never moves over the end of the text; peeks see one of the
tokens and change nothing, and neither does an expectation that is not met; and what succeeds moves
over a least number of tokens. -/
theorem Cursor.performed_ofText {source : List Char} {start : Cursor}
    (built : Cursor.ofText source = .ok start) (earlier later : List (Σ α, Operation α)) :
    let before := start.performed earlier
    let after := before.performed later
    after.source = source ∧ after.tokens = start.tokens ∧ before.index ≤ after.index ∧
      after.index < start.tokens.length ∧
      (∀ token ∈ start.tokens.take after.index, token.kind ≠ .finish) ∧
      (∀ offset, after.peek offset ∈ start.tokens) ∧
      ∀ (α : Type) (operation : Operation α),
        (operation.isPeek → (operation.reading.run after).2 = after) ∧
        (operation.isExpectation → ∀ fault, (operation.reading.run after).1 = .error fault →
          (operation.reading.run after).2 = after) ∧
        ∀ value, (operation.reading.run after).1 = .ok value →
          after.index + operation.least ≤ (operation.reading.run after).2.index := by
  unfold Cursor.ofText at built
  split at built
  · next tokens scanned =>
    cases built
    let start : Cursor := ⟨source, tokens, 0⟩
    have moved := start.passed_performed earlier
    have moved_on := (start.performed earlier).passed_performed later
    have passed : start.Passed ((start.performed earlier).performed later) := moved.trans moved_on
    have ended : IsEnded start.tokens := tokenize_isEnded scanned
    have some_token : start.index < start.tokens.length := by
      obtain ⟨first, rest, more⟩ := ended.exists_cons
      rw [more]
      exact Nat.zero_lt_succ _
    have within := passed.index_lt ended some_token
    intro before after
    refine ⟨passed.source, passed.tokens, moved_on.index_le, within, ?_, fun offset => ?_,
      fun α operation => ⟨fun peeks => Operation.run_of_isPeek peeks _,
        fun expects fault failed => Operation.run_of_isExpectation expects failed,
        fun value succeeds => (operation.advances after).index_le succeeds⟩⟩
    · intro token member
      obtain ⟨place, there⟩ := List.mem_iff_getElem?.mp member
      rw [List.getElem?_take] at there
      split at there
      · next ahead => exact passed.significant place (Nat.zero_le _) ahead token there
      · cases there
    · have same : after.tokens = start.tokens := passed.tokens
      exact same ▸ Cursor.peek_mem (same ▸ some_token) offset
  · cases built

theorem Cursor.performed_ofText_failing :
    ∃ start, Cursor.ofText "a, =>".toList = .ok start ∧
      let middle := start.performed [⟨_, .expectOp "," .struct .colon⟩, ⟨_, .next⟩]
      let after := middle.performed [⟨_, .takeExpression true .struct⟩,
        ⟨_, .expectOp "," .struct .colon⟩, ⟨_, .expectArrow .struct .colon⟩, ⟨_, .next⟩]
      middle.index = 1 ∧ after.index = 4 ∧ start.tokens.length = 5 ∧
        (∀ token ∈ start.tokens.take after.index, token.kind ≠ .finish) ∧
        ∀ offset, after.peek offset ∈ start.tokens := by
  obtain ⟨start, built, middle, after, count⟩ : ∃ start, Cursor.ofText "a, =>".toList = .ok start ∧
      let middle := start.performed [⟨_, .expectOp "," .struct .colon⟩, ⟨_, .next⟩]
      let after := middle.performed [⟨_, .takeExpression true .struct⟩,
        ⟨_, .expectOp "," .struct .colon⟩, ⟨_, .expectArrow .struct .colon⟩, ⟨_, .next⟩]
      middle.index = 1 ∧ after.index = 4 ∧ start.tokens.length = 5 :=
    ⟨_, rfl, rfl, rfl, rfl⟩
  obtain ⟨-, -, -, -, significant, peeks, -⟩ := Cursor.performed_ofText built
    [⟨_, .expectOp "," .struct .colon⟩, ⟨_, .next⟩] [⟨_, .takeExpression true .struct⟩,
      ⟨_, .expectOp "," .struct .colon⟩, ⟨_, .expectArrow .struct .colon⟩, ⟨_, .next⟩]
  exact ⟨start, built, middle, after, count, significant, peeks⟩

end ByteRecord.Source
