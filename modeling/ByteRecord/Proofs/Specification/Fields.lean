import ByteRecord.Proofs.Specification.Patterns

/-! Fields in specification texts: what is read is a field of the grammar, and every field of the
grammar is read. -/
namespace ByteRecord
open Source

theorem Phrase.IsElement.isRange_eq_false (own : IsElement location element matcher) :
    matcher.isRange = false := by
  cases own <;> rfl

theorem Phrase.IsPattern.hasRanges_eq_false (own : IsPattern source tokens pattern) :
    pattern.hasRanges = false := by
  rw [Pattern.hasRanges, List.any_eq_false]
  intro matcher present
  rw [Bool.not_eq_true]
  cases own with
  | hex _ _ _ _ fixed =>
    obtain ⟨piece, own, rfl⟩ := List.mem_map.mp present
    cases piece with
    | openRange => exact absurd own fixed
    | _ => rfl
  | bytes =>
    obtain ⟨byte, -, rfl⟩ := List.mem_map.mp present
    rfl
  | array _ _ _ _ each =>
    obtain ⟨element, -, own⟩ := exists_of_forall₂ each present
    exact own.isRange_eq_false

theorem Phrase.IsPattern.exists_cons (own : IsPattern source tokens pattern) :
    ∃ first rest, tokens = first :: rest ∧ first.kind ≠ .name := by
  cases own with
  | hex literal => exact ⟨_, _, rfl, by rw [literal]; nofun⟩
  | bytes literal => exact ⟨_, _, rfl, by rw [literal]; nofun⟩
  | array opening => exact ⟨_, _, rfl, by rw [Token.kind_of_isOp opening]; nofun⟩

theorem Phrase.IsPattern.significant (own : IsPattern source tokens pattern) :
    ∀ token ∈ tokens, token.kind ≠ .finish := by
  cases own with
  | hex literal => simp [literal]
  | bytes literal => simp [literal]
  | array _ closed => exact closed.significant

theorem Phrase.IsMember.significant (own : IsMember token member) : token.kind ≠ .finish := by
  cases own with
  | none word => rw [word]; nofun
  | name word => rw [word]; nofun
  | position number => rw [number]; nofun

namespace Field
variable {cursor after : Cursor} {value given : Value} {member : Option Member} {pattern : Pattern}

theorem run_readMember_name (faces : cursor.Faces (token :: rest)) (word : token.kind = .name) :
    readMember.run cursor =
      (.ok (if token.text == "_" then .none else .str token.text), cursor.moved 1) := by
  have further : token.kind ≠ .finish := by rw [word]; nofun
  rw [readMember, Reading.run_get_bind]
  simp only [faces.current, word, beq_self_eq_true, if_true]
  rw [run_bind, Reading.run_next faces further]
  rfl

/-- Digits are a position, unless there are too many of them. -/
theorem run_readMember_number (faces : cursor.Faces (token :: rest))
    (number : token.kind = .number) (digits : ∀ c ∈ token.text.toList, Text.isAsciiDigit c) :
    readMember.run cursor = (match Number.readInt? token.text.toList with
      | some position => .ok (.int position)
      | none => .error (.failure .value), cursor.moved 1) := by
  have further : token.kind ≠ .finish := by rw [number]; nofun
  have no_word : (TokenKind.number == .name) = false := rfl
  have all : token.text.toList.all Text.isAsciiDigit = true := List.all_eq_true.mpr digits
  rw [readMember, Reading.run_get_bind]
  simp only [faces.current, number, no_word, beq_self_eq_true, all, Bool.and_self,
    Bool.false_eq_true, if_false, if_true]
  rw [run_bind, Reading.run_next faces further]
  dsimp only
  cases Number.readInt? token.text.toList <;> rfl

/-- Too many digits are no position, and no error of a specification either. -/
theorem run_readMember_overlong (faces : cursor.Faces (token :: rest))
    (number : token.kind = .number) (digits : ∀ c ∈ token.text.toList, Text.isAsciiDigit c)
    (long : Number.maxDecimalDigits < token.text.toList.length) :
    readMember.run cursor = (.error (.failure .value), cursor.moved 1) := by
  have some_digit : token.text.toList ≠ [] := by
    rintro empty
    rw [empty] at long
    exact absurd long (Nat.not_lt_zero _)
  rw [run_readMember_number faces number digits, Number.readInt?_digits some_digit digits,
    if_neg (Nat.not_le.mpr long)]

theorem of_run_readMember (faces : cursor.Faces (token :: rest))
    (result : readMember.run cursor = (.ok value, after)) (denoted : IsMemberOf value member) :
    Phrase.IsMember token member ∧ after = cursor.moved 1 := by
  by_cases word : token.kind = .name
  · rw [run_readMember_name faces word] at result
    obtain ⟨same, rfl⟩ := Prod.mk.inj result
    refine ⟨?_, rfl⟩
    by_cases blank : token.text = "_"
    · rw [if_pos (by simpa using blank)] at same
      cases same
      cases denoted
      exact .none word blank
    · rw [if_neg (by simpa using blank)] at same
      cases same
      cases denoted with
      | name free => exact .name word blank free
  · by_cases numeral : token.kind = .number ∧ ∀ c ∈ token.text.toList, Text.isAsciiDigit c
    · obtain ⟨number, digits⟩ := numeral
      rw [run_readMember_number faces number digits] at result
      obtain ⟨same, rfl⟩ := Prod.mk.inj result
      refine ⟨?_, rfl⟩
      by_cases empty : token.text.toList = []
      · rw [empty] at same
        cases same
      · rw [Number.readInt?_digits empty digits] at same
        split at same
        · next position found =>
          split at found
          · next short =>
            cases found
            cases same
            cases denoted with
            | position => exact .position number empty digits short
          · cases found
        · cases same
    · have other : (token.kind == .number && token.text.toList.all Text.isAsciiDigit) = false := by
        simpa using numeral
      have no_word : (token.kind == .name) = false := by simpa using word
      rw [readMember, Reading.run_get_bind] at result
      simp only [faces.current, no_word, other, Bool.false_eq_true, if_false, Reading.run_fail]
        at result
      cases result

theorem run_readMember_of_member (faces : cursor.Faces (token :: rest))
    (own : Phrase.IsMember token member) :
    ∃ value, IsMemberOf value member ∧ readMember.run cursor = (.ok value, cursor.moved 1) := by
  cases own with
  | none word blank =>
    rw [run_readMember_name faces word, if_pos (by simpa using blank)]
    exact ⟨_, .none, rfl⟩
  | name word other free =>
    rw [run_readMember_name faces word, if_neg (by simpa using other)]
    exact ⟨_, .name free, rfl⟩
  | position number some_digit digits short =>
    rw [run_readMember_number faces number digits, Number.readInt?_digits some_digit digits,
      if_pos short]
    exact ⟨_, .position _, rfl⟩

theorem run_requireMember (own : value ≠ .none) :
    (requireMember value).run cursor = (.ok (), cursor) := by
  unfold requireMember
  split
  · exact absurd rfl own
  · rfl

theorem of_run_requireMember (result : (requireMember value).run cursor = (.ok (), after)) :
    value ≠ .none ∧ after = cursor := by
  by_cases none : value = .none
  · subst none
    cases result
  · rw [run_requireMember none] at result
    cases result
    exact ⟨none, rfl⟩

theorem run_readBinding_absent (faces : cursor.Faces (token :: rest)) (other : token.kind ≠ .name) :
    (readBinding value).run cursor = (.ok .none, cursor) := by
  have no_name : (token.kind == .name) = false := by simpa using other
  rw [readBinding, Reading.run_get_bind, faces.atName, no_name]
  rfl

/-- Before a pattern there is no binding. -/
theorem run_readBinding_of_pattern (faces : cursor.Faces (tokens ++ rest))
    (own : Phrase.IsPattern source tokens pattern) :
    (readBinding value).run cursor = (.ok .none, cursor) := by
  obtain ⟨first, others, rfl, no_name⟩ := own.exists_cons
  exact run_readBinding_absent faces no_name

/-- Before `@` a name is a binding, if there is a member. -/
theorem run_readBinding_name (faces : cursor.Faces (token :: sign :: rest))
    (word : token.kind = .name) (binds : sign.isOp "@") :
    (readBinding value).run cursor = (do
      requireMember value
      let _ ← Reading.skip 2
      return .str token.text : Reading Value).run cursor := by
  have further : token.kind ≠ .finish := by rw [word]; nofun
  have is_name : (token.kind == .name) = true := by simpa using word
  have both : (do
      let name ← Reading.next
      let _ ← Reading.next
      return .str name.text : Reading Value).run cursor =
        (.ok (.str token.text), cursor.moved 2) := by
    rw [run_bind, Reading.run_next faces further]
    dsimp only
    rw [run_bind, Reading.run_next (faces.next further) (Token.significant_of_isOp binds)]
    rfl
  rw [readBinding, Reading.run_get_bind, faces.atName, faces.peek_one, is_name]
  simp only [Bool.not_true, Bool.false_eq_true, if_false, List.headD_cons, binds]
  rw [run_bind, run_bind]
  by_cases own : value = .none
  · subst own
    rfl
  · rw [run_requireMember own]
    exact both

theorem run_readBinding_of_name (faces : cursor.Faces (token :: sign :: rest))
    (word : token.kind = .name) (binds : sign.isOp "@") (own : value ≠ .none) :
    (readBinding value).run cursor = (.ok (.str token.text), cursor.moved 2) := by
  rw [run_readBinding_name faces word binds, run_bind, run_requireMember own]
  rfl

/-- What is read as a binding is a name before `@`, or there is none and no name. -/
theorem of_run_readBinding (faces : cursor.Faces (token :: rest))
    (result : (readBinding value).run cursor = (.ok given, after)) :
    (token.kind ≠ .name ∧ given = .none ∧ after = cursor) ∨
      ∃ sign later, rest = sign :: later ∧ token.kind = .name ∧ sign.isOp "@" ∧ value ≠ .none ∧
        given = .str token.text ∧ after = cursor.moved 2 := by
  by_cases word : token.kind = .name
  · have further : token.kind ≠ .finish := by rw [word]; nofun
    obtain ⟨sign, later, rfl⟩ := (faces.ended.tail further).exists_cons
    by_cases binds : sign.isOp "@"
    · rw [run_readBinding_name faces word binds, run_bind_ok_iff] at result
      obtain ⟨_, middle, required, result⟩ := result
      obtain ⟨own, rfl⟩ := of_run_requireMember required
      cases result
      exact .inr ⟨sign, later, rfl, word, binds, own, rfl, rfl⟩
    · have is_name : (token.kind == .name) = true := by simpa using word
      rw [Bool.not_eq_true] at binds
      rw [readBinding, Reading.run_get_bind, faces.atName, faces.peek_one, is_name] at result
      simp only [Bool.not_true, Bool.false_eq_true, if_false, List.headD_cons, binds, Bool.not_false,
        if_true, Reading.run_fail] at result
      cases result
  · rw [run_readBinding_absent faces word] at result
    cases result
    exact .inl ⟨word, rfl, rfl⟩

/-- Where no binding and no arrow is, there is no transform. -/
theorem run_readTransform_absent (faces : cursor.Faces (token :: rest))
    (plain : token.isArrow (rest.headD token) = false) :
    (readTransform value .none).run cursor = (.ok none, cursor) := by
  rw [readTransform]
  simp only [Bool.false_or]
  rw [Reading.run_get_bind, faces.atArrow, plain]
  rfl

/-- Behind an arrow the transform of a member is an expression. -/
theorem run_readTransform_arrow (faces : cursor.Faces (first :: second :: rest))
    (arrow : first.isArrow second) (own : value ≠ .none) :
    (readTransform value given).run cursor = (do
      return some (.expression (← Reading.takeCompiled false .field)) :
        Reading (Option Transform)).run (cursor.moved 2) := by
  have past := Reading.run_expectArrow faces arrow .field .arrowAndExpression
  unfold readTransform
  extract_lets isBound
  rw [Reading.run_get_bind, faces.atArrow, List.headD_cons, arrow, Bool.or_true, if_pos rfl,
    run_bind, run_requireMember own]
  dsimp only
  rw [run_bind, past]

/-- An expression behind an arrow is read as the transform of a member. -/
theorem run_readTransform_of_arrow (faces : cursor.Faces (first :: second :: (run ++ rest)))
    (arrow : first.isArrow second) (own : value ≠ .none)
    (compiled : Phrase.IsExpression cursor.source false run e) (stops : Stops false rest) :
    (readTransform value given).run cursor =
      (.ok (some (.expression e)), (cursor.moved 2).moved run.length) := by
  have taken := Reading.takeCompiled_of_expression (faces.behind_spelt arrow).2 compiled stops .field
  rw [run_readTransform_arrow faces arrow own]
  exact run_bind_ok_iff.mpr ⟨e, _, taken, rfl⟩

/-- What is read as a transform is an expression behind an arrow, or there is neither an arrow nor a
binding. -/
theorem of_run_readTransform {transform : Option Transform} (faces : cursor.Faces (token :: rest))
    (result : (readTransform value given).run cursor = (.ok transform, after)) :
    (given = .none ∧ token.isArrow (rest.headD token) = false ∧ transform = none ∧ after = cursor) ∨
      ∃ second later e, rest = second :: later ∧ token.isArrow second ∧ value ≠ .none ∧
        (Reading.takeCompiled false .field).run (cursor.moved 2) = (.ok e, after) ∧
        transform = some (.expression e) := by
  cases arrow : token.isArrow (rest.headD token) with
  | true =>
    obtain ⟨second, later, rfl, arrow, -⟩ := faces.ended.exists_of_spells arrow
    by_cases own : value = .none
    · subst own
      unfold readTransform at result
      extract_lets isBound at result
      rw [Reading.run_get_bind, faces.atArrow, List.headD_cons,
        show token.isArrow second = true from arrow, Bool.or_true, if_pos rfl] at result
      cases result
    · rw [run_readTransform_arrow faces arrow own, run_bind_ok_iff] at result
      obtain ⟨e, middle, taken, result⟩ := result
      cases result
      exact .inr ⟨second, later, e, rfl, arrow, own, taken, rfl⟩
  | false =>
    by_cases bound : given = .none
    · subst bound
      rw [run_readTransform_absent faces arrow] at result
      cases result
      exact .inl ⟨rfl, rfl, rfl, rfl⟩
    · unfold readTransform at result
      extract_lets isBound at result
      have expected : isBound = true := by
        cases given <;> first | rfl | exact absurd rfl bound
      rw [Reading.run_get_bind, expected, Bool.true_or, if_pos rfl, run_bind_ok_iff] at result
      obtain ⟨_, middle, required, result⟩ := result
      obtain ⟨own, rfl⟩ := of_run_requireMember required
      rw [run_bind_ok_iff] at result
      obtain ⟨_, later, past, -⟩ := result
      have contra := (Reading.of_run_expectArrow faces past).1
      rw [arrow] at contra
      cases contra

theorem run_read_ok_iff {field : Field} :
    read.run cursor = (.ok field, after) ↔
      ∃ value behind_member, readMember.run cursor = (.ok value, behind_member) ∧
      ∃ mark behind_colon,
        (Reading.expectOp ":" .field .colon).run behind_member = (.ok mark, behind_colon) ∧
      ∃ given behind_binding, (readBinding value).run behind_colon = (.ok given, behind_binding) ∧
      ∃ pattern behind_pattern, Pattern.read.run behind_binding = (.ok pattern, behind_pattern) ∧
      ∃ transform, (readTransform value given).run behind_pattern = (.ok transform, after) ∧
        ofParts value pattern given transform (some cursor.location) = .ok field := by
  rw [read, Reading.run_get_bind]
  simp only [run_bind_ok_iff, run_lift]
  grind

/-- What ends a field. -/
def Ends (stop : Token) : Prop :=
  stop.isOp "," ∨ stop.isOp "\x7d"

theorem Ends.stops (ends : Ends stop) : Stops arrowEnds (stop :: rest) := by
  refine .inr ?_
  rw [endsExpression_eq]
  rcases ends with comma | brace
  · rw [comma]
    rfl
  · have closing : stop.isClosing = true := by
      rw [Token.isClosing, Token.kind_of_isOp brace, Token.text_of_isOp brace]
      decide
    rw [closing]
    simp

theorem Ends.not_isArrow (ends : Ends stop) (next : Token) : stop.isArrow next = false := by
  rw [← Bool.not_eq_true]
  intro arrow
  simp only [Token.isArrow, Token.spells, Bool.and_eq_true] at arrow
  have half := Token.text_of_isOp arrow.1.1
  rcases ends with comma | brace
  · exact absurd (half.symm.trans (Token.text_of_isOp comma)) (by decide)
  · exact absurd (half.symm.trans (Token.text_of_isOp brace)) (by decide)

theorem run_read_behind_colon {field : Field} (faces : cursor.Faces (name :: colon :: ahead))
    (separated : colon.isOp ":") (first : readMember.run cursor = (.ok value, cursor.moved 1))
    (significant : name.kind ≠ .finish)
    (binding : (readBinding value).run (cursor.moved 2) = (.ok given, behind))
    (own : Pattern.read.run behind = (.ok pattern, later))
    (transform : (readTransform value given).run later = (.ok made, after))
    (parts : ofParts value pattern given made (some name.start) = .ok field) :
    read.run cursor = (.ok field, after) := by
  have mark := Reading.run_expectOp (faces.next significant) separated .field .colon
  have place : cursor.location = name.start := by rw [Cursor.location, faces.current]
  rw [Cursor.moved_moved] at mark
  exact run_read_ok_iff.mpr ⟨value, _, first, colon, _, mark, given, _, binding, pattern, _, own,
    made, transform, by rwa [place]⟩

theorem run_read_of_field {field : Field} (faces : cursor.Faces (tokens ++ stop :: rest))
    (own : Phrase.IsField cursor.source tokens field) (ends : Ends stop) :
    read.run cursor = (.ok field, cursor.moved tokens.length) := by
  cases own with
  | matched named separated own =>
    simp only [List.cons_append] at faces
    obtain ⟨value, denoted, member_read⟩ := run_readMember_of_member faces named
    have behind := (faces.next named.significant).next (Token.significant_of_isOp separated)
    have left := behind.moved own.significant
    rw [Cursor.moved_length_cons, Cursor.moved_length_cons]
    exact run_read_behind_colon faces separated member_read named.significant
      (run_readBinding_of_pattern behind own) (Pattern.run_read_of_pattern behind own ends.stops)
      (run_readTransform_absent left (ends.not_isArrow _))
      (ofParts_ok_iff.mpr ⟨own.hasRanges_eq_false, _, _, denoted, .none, fun _ => ⟨rfl, rfl⟩,
        nofun, rfl⟩)
  | transformed named separated own arrow compiled =>
    simp only [List.cons_append, List.append_assoc] at faces
    obtain ⟨value, denoted, member_read⟩ := run_readMember_of_member faces named
    have owned : value ≠ .none := by cases denoted <;> nofun
    have behind := (faces.next named.significant).next (Token.significant_of_isOp separated)
    have left := behind.moved own.significant
    rw [Cursor.moved_length_cons, Cursor.moved_length_cons, Cursor.moved_length_append,
      Cursor.moved_length_cons, Cursor.moved_length_cons]
    exact run_read_behind_colon faces separated member_read named.significant
      (run_readBinding_of_pattern behind own)
      (Pattern.run_read_of_pattern behind own (.of_isArrow arrow))
      (run_readTransform_of_arrow left arrow owned compiled ends.stops)
      (ofParts_ok_iff.mpr ⟨own.hasRanges_eq_false, _, _, denoted, .none, nofun, nofun, rfl⟩)
  | bound named separated word free binds own arrow compiled =>
    simp only [List.cons_append, List.append_assoc] at faces
    obtain ⟨value, denoted, member_read⟩ := run_readMember_of_member faces named
    have owned : value ≠ .none := by cases denoted <;> nofun
    have behind := (faces.next named.significant).next (Token.significant_of_isOp separated)
    have binding := run_readBinding_of_name behind word binds owned
    have further := (behind.next (by rw [word]; nofun)).next (Token.significant_of_isOp binds)
    have left := further.moved own.significant
    rw [Cursor.moved_length_cons, Cursor.moved_length_cons, Cursor.moved_length_cons,
      Cursor.moved_length_cons, Cursor.moved_length_append, Cursor.moved_length_cons,
      Cursor.moved_length_cons]
    exact run_read_behind_colon faces separated member_read named.significant binding
      (Pattern.run_read_of_pattern further own (.of_isArrow arrow))
      (run_readTransform_of_arrow left arrow owned compiled ends.stops)
      (ofParts_ok_iff.mpr ⟨own.hasRanges_eq_false, _, _, denoted, .name free, nofun,
        fun _ => rfl, rfl⟩)

/-- What is read as a field is one, unless it is all that is left. -/
theorem of_run_read {field : Field} (faces : cursor.Faces ahead)
    (result : read.run cursor = (.ok field, after)) :
    ∃ tokens stop rest, ahead = tokens ++ stop :: rest ∧ after = cursor.moved tokens.length ∧
      after.Faces (stop :: rest) ∧
      (stop.kind ≠ .finish → Phrase.IsField cursor.source tokens field) := by
  obtain ⟨value, _, member_read, mark, _, marked, given, _, binding_read, pattern, _, pattern_read,
    transform, transform_read, parts⟩ := run_read_ok_iff.mp result
  obtain ⟨-, member, binding, denoted, bound, -, -, rfl⟩ := ofParts_ok_iff.mp parts
  obtain ⟨name, behind, rfl⟩ := faces.ended.exists_cons
  have place : cursor.location = name.start := by rw [Cursor.location, faces.current]
  obtain ⟨named, rfl⟩ := of_run_readMember faces member_read denoted
  have faces := faces.next named.significant
  obtain ⟨colon, behind, rfl⟩ := faces.ended.exists_cons
  obtain ⟨separated, -, rfl⟩ := (Reading.expectOp_ok_iff faces).mp marked
  have faces := faces.next (Token.significant_of_isOp separated)
  obtain ⟨label, behind, rfl⟩ := faces.ended.exists_cons
  have some_owner (own : value ≠ .none) : ∃ owner, member = some owner := by
    cases denoted with
    | none => exact absurd rfl own
    | _ => exact ⟨_, rfl⟩
  rw [place]
  rcases of_run_readBinding faces binding_read with ⟨-, rfl, rfl⟩ |
    ⟨sign, behind, rfl, word, binds, own, rfl, rfl⟩
  · cases bound
    obtain ⟨tokens, first, rest, ahead, rfl, faces, own_pattern⟩ :=
      Pattern.of_run_read faces pattern_read
    rcases of_run_readTransform faces transform_read with ⟨-, -, rfl, rfl⟩ |
      ⟨second, rest, e, rfl, arrow, own, compiled, rfl⟩
    · refine ⟨name :: colon :: tokens, first, rest, by rw [ahead]; rfl, ?_, faces,
        fun further => .matched named separated (own_pattern further)⟩
      rw [Cursor.moved_length_cons, Cursor.moved_length_cons]
    · obtain ⟨owner, rfl⟩ := some_owner own
      obtain ⟨significant, faces⟩ := faces.behind_spelt arrow
      obtain ⟨run, stop, rest, rfl, rfl, faces, own_expression⟩ :=
        Reading.of_takeCompiled faces compiled
      refine ⟨name :: colon :: (tokens ++ first :: second :: run), stop, rest,
        by rw [ahead]; simp, ?_, faces, fun further =>
          .transformed named separated (own_pattern significant) arrow (own_expression further).1⟩
      simp only [Cursor.moved_length_cons, Cursor.moved_length_append, Cursor.moved_moved]
  · obtain ⟨owner, rfl⟩ := some_owner own
    have faces := (faces.next (by rw [word]; nofun)).next (Token.significant_of_isOp binds)
    obtain ⟨tokens, first, rest, rfl, rfl, faces, own_pattern⟩ :=
      Pattern.of_run_read faces pattern_read
    cases bound with
    | name free =>
      rcases of_run_readTransform faces transform_read with ⟨no_binding, -, -, -⟩ |
        ⟨second, rest, e, rfl, arrow, own, compiled, rfl⟩
      · cases no_binding
      · obtain ⟨significant, faces⟩ := faces.behind_spelt arrow
        obtain ⟨run, stop, rest, rfl, rfl, faces, own_expression⟩ :=
          Reading.of_takeCompiled faces compiled
        refine ⟨name :: colon :: label :: sign :: (tokens ++ first :: second :: run), stop, rest,
          by simp, ?_, faces, fun further => .bound named separated word free binds
            (own_pattern significant) arrow (own_expression further).1⟩
        simp only [Cursor.moved_length_cons, Cursor.moved_length_append, Cursor.moved_moved]

end Field
end ByteRecord
