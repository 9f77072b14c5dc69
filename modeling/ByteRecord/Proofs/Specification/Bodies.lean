import ByteRecord.Proofs.Specification.Fields

/-! Paths and bodies of specification texts: what is read is a phrase of the grammar, and every phrase
of the grammar is read. -/
namespace ByteRecord
open Source

theorem Phrase.IsMember.kind_ne_op (own : IsMember token member) : token.kind ≠ .op := by
  cases own with
  | none word => rw [word]; nofun
  | name word => rw [word]; nofun
  | position number => rw [number]; nofun

theorem Phrase.IsExpression.significant (own : IsExpression source arrowEnds tokens e) :
    ∀ token ∈ tokens, token.kind ≠ .finish := by
  cases own with
  | run closed => exact closed.significant

theorem Phrase.IsField.significant (own : IsField source tokens field) :
    ∀ token ∈ tokens, token.kind ≠ .finish := by
  have arrow_significant {first second : Token} (arrow : first.isArrow second) :
      first.kind ≠ .finish ∧ second.kind ≠ .finish :=
    (Token.isOp_of_spells arrow).imp Token.significant_of_isOp Token.significant_of_isOp
  cases own with
  | matched named separated own =>
    simp only [List.forall_mem_cons]
    exact ⟨named.significant, Token.significant_of_isOp separated, own.significant⟩
  | transformed named separated own arrow value =>
    simp only [List.forall_mem_cons, List.forall_mem_append]
    obtain ⟨one, two⟩ := arrow_significant arrow
    exact ⟨named.significant, Token.significant_of_isOp separated, own.significant, one, two,
      value.significant⟩
  | bound named separated word free binds own arrow value =>
    simp only [List.forall_mem_cons, List.forall_mem_append]
    obtain ⟨one, two⟩ := arrow_significant arrow
    exact ⟨named.significant, Token.significant_of_isOp separated, by rw [word]; nofun,
      Token.significant_of_isOp binds, own.significant, one, two, value.significant⟩

theorem Phrase.IsField.exists_cons (own : IsField source tokens field) :
    ∃ first rest, tokens = first :: rest ∧ first.kind ≠ .op := by
  cases own with
  | matched named => exact ⟨_, _, rfl, named.kind_ne_op⟩
  | transformed named => exact ⟨_, _, rfl, named.kind_ne_op⟩
  | bound named => exact ⟨_, _, rfl, named.kind_ne_op⟩

theorem Phrase.IsPath.exists_cons (own : IsPath tokens names) :
    ∃ first rest others, tokens = first :: rest ∧ first.kind = .name ∧
      names = first.text :: others := by
  cases own with
  | name word => exact ⟨_, _, _, rfl, word, rfl⟩
  | dotted word => exact ⟨_, _, _, rfl, word, rfl⟩

theorem Phrase.IsPath.significant (own : IsPath tokens names) :
    ∀ token ∈ tokens, token.kind ≠ .finish := by
  induction own with
  | name word => simp [word]
  | dotted word dot _ ih =>
    simp only [List.forall_mem_cons]
    exact ⟨by rw [word]; nofun, Token.significant_of_isOp dot, ih⟩

theorem Phrase.IsBody.significant {rest : Option Expression} (own : IsBody source tokens fields rest) :
    ∀ token ∈ tokens, token.kind ≠ .finish := by
  induction own with
  | empty => exact nofun
  | rest dots value =>
    simp only [List.forall_mem_cons]
    obtain ⟨one, two⟩ := Token.isOp_of_spells dots
    exact ⟨Token.significant_of_isOp one, Token.significant_of_isOp two, value.significant⟩
  | last own => exact own.significant
  | field own separated _ ih =>
    simp only [List.forall_mem_append, List.forall_mem_cons]
    exact ⟨own.significant, Token.significant_of_isOp separated, ih⟩

namespace Plan
variable {cursor after : Cursor} {fields : List Field} {rest : Option Expression}

theorem not_isOp_of_kind {token : Token} (other : token.kind ≠ .op) : token.isOp op = false := by
  rw [← Bool.not_eq_true]
  exact fun own => other (Token.kind_of_isOp own)

theorem not_isOp_of_isOp {token : Token} (own : token.isOp op) (different : op ≠ other) :
    token.isOp other = false := by
  rw [← Bool.not_eq_true]
  exact fun also => different ((Token.text_of_isOp own).symm.trans (Token.text_of_isOp also))

theorem not_spells_of_isOp {first second : Token} (no_op : first.isOp a = false) :
    first.spells second a b = false := by
  rw [Token.spells, no_op, Bool.false_and, Bool.false_and]

/-- The names of a path behind the first are read up to what is no dot. -/
theorem run_readPathFrom_of_path (own : Phrase.IsPath (first :: tokens) (first.text :: names))
    (faces : cursor.Faces (tokens ++ stop :: later)) (stops : stop.isOp "." = false)
    (enough : tokens.length < fuel) :
    (readPathFrom fuel).run cursor = (.ok names, cursor.moved tokens.length) := by
  induction fuel generalizing first tokens names cursor with
  | zero => exact absurd enough (Nat.not_lt_zero _)
  | succ fuel ih =>
    rw [readPathFrom, Reading.run_get_bind]
    cases own with
    | name word =>
      have faces : cursor.Faces (stop :: later) := faces
      rw [faces.atOp, stops]
      rfl
    | dotted word dot further =>
      obtain ⟨second, others, more, rfl, word', rfl⟩ := further.exists_cons
      simp only [List.cons_append] at faces
      have at_name := faces.next (Token.significant_of_isOp dot)
      have significant : second.kind ≠ .finish := by rw [word']; nofun
      rw [faces.atOp, dot, if_pos rfl, run_bind,
        Reading.run_next faces (Token.significant_of_isOp dot)]
      dsimp only
      rw [Reading.run_get_bind, at_name.atName, word', beq_self_eq_true, if_pos rfl, run_bind,
        Reading.run_next at_name significant]
      dsimp only
      simp only [List.length_cons] at enough
      rw [run_bind, ih further (at_name.next significant) (by omega)]
      rw [Cursor.moved_length_cons, Cursor.moved_length_cons]
      rfl

theorem of_run_readPathFrom (faces : cursor.Faces ahead)
    (result : (readPathFrom fuel).run cursor = (.ok names, after)) (first : Token)
    (word : first.kind = .name) :
    ∃ tokens later, ahead = tokens ++ later ∧ after = cursor.moved tokens.length ∧
      after.Faces later ∧ Phrase.IsPath (first :: tokens) (first.text :: names) := by
  induction fuel generalizing cursor ahead names first with
  | zero =>
    cases result
    exact ⟨[], ahead, rfl, rfl, faces, .name word⟩
  | succ fuel ih =>
    obtain ⟨point, behind, rfl⟩ := faces.ended.exists_cons
    rw [readPathFrom, Reading.run_get_bind, faces.atOp] at result
    cases dot : point.isOp "." with
    | false =>
      rw [dot, if_neg Bool.false_ne_true] at result
      cases result
      exact ⟨[], _, rfl, rfl, faces, .name word⟩
    | true =>
      have at_name := faces.next (Token.significant_of_isOp dot)
      obtain ⟨second, behind, rfl⟩ := at_name.ended.exists_cons
      rw [dot, if_pos rfl, run_bind, Reading.run_next faces (Token.significant_of_isOp dot)]
        at result
      dsimp only at result
      rw [Reading.run_get_bind, at_name.atName] at result
      by_cases word' : second.kind = .name
      · have significant : second.kind ≠ .finish := by rw [word']; nofun
        rw [word', beq_self_eq_true, if_pos rfl, run_bind, Reading.run_next at_name significant]
          at result
        dsimp only at result
        rw [run_bind_ok_iff] at result
        obtain ⟨others, middle, further, result⟩ := result
        cases result
        obtain ⟨tokens, later, rfl, rfl, left, path⟩ :=
          ih (at_name.next significant) further second word'
        refine ⟨point :: second :: tokens, later, rfl, ?_, left, .dotted word dot path⟩
        rw [Cursor.moved_length_cons, Cursor.moved_length_cons]
      · rw [if_neg (by simpa using word')] at result
        cases result

theorem run_readPath_of_path (own : Phrase.IsPath tokens names)
    (faces : cursor.Faces (tokens ++ stop :: later)) (stops : stop.isOp "." = false) :
    readPath.run cursor = (.ok names, cursor.moved tokens.length) := by
  obtain ⟨first, rest, others, rfl, word, rfl⟩ := own.exists_cons
  simp only [List.cons_append] at faces
  have significant : first.kind ≠ .finish := by rw [word]; nofun
  have within := faces.index_lt
  rw [List.length_append, List.length_cons] at within
  rw [readPath, Reading.run_get_bind, faces.atName, word, beq_self_eq_true, if_pos rfl, run_bind,
    Reading.run_next faces significant]
  dsimp only
  rw [run_bind, run_readPathFrom_of_path own (faces.next significant) stops (by omega),
    Cursor.moved_length_cons]
  rfl

theorem of_run_readPath (faces : cursor.Faces ahead)
    (result : readPath.run cursor = (.ok names, after)) :
    ∃ tokens later, ahead = tokens ++ later ∧ after = cursor.moved tokens.length ∧
      after.Faces later ∧ Phrase.IsPath tokens names := by
  obtain ⟨first, behind, rfl⟩ := faces.ended.exists_cons
  rw [readPath, Reading.run_get_bind, faces.atName] at result
  by_cases word : first.kind = .name
  · have significant : first.kind ≠ .finish := by rw [word]; nofun
    rw [word, beq_self_eq_true, if_pos rfl, run_bind, Reading.run_next faces significant] at result
    dsimp only at result
    rw [run_bind_ok_iff] at result
    obtain ⟨others, middle, further, result⟩ := result
    cases result
    obtain ⟨tokens, later, rfl, rfl, left, path⟩ :=
      of_run_readPathFrom (faces.next significant) further first word
    exact ⟨first :: tokens, later, rfl, by rw [Cursor.moved_length_cons], left, path⟩
  · rw [if_neg (by simpa using word)] at result
    cases result

theorem run_readBody_rest (faces : cursor.Faces (first :: second :: ahead))
    (dots : first.spells second "." ".") :
    (readBody (fuel + 1)).run cursor = (do
      return ([], some (← Reading.takeCompiled false .struct)) :
        Reading (List Field × Option Expression)).run (cursor.moved 2) := by
  have no_brace : first.isOp "\x7d" = false :=
    not_isOp_of_isOp (Token.isOp_of_spells dots).1 (by decide)
  rw [readBody, Reading.run_get_bind, faces.atOp, no_brace, if_neg Bool.false_ne_true, faces.atRest,
    List.headD_cons, dots, if_pos rfl, run_bind, Reading.run_skip]

theorem run_readBody_field (faces : cursor.Faces (first :: ahead))
    (no_brace : first.isOp "\x7d" = false)
    (no_rest : first.spells (ahead.headD first) "." "." = false) :
    (readBody (fuel + 1)).run cursor = (do
      let field ← Field.read
      if (← get).atOp "\x7d" then return ([field], none)
      else
        let _ ← Reading.expectOp "," .field .separator
        let (fields, rest) ← readBody fuel
        return (field :: fields, rest) : Reading (List Field × Option Expression)).run cursor := by
  rw [readBody, Reading.run_get_bind, faces.atOp, no_brace, if_neg Bool.false_ne_true, faces.atRest,
    no_rest, if_neg Bool.false_ne_true]

theorem run_readBody_of_body (faces : cursor.Faces (tokens ++ brace :: later))
    (own : Phrase.IsBody cursor.source tokens fields rest) (closing : brace.isOp "\x7d")
    (enough : tokens.length < fuel) :
    (readBody fuel).run cursor = (.ok (fields, rest), cursor.moved tokens.length) := by
  induction fuel generalizing cursor tokens fields with
  | zero => exact absurd enough (Nat.not_lt_zero _)
  | succ fuel ih =>
    cases own with
    | empty =>
      have faces : cursor.Faces (brace :: later) := faces
      rw [readBody, Reading.run_get_bind, faces.atOp, closing]
      rfl
    | rest dots value =>
      have stops : Stops false (brace :: later) := Field.Ends.stops (.inr closing)
      have taken :=
        Reading.takeCompiled_of_expression (faces.behind_spelt dots).2 value stops .struct
      rw [run_readBody_rest faces dots, run_bind, taken, Cursor.moved_length_cons,
        Cursor.moved_length_cons]
      rfl
    | last own =>
      obtain ⟨first, others, rfl, no_op⟩ := own.exists_cons
      have field_read := Field.run_read_of_field faces own (.inr closing)
      have left := faces.moved own.significant
      rw [run_readBody_field faces (not_isOp_of_kind no_op)
        (not_spells_of_isOp (not_isOp_of_kind no_op)), run_bind, field_read]
      dsimp only
      rw [Reading.run_get_bind, left.atOp, closing]
      rfl
    | field own separated more =>
      obtain ⟨first, others, rfl, no_op⟩ := own.exists_cons
      simp only [List.append_assoc, List.cons_append] at faces
      have field_read := Field.run_read_of_field faces own (.inl separated)
      have left := faces.moved own.significant
      have no_brace : _ = false := not_isOp_of_isOp separated (show "," ≠ "\x7d" by decide)
      have mark := Reading.run_expectOp left separated .field .separator
      have further := left.next (Token.significant_of_isOp separated)
      rw [run_readBody_field faces (not_isOp_of_kind no_op)
        (not_spells_of_isOp (not_isOp_of_kind no_op)), run_bind, field_read]
      dsimp only
      rw [Reading.run_get_bind, left.atOp, no_brace, if_neg Bool.false_ne_true, run_bind, mark]
      dsimp only
      simp only [List.length_append, List.length_cons] at enough
      refine run_bind_ok_iff.mpr ⟨_, _, ih further more (by omega), ?_⟩
      simp only [Cursor.moved_length_append, Cursor.moved_length_cons]
      rfl

/-- What is read as a body is one, unless it is all that is left. -/
theorem of_run_readBody (faces : cursor.Faces ahead) (enough : ahead.length < fuel)
    (result : (readBody fuel).run cursor = (.ok (fields, rest), after)) :
    ∃ tokens stop later, ahead = tokens ++ stop :: later ∧ after = cursor.moved tokens.length ∧
      after.Faces (stop :: later) ∧
      (stop.kind ≠ .finish → Phrase.IsBody cursor.source tokens fields rest) := by
  induction fuel generalizing cursor ahead fields with
  | zero => exact absurd enough (Nat.not_lt_zero _)
  | succ fuel ih =>
    obtain ⟨first, behind, rfl⟩ := faces.ended.exists_cons
    cases brace : first.isOp "\x7d" with
    | true =>
      rw [readBody, Reading.run_get_bind, faces.atOp, brace, if_pos rfl] at result
      cases result
      exact ⟨[], first, behind, rfl, rfl, faces, fun _ => .empty⟩
    | false =>
      cases dots : first.spells (behind.headD first) "." "." with
      | true =>
        obtain ⟨second, behind, rfl, dots, -⟩ := faces.ended.exists_of_spells dots
        rw [run_readBody_rest faces dots, run_bind_ok_iff] at result
        obtain ⟨e, middle, taken, result⟩ := result
        cases result
        obtain ⟨run, stop, later, rfl, rfl, left, own⟩ :=
          Reading.of_takeCompiled (faces.behind_spelt dots).2 taken
        refine ⟨first :: second :: run, stop, later, rfl, ?_, left,
          fun further => .rest dots (own further).1⟩
        rw [Cursor.moved_length_cons, Cursor.moved_length_cons]
        rfl
      | false =>
        rw [run_readBody_field faces brace dots, run_bind_ok_iff] at result
        obtain ⟨field, middle, field_read, result⟩ := result
        obtain ⟨tokens, stop, later, parts, rfl, left, own⟩ := Field.of_run_read faces field_read
        rw [Reading.run_get_bind, left.atOp] at result
        cases closing : stop.isOp "\x7d" with
        | true =>
          rw [closing, if_pos rfl] at result
          cases result
          exact ⟨tokens, stop, later, parts, rfl, left, fun further => .last (own further)⟩
        | false =>
          rw [closing, if_neg Bool.false_ne_true, run_bind_ok_iff] at result
          obtain ⟨mark, _, marked, result⟩ := result
          obtain ⟨separated, -, rfl⟩ := (Reading.expectOp_ok_iff left).mp marked
          rw [run_bind_ok_iff] at result
          obtain ⟨⟨others, _⟩, _, more_read, result⟩ := result
          cases result
          have significant := Token.significant_of_isOp separated
          have shorter : later.length < fuel := by
            have count := congrArg List.length parts
            simp only [List.length_cons, List.length_append] at count enough
            omega
          obtain ⟨more, last, later, rfl, rfl, left, body⟩ :=
            ih (left.next significant) shorter more_read
          refine ⟨tokens ++ stop :: more, last, later, by rw [parts]; simp, ?_, left,
            fun further => .field (own significant) separated (body further)⟩
          rw [Cursor.moved_length_append, Cursor.moved_length_cons]

end Plan
end ByteRecord
