import ByteRecord.Proofs.Specification.Bodies

/-! Whole specifications. The reader is looked for by passing over all that might be an expression;
where there is none, that is the whole specification, so its phrases are shown to be runs. -/
namespace ByteRecord
open Source

/-- Tokens that may stand anywhere inside the brackets of a run. -/
def Source.Passes (tokens : List Token) : Prop :=
  ∀ outer rest, 0 < outer → IsRun true outer rest → IsRun true outer (tokens ++ rest)

namespace Source

theorem Passes.append (first : Passes tokens) (second : Passes more) : Passes (tokens ++ more) := by
  intro outer rest deep later
  rw [List.append_assoc]
  exact first outer _ deep (second outer rest deep later)

theorem passes_run (run : IsRun arrowEnds 0 tokens) : Passes tokens := by
  intro outer rest deep later
  have whole := run.inside deep later
  rwa [Nat.zero_add] at whole

theorem passes_token (significant : token.kind ≠ .finish)
    (flat : ∀ depth, Cursor.depthAfter token depth = depth) : Passes [token] := by
  intro outer rest deep later
  refine ⟨significant, fun zero => absurd zero (by omega), ?_⟩
  rwa [flat]

theorem depthAfter_of_kind (other : token.kind ≠ .op) (depth : Nat) :
    Cursor.depthAfter token depth = depth := by
  rw [Cursor.depthAfter, if_pos (by simpa using other)]

theorem depthAfter_of_isOp (own : token.isOp op) (opening : Lexical.isOpening op = false)
    (closing : Lexical.isClosing op = false) (depth : Nat) :
    Cursor.depthAfter token depth = depth := by
  rw [Cursor.depthAfter, Token.kind_of_isOp own, Token.text_of_isOp own, opening, closing]
  rfl

theorem Passes.cons (first : Passes [token]) (rest : Passes tokens) : Passes (token :: tokens) :=
  first.append rest

theorem passes_of_kind (significant : token.kind ≠ .finish) (other : token.kind ≠ .op) :
    Passes [token] :=
  passes_token significant (depthAfter_of_kind other)

theorem passes_of_isOp (own : token.isOp op) (opening : Lexical.isOpening op = false)
    (closing : Lexical.isClosing op = false) : Passes [token] :=
  passes_token (Token.significant_of_isOp own) (depthAfter_of_isOp own opening closing)

theorem passes_of_spells (spelt : first.spells second a b)
    (plain : Lexical.isOpening a = false ∧ Lexical.isClosing a = false ∧
      Lexical.isOpening b = false ∧ Lexical.isClosing b = false) : Passes [first, second] := by
  obtain ⟨one, two⟩ := Token.isOp_of_spells spelt
  exact (passes_of_isOp one plain.1 plain.2.1).cons (passes_of_isOp two plain.2.2.1 plain.2.2.2)

end Source

namespace Phrase

theorem IsExpression.passes (own : IsExpression source arrowEnds tokens e) : Passes tokens := by
  cases own with
  | run closed => exact passes_run closed

theorem IsPattern.passes (own : IsPattern source tokens pattern) : Passes tokens := by
  have of_literal {token : Token} (literal : token.kind = .string) : Passes [token] :=
    passes_of_kind (by rw [literal]; nofun) (by rw [literal]; nofun)
  cases own with
  | hex literal => exact of_literal literal
  | bytes literal => exact of_literal literal
  | array _ closed => exact passes_run closed

theorem IsField.passes (own : IsField source tokens field) : Passes tokens := by
  have of_member {token : Token} {member : Option Member} (named : IsMember token member) :
      Passes [token] := passes_of_kind named.significant named.kind_ne_op
  have of_colon {token : Token} (separated : token.isOp ":") : Passes [token] :=
    passes_of_isOp separated (by decide) (by decide)
  have of_arrow {first second : Token} (arrow : first.isArrow second) : Passes [first, second] :=
    passes_of_spells arrow (by decide)
  cases own with
  | matched named separated own =>
    exact (of_member named).cons ((of_colon separated).cons own.passes)
  | transformed named separated own arrow value =>
    exact (of_member named).cons ((of_colon separated).cons
      (own.passes.append ((of_arrow arrow).append value.passes)))
  | bound named separated word free binds own arrow value =>
    exact (of_member named).cons ((of_colon separated).cons
      ((passes_of_kind (by rw [word]; nofun) (by rw [word]; nofun)).cons
        ((passes_of_isOp binds (by decide) (by decide)).cons
          (own.passes.append ((of_arrow arrow).append value.passes)))))

theorem IsBody.passes {rest : Option Expression} (own : IsBody source tokens fields rest) : Passes tokens := by
  induction own with
  | empty => exact fun _ _ _ later => later
  | rest dots value => exact (passes_of_spells dots (by decide)).append value.passes
  | last own => exact own.passes
  | field own separated _ ih =>
    exact own.passes.append ((passes_of_isOp separated (by decide) (by decide)).cons ih)

theorem IsPath.isRun_append (own : IsPath tokens names) (later : IsRun true 0 rest) :
    IsRun true 0 (tokens ++ rest) := by
  have word_cons {token : Token} {rest : List Token} (word : token.kind = .name)
      (later : IsRun true 0 rest) : IsRun true 0 (token :: rest) := by
    have no_op : token.kind ≠ .op := by rw [word]; nofun
    refine ⟨by rw [word]; nofun, fun _ => ⟨Plan.not_isOp_of_kind no_op, ?_, fun _ =>
      Plan.not_spells_of_isOp (Plan.not_isOp_of_kind no_op)⟩, ?_⟩
    · rw [Token.isClosing, word]
      rfl
    · rwa [depthAfter_of_kind no_op]
  induction own with
  | name word => exact word_cons word later
  | dotted word dot rest ih =>
    refine word_cons word ⟨Token.significant_of_isOp dot, fun _ => ⟨Plan.not_isOp_of_isOp dot
      (by decide), ?_, fun _ => Plan.not_spells_of_isOp (Plan.not_isOp_of_isOp dot (by decide))⟩, ?_⟩
    · rw [Token.isClosing, Token.kind_of_isOp dot, Token.text_of_isOp dot]
      decide
    · rwa [depthAfter_of_isOp dot (by decide) (by decide)]

/-- A whole specification without a reader is a run, but for the end of the text. -/
theorem isRun_plain {brace brace' : Token} {rest : Option Expression} (named : IsPath names path)
    (opening : brace.isOp "\x7b") (own : IsBody source tokens fields rest)
    (closing : brace'.isOp "\x7d") : IsRun true 0 (names ++ brace :: (tokens ++ [brace'])) := by
  have closed : IsRun true 1 [brace'] := by
    refine ⟨Token.significant_of_isOp closing, nofun, ?_⟩
    change Cursor.depthAfter brace' 1 = 0
    rw [Cursor.depthAfter, Token.kind_of_isOp closing, Token.text_of_isOp closing]
    decide
  refine named.isRun_append ⟨Token.significant_of_isOp opening, fun _ =>
    ⟨Plan.not_isOp_of_isOp opening (by decide), ?_, fun _ =>
      Plan.not_spells_of_isOp (Plan.not_isOp_of_isOp opening (by decide))⟩, ?_⟩
  · rw [Token.isClosing, Token.kind_of_isOp opening, Token.text_of_isOp opening]
    decide
  · have one : Cursor.depthAfter brace 0 = 1 := by
      rw [Cursor.depthAfter, Token.kind_of_isOp opening, Token.text_of_isOp opening]
      decide
    rw [one]
    exact own.passes 1 _ Nat.one_pos closed

end Phrase

namespace Plan
variable {cursor after : Cursor} {reader : Option Expression}

/-- Where all up to the end of the text is one run, there is no reader. -/
theorem run_readReader_absent (faces : cursor.Faces (first :: others ++ [stop]))
    (closed : IsRun true 0 (first :: others)) (last : stop.kind = .finish) :
    readReader.run cursor = (.ok none, cursor) := by
  have further : (first.kind == .finish) = false := by simpa using closed.1
  have taken := Reading.takeExpression_of_run faces closed (.inl last) .struct
  have left := faces.moved closed.significant
  have start : cursor.Faces (first :: (others ++ [stop])) := faces
  rw [readReader, Reading.run_get_bind, start.atEnd, further,
    if_neg Bool.false_ne_true, run_bind, taken]
  dsimp only
  rw [Reading.run_get_bind, left.atArrow, List.headD_nil, Token.not_isArrow_self,
    if_neg Bool.false_ne_true]
  rfl

theorem run_readReader_of_expression {e : Expression} {rest : List Token}
    (faces : cursor.Faces (tokens ++ first :: second :: rest))
    (own : Phrase.IsExpression cursor.source true tokens e) (arrow : first.isArrow second) :
    readReader.run cursor = (.ok (some e), (cursor.moved tokens.length).moved 2) := by
  have stops : Stops true (first :: second :: rest) := .of_isArrow arrow
  have compiled := Reading.takeCompiled_of_expression faces own stops .struct
  have left := faces.moved own.significant
  cases own with
  | @run head others code closed _ =>
    have further : (head.kind == .finish) = false := by simpa using closed.1
    have taken := Reading.takeExpression_of_run faces closed stops .struct
    have past := Reading.run_expectArrow left arrow .struct .arrow
    have start : cursor.Faces (head :: (others ++ first :: second :: rest)) := faces
    rw [readReader, Reading.run_get_bind, start.atEnd, further,
      if_neg Bool.false_ne_true, run_bind, taken]
    dsimp only
    rw [Reading.run_get_bind, left.atArrow, List.headD_cons, arrow, if_pos rfl,
      Reading.run_set_bind, run_bind, compiled]
    dsimp only
    rw [run_bind, past]
    rfl

/-- What is read as a reader is an expression before an arrow, or nothing is read. -/
theorem of_run_readReader (faces : cursor.Faces ahead)
    (result : readReader.run cursor = (.ok reader, after)) :
    (reader = none ∧ after = cursor) ∨ ∃ tokens first second later e,
      ahead = tokens ++ first :: second :: later ∧
      Phrase.IsExpression cursor.source true tokens e ∧ first.isArrow second ∧ reader = some e ∧
      after = (cursor.moved tokens.length).moved 2 ∧ after.Faces later := by
  obtain ⟨head, behind, rfl⟩ := faces.ended.exists_cons
  rw [readReader, Reading.run_get_bind, faces.atEnd] at result
  split at result
  · cases result
    exact .inl ⟨rfl, rfl⟩
  · obtain ⟨⟨text, location⟩, middle, taken, result⟩ := run_bind_ok_iff.mp result
    rw [Reading.run_get_bind] at result
    split at result
    · rw [Reading.run_set_bind] at result
      obtain ⟨e, middle, compiled, result⟩ := run_bind_ok_iff.mp result
      obtain ⟨tokens, first, later, parts, rfl, left, own⟩ :=
        Reading.of_takeCompiled faces compiled
      obtain ⟨_, last, past, result⟩ := run_bind_ok_iff.mp result
      obtain ⟨arrow, rfl⟩ := Reading.of_run_expectArrow left past
      obtain ⟨second, later, rfl, arrow, -⟩ := left.ended.exists_of_spells arrow
      cases result
      obtain ⟨significant, behind⟩ := left.behind_spelt arrow
      exact .inr ⟨tokens, first, second, later, e, parts, (own significant).1, arrow, rfl, rfl,
        behind⟩
    · cases result
      exact .inl ⟨rfl, rfl⟩

theorem run_readDeclaration_ok_iff {scope : Scope} {declaration : Declaration} :
    (readDeclaration scope).run cursor = (.ok declaration, after) ↔
      ∃ reader behind_reader, readReader.run cursor = (.ok reader, behind_reader) ∧
      ∃ path behind_path, readPath.run behind_reader = (.ok path, behind_path) ∧
      ∃ target, resolvePath scope path = .ok target ∧
      ∃ brace inside, (Reading.expectOp "\x7b" .struct (.fieldsOf (".".intercalate path))).run
          behind_path = (.ok brace, inside) ∧
      ∃ fields rest behind_body,
        (readBody (inside.tokens.length + 1)).run inside = (.ok (fields, rest), behind_body) ∧
      ∃ brace', (Reading.expectOp "\x7d" .struct .closing).run behind_body = (.ok brace', after) ∧
        after.atEnd = true ∧ declaration = ⟨reader, path, target, fields, rest⟩ := by
  rw [readDeclaration]
  constructor
  · intro result
    obtain ⟨reader, _, reader_read, result⟩ := run_bind_ok_iff.mp result
    rw [Reading.run_get_bind] at result
    obtain ⟨path, _, path_read, result⟩ := run_bind_ok_iff.mp result
    obtain ⟨target, _, resolved, result⟩ := run_bind_ok_iff.mp result
    obtain ⟨found, rfl⟩ := Prod.mk.inj ((run_lift _ _).symm.trans resolved)
    obtain ⟨brace, _, opened, result⟩ := run_bind_ok_iff.mp result
    rw [Reading.run_get_bind] at result
    obtain ⟨⟨fields, rest⟩, _, body_read, result⟩ := run_bind_ok_iff.mp result
    obtain ⟨brace', _, closed, result⟩ := run_bind_ok_iff.mp result
    rw [Reading.run_get_bind] at result
    split at result
    · next last =>
      cases result
      exact ⟨reader, _, reader_read, path, _, path_read, target,
        mapError_ok_iff.mp found, brace, _, opened, fields, rest, _, body_read, brace',
        closed, last, rfl⟩
    · cases result
  · rintro ⟨reader, _, reader_read, path, _, path_read, target, resolved, brace, _, opened, fields,
      rest, _, body_read, brace', closed, last, rfl⟩
    refine run_bind_ok_iff.mpr ⟨reader, _, reader_read, ?_⟩
    rw [Reading.run_get_bind]
    refine run_bind_ok_iff.mpr ⟨path, _, path_read, run_bind_ok_iff.mpr ⟨target, _,
      (run_lift _ _).trans (congrArg (·, _) (mapError_ok_iff.mpr resolved)),
      run_bind_ok_iff.mpr ⟨brace, _, opened, ?_⟩⟩⟩
    rw [Reading.run_get_bind]
    refine run_bind_ok_iff.mpr ⟨(fields, rest), _, body_read, run_bind_ok_iff.mpr ⟨brace', _,
      closed, ?_⟩⟩
    rw [Reading.run_get_bind, last]
    rfl

/-- Behind the reader a whole specification of the grammar is read. -/
theorem run_readDeclaration_of_plain {scope : Scope} {behind : Cursor} {declaration : Declaration}
    (faces : behind.Faces ahead) (reader_read : readReader.run cursor = (.ok reader, behind))
    (own : Phrase.IsDeclaration behind.source scope ahead declaration)
    (plain : declaration.reader = none) :
    ∃ after, (readDeclaration scope).run cursor = (.ok { declaration with reader }, after) := by
  cases own with
  | reading => cases plain
  | plain named resolved opening body closing last =>
    have path_read := run_readPath_of_path named faces (not_isOp_of_isOp opening (by decide))
    have at_brace := faces.moved named.significant
    have inside := at_brace.next (Token.significant_of_isOp opening)
    have within := inside.length_le
    have body_read := run_readBody_of_body inside body closing
      (Nat.lt_succ_of_le (Nat.le_trans (by simp) within))
    have at_end := inside.moved body.significant
    have finished := at_end.next (Token.significant_of_isOp closing)
    refine ⟨_, run_readDeclaration_ok_iff.mpr ⟨reader, _, reader_read, _, _, path_read, _, resolved,
      _, _, Reading.run_expectOp at_brace opening _ _, _, _, _, body_read, _,
      Reading.run_expectOp at_end closing _ _, ?_, rfl⟩⟩
    rw [finished.atEnd, last]
    rfl

/-- What is read as a whole specification is one, behind its reader. -/
theorem of_run_readDeclaration {scope : Scope} {declaration : Declaration}
    (faces : cursor.Faces ahead)
    (result : (readDeclaration scope).run cursor = (.ok declaration, after)) :
    Phrase.IsDeclaration cursor.source scope ahead declaration := by
  obtain ⟨reader, behind, reader_read, path, _, path_read, target, resolved, brace, _, opened, fields,
    rest, _, body_read, brace', closed, last, rfl⟩ := run_readDeclaration_ok_iff.mp result
  have plain {ahead : List Token} (faces : behind.Faces ahead) :
      Phrase.IsDeclaration behind.source scope ahead ⟨none, path, target, fields, rest⟩ := by
    obtain ⟨names, later, rfl, rfl, left, named⟩ := of_run_readPath faces path_read
    obtain ⟨first, later, rfl⟩ := left.ended.exists_cons
    obtain ⟨opening, rfl, rfl⟩ := (Reading.expectOp_ok_iff left).mp opened
    have inside := left.next (Token.significant_of_isOp opening)
    obtain ⟨tokens, stop, later, rfl, rfl, left, body⟩ :=
      of_run_readBody inside (Nat.lt_succ_of_le inside.length_le) body_read
    obtain ⟨closing, rfl, rfl⟩ := (Reading.expectOp_ok_iff left).mp closed
    have significant := Token.significant_of_isOp closing
    have finished := left.next significant
    obtain ⟨final, later, rfl⟩ := finished.ended.exists_cons
    rw [finished.atEnd] at last
    obtain rfl := finished.ended.eq_nil (eq_of_beq last)
    exact .plain named resolved opening (body significant) closing (eq_of_beq last)
  rcases of_run_readReader faces reader_read with ⟨rfl, rfl⟩ |
    ⟨tokens, first, second, later, e, rfl, value, arrow, rfl, rfl, left⟩
  · exact plain faces
  · exact .reading value arrow (plain left)

/-- A specification is read exactly if it is one of the grammar, and as what the grammar says. -/
theorem run_readDeclaration_iff {scope : Scope} {declaration : Declaration}
    (faces : cursor.Faces ahead) :
    (∃ after, (readDeclaration scope).run cursor = (.ok declaration, after)) ↔
      Phrase.IsDeclaration cursor.source scope ahead declaration := by
  constructor
  · exact fun ⟨_, result⟩ => of_run_readDeclaration faces result
  · intro own
    have whole := own
    cases own with
    | plain named resolved opening body closing last =>
      have closed := Phrase.isRun_plain named opening body closing
      obtain ⟨first, names, _, rfl, -, -⟩ := named.exists_cons
      have absent := run_readReader_absent (by simpa using faces) closed last
      exact run_readDeclaration_of_plain faces absent whole rfl
    | reading value arrow own =>
      have left := (faces.moved value.significant).behind_spelt arrow
      exact run_readDeclaration_of_plain left.2 (run_readReader_of_expression faces value arrow) own
        rfl

/-- A text with tokens and without line breaks but line feeds is read as a specification exactly if
its tokens are one of the grammar; it then is read in one way only. -/
theorem readDeclaration_iff_isDeclaration {source : List Char} (scope : Scope)
    (scanned : tokenize source = .ok tokens) (clean : OnlyLineFeeds source) :
    (∀ declaration, (∃ after, (readDeclaration scope).run ⟨source, tokens, 0⟩ =
        (.ok declaration, after)) ↔ Phrase.IsDeclaration source scope tokens declaration) ∧
      ∀ declaration other, Phrase.IsDeclaration source scope tokens declaration →
        Phrase.IsDeclaration source scope tokens other → declaration = other := by
  have faces : Cursor.Faces ⟨source, tokens, 0⟩ tokens := Cursor.faces_of_tokenize scanned clean
  refine ⟨fun declaration => run_readDeclaration_iff faces, fun declaration other own also => ?_⟩
  obtain ⟨after, result⟩ := (run_readDeclaration_iff faces).mpr own
  obtain ⟨after', result'⟩ := (run_readDeclaration_iff faces).mpr also
  exact Except.ok.inj (Prod.mk.inj (result.symm.trans result')).1

/-- The general statement at a text of two rows with a field in each, and what it is read as. -/
theorem readDeclaration_iff_isDeclaration_rows :
    let source := "dict \x7b _: b\"P\",\n  a: x @ [3] => x \x7d".toList
    ∃ tokens, tokenize source = .ok tokens ∧ OnlyLineFeeds source ∧
      ((∀ declaration, (∃ after, (readDeclaration .empty).run ⟨source, tokens, 0⟩ =
          (.ok declaration, after)) ↔ Phrase.IsDeclaration source .empty tokens declaration) ∧
        ∀ declaration other, Phrase.IsDeclaration source .empty tokens declaration →
          Phrase.IsDeclaration source .empty tokens other → declaration = other) ∧
      ∃ declaration, Phrase.IsDeclaration source .empty tokens declaration ∧
        declaration.path = ["dict"] ∧ declaration.fields.length = 2 := by
  intro source
  have feeds : source.all (fun c => !Text.isLineBreak c || c == '\n') = true := by decide +kernel
  have clean : OnlyLineFeeds source := by
    intro c present breaks
    simpa [breaks] using List.all_eq_true.mp feeds c present
  have shape : ((tokenize source).toOption.bind fun tokens =>
      ((readDeclaration .empty).run ⟨source, tokens, 0⟩).1.toOption.map fun declaration =>
        (declaration.path, declaration.fields.length)) = some (["dict"], 2) := by
    decide +kernel
  have ok_of_some {ε α : Type} {result : Except ε α} {value : α}
      (some_value : result.toOption = some value) : result = .ok value := by
    cases result with
    | error => cases some_value
    | ok => cases some_value; rfl
  obtain ⟨tokens, scanned, shape⟩ := Option.bind_eq_some_iff.mp shape
  obtain ⟨declaration, read, shape⟩ := Option.map_eq_some_iff.mp shape
  have scanned : tokenize source = .ok tokens := ok_of_some scanned
  have both := readDeclaration_iff_isDeclaration .empty scanned clean
  have own := (both.1 declaration).mp ⟨_, Prod.ext (ok_of_some read) rfl⟩
  obtain ⟨path, count⟩ := Prod.mk.inj shape
  exact ⟨tokens, scanned, clean, both, declaration, own, path, count⟩

end Plan
end ByteRecord
