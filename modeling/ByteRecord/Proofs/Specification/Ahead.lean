import ByteRecord.Proofs.Specification.Grammar

/-! What lies ahead of a cursor. Reading is followed on the list of tokens that are still to come:
each step says which tokens it takes off the front. -/
namespace ByteRecord.Source
open Text

/-- The only line breaks of a text are line feeds. -/
def OnlyLineFeeds (source : List Char) : Prop :=
  ∀ c ∈ source, isLineBreak c → c = '\n'

theorem OnlyLineFeeds.cleanBefore (only : OnlyLineFeeds source) (line : Nat) :
    CleanBefore source line := by
  rintro row member ⟨before, c, after, rfl, different, breaks⟩
  have present : c ∈ source := by
    rw [← flatten_rows source, List.mem_flatten]
    exact ⟨_, List.mem_of_mem_take member, by simp⟩
  exact different (only c present (Bool.and_eq_true_iff.mp breaks).1)

/-- The last of some tokens marks the end of the text, and no other does. -/
inductive IsEnded : List Token → Prop
  | last (finish : token.kind = .finish) : IsEnded [token]
  | further (significant : token.kind ≠ .finish) (rest : IsEnded tokens) :
    IsEnded (token :: tokens)

namespace IsEnded

theorem tail (ended : IsEnded (token :: rest)) (further : token.kind ≠ .finish) :
    IsEnded rest := by
  cases ended with
  | last finish => exact absurd finish further
  | further _ rest => exact rest

theorem of_append (ended : IsEnded (front ++ rest))
    (significant : ∀ token ∈ front, token.kind ≠ .finish) : IsEnded rest := by
  induction front with
  | nil => exact ended
  | cons token front ih =>
    exact ih (ended.tail (significant token List.mem_cons_self))
      fun other member => significant other (List.mem_cons_of_mem token member)

theorem append (significant : ∀ token ∈ front, token.kind ≠ .finish) (ended : IsEnded rest) :
    IsEnded (front ++ rest) := by
  induction front with
  | nil => exact ended
  | cons token front ih =>
    exact .further (significant token List.mem_cons_self)
      (ih fun other member => significant other (List.mem_cons_of_mem token member))

theorem exists_cons (ended : IsEnded tokens) : ∃ token rest, tokens = token :: rest := by
  cases ended with
  | last finish => exact ⟨_, _, rfl⟩
  | further _ rest => exact ⟨_, _, rfl⟩

theorem eq_nil (ended : IsEnded (token :: rest)) (finish : token.kind = .finish) : rest = [] := by
  cases ended with
  | last _ => rfl
  | further significant _ => exact absurd finish significant

end IsEnded

theorem significant_of_piece? (found : piece? row = some (.token kind width)) :
    kind ≠ .finish := by
  have of_word {first : Char} (found : piece?.word? first row = some (.token kind width)) :
      kind ≠ .finish := by
    dsimp only [piece?.word?] at found
    grind
  unfold piece? at found
  split at found
  any_goals cases found
  · split at found
    · dsimp only at found
      split at found
      · cases found
        nofun
      · split at found
        · cases found
        · exact of_word found
    · exact of_word found

theorem rowTokens_significant (line column skip : Nat) (rest : List Char) (progress : Progress) :
    ∀ token ∈ (rowTokens line column skip rest progress).1, token.kind ≠ .finish := by
  induction rest generalizing column skip progress with
  | nil =>
    rw [rowTokens]
    exact List.forall_mem_nil _
  | cons c rest ih =>
    cases skip with
    | succ skip => exact ih _ _ _
    | zero =>
      rw [rowTokens]
      extract_lets
      split
      · exact List.forall_mem_nil _
      · split
        · next kind width found =>
          exact List.forall_mem_cons.mpr ⟨significant_of_piece? found, ih _ _ _⟩
        · exact ih _ _ _
        · exact List.forall_mem_nil _
        · exact List.forall_mem_nil _
        · exact List.forall_mem_cons.mpr ⟨by simp, ih _ _ _⟩

theorem rowStep_significant (stepped : rowStep line row progress = .ok (tokens, last)) :
    ∀ token ∈ tokens, token.kind ≠ .finish := by
  have rest (column : Nat) (row : List Char) (progress : Progress) {last : Progress}
      (scanned : rowTokens line column 0 row progress = (tokens, last)) :
      ∀ token ∈ tokens, token.kind ≠ .finish := by
    have all := rowTokens_significant line column 0 row progress
    rwa [scanned] at all
  unfold rowStep at stepped
  split at stepped
  · next pending _ =>
    have scanned := Except.ok.inj stepped
    unfold stringRow at scanned
    extract_lets closed at scanned
    split at scanned
    · next width _ =>
      obtain ⟨rfl, rfl⟩ := Prod.mk.inj scanned
      exact List.forall_mem_cons.mpr ⟨nofun, rowTokens_significant _ _ _ _ _⟩
    · split at scanned
      · obtain ⟨rfl, -⟩ := Prod.mk.inj scanned
        exact List.forall_mem_cons.mpr ⟨nofun, nofun⟩
      · cases scanned
        exact nofun
  · split at stepped
    · unfold statementRow at stepped
      extract_lets blanks at stepped
      split at stepped
      any_goals
        cases stepped
        exact nofun
      split at stepped
      · cases stepped
      · exact rest _ _ _ (Except.ok.inj stepped)
    · exact rest _ _ _ (Except.ok.inj stepped)

theorem finish_isEnded (finished : finish line progress = .ok tokens) : IsEnded tokens := by
  unfold finish at finished
  split at finished
  · cases finished
  · split at finished
    · cases finished
      exact .last rfl
    · cases finished

/-- The last token of a text marks its end, and no other does. -/
theorem tokensFrom_isEnded {rows : List (List Char)}
    (scanned : tokensFrom line progress rows = .ok tokens) : IsEnded tokens := by
  induction rows generalizing line progress tokens with
  | nil => exact finish_isEnded scanned
  | cons row rows ih =>
    rw [tokensFrom] at scanned
    split at scanned
    · exact finish_isEnded scanned
    · obtain ⟨⟨own, last⟩, stepped, scanned⟩ := bind_ok_iff.mp scanned
      obtain ⟨others, later, made⟩ := bind_ok_iff.mp scanned
      cases made
      exact .append (rowStep_significant stepped) (ih later)

theorem tokenize_isEnded (scanned : tokenize text = .ok tokens) : IsEnded tokens :=
  tokensFrom_isEnded scanned

namespace Cursor

/-- A cursor behind some more tokens. -/
def moved (cursor : Cursor) (count : Nat) : Cursor :=
  { cursor with index := cursor.index + count }

theorem moved_moved (cursor : Cursor) (first second : Nat) :
    (cursor.moved first).moved second = cursor.moved (first + second) := by
  rw [moved, moved, moved, Nat.add_assoc]

theorem moved_length_cons (cursor : Cursor) (token : Token) (tokens : List Token) :
    cursor.moved (token :: tokens).length = (cursor.moved 1).moved tokens.length := by
  rw [moved_moved, List.length_cons, Nat.add_comm]

theorem moved_length_append (cursor : Cursor) (front tokens : List Token) :
    cursor.moved (front ++ tokens).length = (cursor.moved front.length).moved tokens.length := by
  rw [moved_moved, List.length_append]

/-- A cursor stands before some tokens of a text that has no line breaks but line feeds. -/
structure Faces (cursor : Cursor) (ahead : List Token) : Prop where
  here : cursor.tokens.drop cursor.index = ahead
  placed : ∃ start stop, Placed (rows cursor.source) start ahead stop
  ended : IsEnded ahead
  clean : OnlyLineFeeds cursor.source

namespace Faces
variable {cursor : Cursor}

theorem moved (faces : cursor.Faces (front ++ rest))
    (significant : ∀ token ∈ front, token.kind ≠ .finish) :
    (cursor.moved front.length).Faces rest where
  here := by
    change cursor.tokens.drop (cursor.index + front.length) = rest
    rw [← List.drop_drop, faces.here, List.drop_left]
  placed := by
    obtain ⟨start, stop, placed⟩ := faces.placed
    obtain ⟨start', left⟩ := placed.drop front.length
    rw [List.drop_left] at left
    exact ⟨start', stop, left⟩
  ended := faces.ended.of_append significant
  clean := faces.clean

theorem next (faces : cursor.Faces (token :: rest)) (further : token.kind ≠ .finish) :
    (cursor.moved 1).Faces rest :=
  moved (show cursor.Faces ([token] ++ rest) from faces) (by simpa using further)

theorem index_lt (faces : cursor.Faces (token :: rest)) :
    cursor.index + (rest.length + 1) = cursor.tokens.length := by
  have count := congrArg List.length faces.here
  rw [List.length_drop, List.length_cons] at count
  omega

theorem length_le (faces : cursor.Faces ahead) : ahead.length ≤ cursor.tokens.length := by
  rw [← faces.here, List.length_drop]
  exact Nat.sub_le _ _

theorem current (faces : cursor.Faces (token :: rest)) : cursor.current = token :=
  Cursor.current_of_drop faces.here

theorem peek_one (faces : cursor.Faces (token :: rest)) : cursor.peek 1 = rest.headD token :=
  Cursor.peek_one_of_drop faces.here

theorem advanced (faces : cursor.Faces (token :: rest)) (further : token.kind ≠ .finish) :
    cursor.advanced = cursor.moved 1 := by
  have significant : cursor.atEnd = false := by
    rw [atEnd, faces.current]
    simpa using further
  rw [Cursor.advanced, significant, if_neg Bool.false_ne_true]
  rfl

theorem atEnd (faces : cursor.Faces (token :: rest)) :
    cursor.atEnd = (token.kind == .finish) := by
  rw [Cursor.atEnd, faces.current]

theorem atOp (faces : cursor.Faces (token :: rest)) (op : String) :
    cursor.atOp op = token.isOp op := by
  rw [Cursor.atOp, faces.current]

theorem atName (faces : cursor.Faces (token :: rest)) :
    cursor.atName = (token.kind == .name) := by
  rw [Cursor.atName, faces.current]

theorem atArrow (faces : cursor.Faces (token :: rest)) :
    cursor.atArrow = token.isArrow (rest.headD token) := by
  rw [Cursor.atArrow, faces.current, faces.peek_one]

theorem atRest (faces : cursor.Faces (token :: rest)) :
    cursor.atRest = token.spells (rest.headD token) "." "." := by
  rw [Cursor.atRest, faces.current, faces.peek_one]

end Faces
end Cursor

/-- At the start of a text without line breaks but line feeds, all of its tokens lie ahead. -/
theorem Cursor.faces_of_tokenize {source : List Char} {tokens : List Token}
    (scanned : tokenize source = .ok tokens)
    (clean : OnlyLineFeeds source) : Cursor.Faces ⟨source, tokens, 0⟩ tokens :=
  ⟨rfl, ⟨_, tokenize_placed scanned⟩, tokenize_isEnded scanned, clean⟩

theorem Token.kind_of_isOp {token : Token} (isOp : token.isOp op) : token.kind = .op :=
  eq_of_beq (Bool.and_eq_true_iff.mp isOp).1

theorem Token.text_of_isOp {token : Token} (isOp : token.isOp op) : token.text = op :=
  eq_of_beq (Bool.and_eq_true_iff.mp isOp).2

theorem Token.significant_of_isOp {token : Token} (isOp : token.isOp op) :
    token.kind ≠ .finish := by
  rw [Token.kind_of_isOp isOp]
  nofun

theorem Token.isOp_of_spells {first second : Token} (spelt : first.spells second a b) :
    first.isOp a ∧ second.isOp b := by
  simp only [Token.spells, Bool.and_eq_true] at spelt
  exact spelt.1

theorem Cursor.Faces.behind_spelt {cursor : Cursor} (faces : cursor.Faces (first :: second :: rest))
    (spelt : first.spells second a b) :
    first.kind ≠ .finish ∧ (cursor.moved 2).Faces rest := by
  obtain ⟨one, two⟩ := Token.isOp_of_spells spelt
  have significant := Token.significant_of_isOp one
  exact ⟨significant, (faces.next significant).next (Token.significant_of_isOp two)⟩

theorem IsEnded.exists_of_spells (ended : IsEnded (token :: rest))
    (spelt : token.spells (rest.headD token) a b) :
    ∃ second later, rest = second :: later ∧ token.spells second a b ∧ token.isOp a ∧
      second.isOp b := by
  have ops := spelt
  simp only [Token.spells, Bool.and_eq_true] at ops
  obtain ⟨second, later, rfl⟩ :=
    (ended.tail (Token.significant_of_isOp ops.1.1)).exists_cons
  exact ⟨second, later, rfl, spelt, ops.1.1, ops.1.2⟩

namespace Reading
variable {cursor after : Cursor}

theorem run_get_bind (rest : Cursor → Reading α) (cursor : Cursor) :
    ((get : Reading Cursor) >>= rest).run cursor = (rest cursor).run cursor := rfl

theorem run_set_bind (start : Cursor) (rest : Unit → Reading α) (cursor : Cursor) :
    ((set start : Reading Unit) >>= rest).run cursor = (rest ()).run start := rfl

theorem run_skip (count : Nat) (cursor : Cursor) :
    (skip count).run cursor = (.ok (), cursor.moved count) := rfl

theorem run_fail (kind : SpecificationKind) (wanted : Wanted) (cursor : Cursor) :
    (fail kind wanted : Reading α).run cursor = (.error (cursor.unexpected kind wanted), cursor) :=
  rfl

theorem run_next (faces : cursor.Faces (token :: rest)) (further : token.kind ≠ .finish) :
    next.run cursor = (.ok token, cursor.moved 1) := by
  rw [← faces.advanced further, ← faces.current]
  rfl

theorem run_expectOp (faces : cursor.Faces (token :: rest)) (own : token.isOp op)
    (kind : SpecificationKind) (wanted : Wanted) :
    (expectOp op kind wanted).run cursor = (.ok token, cursor.moved 1) := by
  rw [expectOp, run_get_bind, faces.atOp, own, if_pos rfl,
    run_next faces (Token.significant_of_isOp own)]

theorem expectOp_ok_iff (faces : cursor.Faces (token :: rest)) {mark : Token} :
    (expectOp op kind wanted).run cursor = (.ok mark, after) ↔
      token.isOp op = true ∧ mark = token ∧ after = cursor.moved 1 := by
  cases own : token.isOp op with
  | false =>
    rw [expectOp, run_get_bind, faces.atOp, own]
    exact ⟨nofun, nofun⟩
  | true =>
    rw [run_expectOp faces own, Prod.mk.injEq, Except.ok.injEq]
    grind

theorem run_expectArrow (faces : cursor.Faces (first :: second :: rest))
    (arrow : first.isArrow second) (kind : SpecificationKind) (wanted : Wanted) :
    (expectArrow kind wanted).run cursor = (.ok (), cursor.moved 2) := by
  rw [expectArrow, run_get_bind, faces.atArrow, List.headD_cons, arrow, if_pos rfl, run_skip]

theorem of_run_expectArrow (faces : cursor.Faces (token :: rest))
    (result : (expectArrow kind wanted).run cursor = (.ok (), after)) :
    token.isArrow (rest.headD token) = true ∧ after = cursor.moved 2 := by
  rw [expectArrow, run_get_bind, faces.atArrow] at result
  cases arrow : token.isArrow (rest.headD token) with
  | false =>
    rw [arrow] at result
    cases result
  | true =>
    rw [arrow, if_pos rfl, run_skip] at result
    cases result
    exact ⟨rfl, rfl⟩

end Reading
end ByteRecord.Source
