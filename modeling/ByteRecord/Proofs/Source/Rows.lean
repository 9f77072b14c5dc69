import ByteRecord.Source.Tokenizer

/-! The tokens of the rest of a row, in one equation for each thing that can stand behind its blanks. -/
namespace ByteRecord.Source
open Lexical

/-- A row without the blanks at its beginning. -/
def pastBlanks (row : List Char) : List Char :=
  row.drop (row.takeWhile isBlankInRow).length

theorem pastBlanks_cons (blank : isBlankInRow c) (row : List Char) :
    pastBlanks (c :: row) = pastBlanks row := by
  rw [pastBlanks, List.takeWhile_cons_of_pos blank]
  rfl

theorem pastBlanks_of_not (other : isBlankInRow c = false) (row : List Char) :
    pastBlanks (c :: row) = c :: row := by
  rw [pastBlanks, List.takeWhile_cons_of_neg (by simp [other])]
  rfl

/-- A piece that ends in its row is not empty. -/
def Piece.Advances : Piece → Prop
  | .token _ width => 0 < width
  | .trivia width => 0 < width
  | _ => True

theorem advances_word? (found : piece?.word? c row = some piece) : piece.Advances := by
  dsimp only [piece?.word?] at found
  split at found
  · next number =>
    cases found
    exact Nat.pos_of_ne_zero (bne_iff_ne.mp number)
  · split at found
    · next operator =>
      cases found
      exact Nat.pos_of_ne_zero (bne_iff_ne.mp operator)
    · split at found
      · next word =>
        cases found
        exact Nat.pos_of_ne_zero (bne_iff_ne.mp word)
      · cases found

theorem advances_piece? (found : piece? row = some piece) : piece.Advances := by
  unfold piece? at found
  split at found
  · cases found
    trivial
  · cases found
    trivial
  · cases found
    exact Nat.succ_pos _
  · cases found
    exact Nat.one_pos
  · cases found
    exact Nat.two_pos
  · cases found
  · split at found
    · next opening _ =>
      dsimp only at found
      split at found
      · cases found
        refine Nat.add_pos_left ?_ _
        rw [Opening.width]
        split <;> omega
      · split at found
        · cases found
          trivial
        · exact advances_word? found
    · exact advances_word? found

section
variable {line column : Nat} {row : List Char} {progress : Progress}

theorem rowTokens_skip (line column skip : Nat) (row : List Char) (progress : Progress) :
    rowTokens line column skip row progress =
      rowTokens line (column + skip) 0 (row.drop skip) progress := by
  induction row generalizing column skip with
  | nil => rw [List.drop_nil, rowTokens, rowTokens]
  | cons c rest ih =>
    cases skip with
    | zero => rfl
    | succ skip =>
      rw [rowTokens, ih, List.drop_succ_cons, Nat.add_assoc, Nat.add_comm 1]

theorem rowTokens_end (nothing : pastBlanks row = []) :
    rowTokens line column 0 row progress = ([], progress) := by
  cases row with
  | nil => rw [rowTokens]
  | cons c rest =>
    have empty : ((c :: rest).drop ((c :: rest).takeWhile isBlankInRow).length).isEmpty = true := by
      rw [← pastBlanks, nothing]
      rfl
    rw [rowTokens, if_pos empty]

theorem rowTokens_behind (blanks : Nat) (positive : 0 < width) (c : Char) (rest : List Char) :
    rowTokens line (column + 1) (blanks + width - 1) rest progress =
      rowTokens line (column + blanks + width) 0 (((c :: rest).drop blanks).drop width)
        progress := by
  obtain ⟨width, rfl⟩ := Nat.exists_eq_succ_of_ne_zero (Nat.pos_iff_ne_zero.mp positive)
  have ahead : ((c :: rest).drop blanks).drop (width + 1) = rest.drop (blanks + width) := by
    rw [List.drop_drop, ← Nat.add_assoc, List.drop_succ_cons]
  have place : column + 1 + (blanks + width) = column + blanks + (width + 1) := by omega
  rw [rowTokens_skip, ahead, ← place]
  rfl

theorem exists_cons_of_piece? (found : piece? (pastBlanks row) = some piece) :
    ∃ c rest, row = c :: rest ∧ ¬(row.drop (row.takeWhile isBlankInRow).length).isEmpty := by
  cases row with
  | nil => cases found
  | cons c rest =>
    refine ⟨c, rest, rfl, fun empty => ?_⟩
    rw [pastBlanks, List.isEmpty_iff.mp empty] at found
    cases found

theorem rowTokens_token (found : piece? (pastBlanks row) = some (.token kind width)) :
    rowTokens line column 0 row progress =
      let start := column + (row.takeWhile isBlankInRow).length
      let text := String.ofList ((pastBlanks row).take width)
      let (tokens, last) := rowTokens line (start + width) 0 ((pastBlanks row).drop width)
        { progress with depth := depthAfter kind text progress.depth }
      (⟨kind, text, ⟨line, start⟩, ⟨line, start + width⟩⟩ :: tokens, last) := by
  obtain ⟨c, rest, rfl, something⟩ := exists_cons_of_piece? found
  have positive : 0 < width := advances_piece? found
  rw [pastBlanks] at found ⊢
  rw [rowTokens, if_neg something, found]
  dsimp only
  rw [rowTokens_behind _ positive c rest]

theorem rowTokens_trivia (found : piece? (pastBlanks row) = some (.trivia width)) :
    rowTokens line column 0 row progress =
      rowTokens line (column + (row.takeWhile isBlankInRow).length + width) 0
        ((pastBlanks row).drop width) progress := by
  obtain ⟨c, rest, rfl, something⟩ := exists_cons_of_piece? found
  have positive : 0 < width := advances_piece? found
  rw [pastBlanks] at found ⊢
  rw [rowTokens, if_neg something, found]
  dsimp only
  rw [rowTokens_behind _ positive c rest]

theorem rowTokens_continuation (found : piece? (pastBlanks row) = some .continuation) :
    rowTokens line column 0 row progress = ([], { progress with continued := true }) := by
  obtain ⟨c, rest, rfl, something⟩ := exists_cons_of_piece? found
  rw [pastBlanks] at found
  rw [rowTokens, if_neg something, found]

theorem rowTokens_openString (found : piece? (pastBlanks row) = some (.openString opening)) :
    rowTokens line column 0 row progress =
      ([], { progress with pending := some ⟨⟨line, column + (row.takeWhile isBlankInRow).length⟩,
        pastBlanks row, opening⟩ }) := by
  obtain ⟨c, rest, rfl, something⟩ := exists_cons_of_piece? found
  rw [pastBlanks] at found ⊢
  rw [rowTokens, if_neg something, found]

theorem rowTokens_stray (something : pastBlanks (c :: row) ≠ [])
    (nothing : piece? (pastBlanks (c :: row)) = none) :
    rowTokens line column 0 (c :: row) progress =
      let (tokens, last) := rowTokens line (column + 1) 0 row progress
      (⟨.error, c.toString, ⟨line, column⟩, ⟨line, column + 1⟩⟩ :: tokens, last) := by
  rw [pastBlanks] at something nothing
  rw [rowTokens, if_neg (by simpa using something), nothing]

end
end ByteRecord.Source
