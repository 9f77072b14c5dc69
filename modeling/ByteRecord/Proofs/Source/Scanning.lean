import ByteRecord.Fault.Basic
import ByteRecord.Proofs.Source.Places
import ByteRecord.Proofs.Source.Spelling

/-! The tokenizer on texts that are spelt by tokens. What it does with the rest of a text is said from
the middle of a row on. -/
namespace ByteRecord.Source
open Text Lexical

theorem isPlain_of_opening? {opening : Opening} (opens : opening? (c :: rest) = some opening) :
    isPlain c := by
  have begins : (c == '\'' || c == '"' || ['b', 'r', 'u', 'f'].contains c.toLower) = true := by
    simpa only [Bool.or_eq_true, beq_iff_eq, List.contains_iff_mem, or_assoc] using
      first_of_opening? opens
  exact isPlain_of_all
    (p := fun c => c == '\'' || c == '"' || ['b', 'r', 'u', 'f'].contains c.toLower) begins

theorem pastBlanks_of_piece? (found : piece? row = some piece) :
    pastBlanks row = row ∧ (row.takeWhile isBlankInRow).length = 0 := by
  cases row with
  | nil => cases found
  | cons c rest =>
    have other : isBlankInRow c = false := by
      unfold piece? at found
      split at found
      case h_6 => cases found
      case h_7 same =>
        cases same
        cases opens : opening? (c :: rest) with
        | some opening => exact not_isBlankInRow_of_isPlain (isPlain_of_opening? opens)
        | none =>
          rw [opens] at found
          exact not_isBlankInRow_of_isPlain (isPlain_of_word? found)
      all_goals
        next same =>
          cases same
          rfl
    rw [pastBlanks_of_not other, List.takeWhile_cons_of_neg (by simp [other])]
    exact ⟨rfl, rfl⟩

section
variable {line column : Nat} {row : List Char} {progress : Progress}

theorem rowTokens_blank (blank : isBlankInRow c)
    (begun : pastBlanks row = [] ∨ piece? (pastBlanks row) ≠ none) :
    rowTokens line column 0 (c :: row) progress = rowTokens line (column + 1) 0 row progress := by
  have past := pastBlanks_cons blank row
  have width : ((c :: row).takeWhile isBlankInRow).length =
      (row.takeWhile isBlankInRow).length + 1 := by
    rw [List.takeWhile_cons_of_pos blank, List.length_cons]
  have place : column + ((c :: row).takeWhile isBlankInRow).length =
      column + 1 + (row.takeWhile isBlankInRow).length := by omega
  by_cases nothing : pastBlanks row = []
  · rw [rowTokens_end nothing, rowTokens_end (past.trans nothing)]
  · cases found : piece? (pastBlanks row) with
    | none => exact absurd found (begun.resolve_left nothing)
    | some piece =>
      cases piece with
      | token kind width =>
        rw [rowTokens_token found, rowTokens_token (past.symm ▸ found), past, place]
      | trivia width => rw [rowTokens_trivia found, rowTokens_trivia (past.symm ▸ found), past, place]
      | continuation => rw [rowTokens_continuation found, rowTokens_continuation (past.symm ▸ found)]
      | openString opening =>
        rw [rowTokens_openString found, rowTokens_openString (past.symm ▸ found), past, place]

end

/-- The tokens of the rest of a text that goes on at a location in the middle of a row. -/
def tokensAt (location : Location) (progress : Progress) (text : List Char) :
    Except TokenizeError (List Token) := do
  let (tokens, last) := rowTokens location.line location.column 0 (firstRow text) progress
  return tokens ++ (← tokensFrom (location.line + 1) last (laterRows text))

/-- Nothing is under way but a depth of brackets. -/
def settled (depth : Int) (indents : List Nat) : Progress :=
  ⟨depth, false, indents, none⟩

section
variable {location : Location} {depth : Int} {indents : List Nat}

theorem tokensAt_of_cons {token : Token} {behind : Location} {later : Progress} {rest : List Char}
    (row : rowTokens location.line location.column 0 (firstRow text) progress =
      let (tokens, last) := rowTokens behind.line behind.column 0 (firstRow rest) later
      (token :: tokens, last))
    (same_line : behind.line = location.line) (rows_left : laterRows text = laterRows rest)
    (scanned : tokensAt behind later rest = .ok tokens) :
    tokensAt location progress text = .ok (token :: tokens) := by
  rw [tokensAt, row, rows_left, ← same_line]
  rw [tokensAt] at scanned
  obtain ⟨others, found, made⟩ := bind_ok_iff.mp scanned
  cases made
  exact bind_ok_iff.mpr ⟨others, found, rfl⟩

theorem tokensAt_blank (between : c = ' ' ∨ c = '\t')
    (begun : pastBlanks (firstRow text) = [] ∨ piece? (pastBlanks (firstRow text)) ≠ none) :
    tokensAt location progress (c :: text) = tokensAt (location.after [c]) progress text := by
  have apart : c ≠ '\n' ∧ isBlankInRow c := by
    rcases between with rfl | rfl <;> decide
  have place : location.after [c] = ⟨location.line, location.column + 1⟩ :=
    Location.after_of_free location (by simpa using Ne.symm apart.1)
  obtain ⟨first, later⟩ := firstRow_cons apart.1 text
  rw [tokensAt, tokensAt, first, later, rowTokens_blank apart.2 begun, place]

theorem tokensAt_lineFeed (inside : depth ≠ 0) (something : text ≠ []) :
    tokensAt location (settled depth indents) ('\n' :: text) =
      tokensAt (location.after ['\n']) (settled depth indents) text := by
  have row : rowTokens location.line location.column 0 (firstRow ('\n' :: text))
      (settled depth indents) = ([], settled depth indents) := by
    have found : piece? (pastBlanks (firstRow ('\n' :: text))) = some (.trivia 1) := rfl
    rw [rowTokens_trivia found]
    exact rowTokens_end rfl
  have further : (depth == 0) = false := beq_eq_false_iff_ne.mpr inside
  rw [tokensAt, row]
  change _ = tokensAt ⟨location.line + 1, 0⟩ _ _
  rw [tokensAt]
  change (do return [] ++ (← tokensFrom (location.line + 1) (settled depth indents) (rows text))) = _
  rw [rows_eq_cons something, tokensFrom]
  simp only [settled, further, rowStep, Bool.and_false, Bool.false_and, Bool.false_eq_true, if_false]
  exact bind_pure _

theorem tokensAt_stray (within : c ≠ '\n') (something : pastBlanks (firstRow (c :: text)) ≠ [])
    (nothing : piece? (pastBlanks (firstRow (c :: text))) = none)
    (scanned : tokensAt (location.after [c]) progress text = .ok tokens) :
    tokensAt location progress (c :: text) =
      .ok (⟨.error, c.toString, location, location.after [c]⟩ :: tokens) := by
  have place : location.after [c] = ⟨location.line, location.column + 1⟩ :=
    Location.after_of_free location (by simpa using Ne.symm within)
  obtain ⟨first, later⟩ := firstRow_cons within text
  rw [first] at something nothing
  refine tokensAt_of_cons ?_ (by rw [place]) later scanned
  rw [first, rowTokens_stray something nothing, place]

end

/-- Words stand within a row. -/
theorem free_of_word (plain : opening? (word ++ text) = none)
    (longest : piece? (firstRow (word ++ text)) = some (.token kind word.length)) :
    '\n' ∉ word := by
  intro present
  obtain ⟨front, rest, rfl, free⟩ := List.eq_append_cons_of_mem present
  have row : firstRow (front ++ '\n' :: rest ++ text) = front ++ ['\n'] := by
    rw [List.append_assoc, (firstRow_append free _).1]
    rfl
  have plain_row := (opening?_firstRow _).trans plain
  rw [row] at longest plain_row
  obtain ⟨c, more, same, -, found⟩ := word?_of_piece? plain_row longest
  cases front with
  | nil => cases longest
  | cons first front =>
    obtain ⟨rfl, -⟩ := List.cons.inj same
    rw [word?_delimited (by decide)] at found
    have fits : (first :: front ++ '\n' :: rest).length ≤ (first :: front).length :=
      piece?.fits_word? found
    rw [List.length_append, List.length_cons (a := '\n')] at fits
    omega

section
variable {location : Location} {depth : Int} {indents : List Nat}

theorem tokensAt_token (free : '\n' ∉ word)
    (longest : piece? (word ++ firstRow text) = some (.token kind word.length))
    (scanned : tokensAt (location.after word)
      (settled (depthAfter kind (String.ofList word) depth) indents) text = .ok tokens) :
    tokensAt location (settled depth indents) (word ++ text) =
      .ok (⟨kind, String.ofList word, location, location.after word⟩ :: tokens) := by
  have place := Location.after_of_free location free
  obtain ⟨row, later⟩ := firstRow_append free text
  obtain ⟨past, no_blank⟩ := pastBlanks_of_piece? longest
  refine tokensAt_of_cons ?_ (by rw [place]) later scanned
  rw [row, rowTokens_token (past.symm ▸ longest), no_blank, past, List.take_left, List.drop_left,
    place]
  rfl

theorem tokensAt_word (plain : opening? (word ++ text) = none)
    (longest : piece? (firstRow (word ++ text)) = some (.token kind word.length))
    (scanned : tokensAt (location.after word)
      (settled (depthAfter kind (String.ofList word) depth) indents) text = .ok tokens) :
    tokensAt location (settled depth indents) (word ++ text) =
      .ok (⟨kind, String.ofList word, location, location.after word⟩ :: tokens) := by
  have free := free_of_word plain longest
  rw [(firstRow_append free text).1] at longest
  exact tokensAt_token free longest scanned

theorem rows_front (free : '\n' ∉ front) (rest : List Char) :
    rows (front ++ '\n' :: rest) = (front ++ ['\n']) :: rows rest := by
  rw [rows_eq_cons (by simp), (firstRow_append free _).1, (firstRow_append free _).2]
  rfl

theorem endsInContinuation_of_endsProtected (protected_ : endsProtected row = true) :
    endsInContinuation row = true := by
  have further {c : Char} {row : List Char} (later : endsInContinuation row = true) :
      endsInContinuation (c :: row) = true := by
    simp only [endsInContinuation, Bool.or_eq_true, List.isSuffixOf_iff_suffix] at later ⊢
    exact later.imp (·.trans (List.suffix_cons _ _)) (·.trans (List.suffix_cons _ _))
  fun_induction endsProtected row with
  | case1 => cases protected_
  | case2 => rfl
  | case3 => rfl
  | case4 c rest _ _ ih => exact further (further (ih protected_))
  | case5 c rest _ _ _ ih => exact further (ih protected_)

theorem closeWidth?_row {opening : Opening} (quoted : opening.quote ≠ '\\')
    (own : IsBody opening (row ++ rest)) (later : IsBody opening rest) :
    opening.closeWidth? row = none := by
  cases closes : opening.closeWidth? row with
  | none => rfl
  | some width =>
    have whole := own.closeWidth? quoted []
    rw [List.append_nil, closeWidth?_append quoted closes, List.length_append] at whole
    have within := closeWidth?_le closes
    cases rest with
    | nil => cases later
    | cons c rest =>
      rw [List.length_cons] at whole
      have := Option.some.inj whole
      omega

theorem tokensFrom_pending (line : Nat) (row : List Char) (more : List (List Char))
    (pending : OpenString) (progress : Progress) :
    tokensFrom line { progress with pending := some pending } (row :: more) =
      let (tokens, last) := stringRow line row pending { progress with pending := some pending }
      do return tokens ++ (← tokensFrom (line + 1) last more) := rfl

theorem tokensFrom_open {opening : Opening} (start : Location) (quoted : opening.quote ≠ '\\')
    (no_break : opening.quote ≠ '\n') (body done : List Char) (line : Nat)
    (own : IsBody opening body)
    (scanned : tokensAt (Location.after ⟨line, 0⟩ body) (settled depth indents) text =
      .ok tokens) :
    tokensFrom line { settled depth indents with pending := some ⟨start, done, opening⟩ }
      (rows (body ++ text)) =
      .ok (⟨.string, String.ofList (done ++ body), start, Location.after ⟨line, 0⟩ body⟩ ::
        tokens) := by
  induction size : body.length using Nat.strong_induction_on generalizing body done line with
  | _ length ih =>
    by_cases broken : '\n' ∈ body
    · -- the row is a part of the literal, which goes on behind it
      obtain ⟨front, rest, rfl, free⟩ := List.eq_append_cons_of_mem broken
      have parts : front ++ '\n' :: rest = (front ++ ['\n']) ++ rest := by simp
      obtain ⟨later, open_⟩ := (parts ▸ own).behind_lineFeed no_break (by simp)
      have unclosed := closeWidth?_row quoted (parts ▸ own) later
      have place : Location.after ⟨line, 0⟩ (front ++ '\n' :: rest) =
          Location.after ⟨line + 1, 0⟩ rest := by
        rw [Location.after_append, Location.after_of_free _ free]
        rfl
      rw [place] at scanned ⊢
      have shorter : rest.length < length := by
        rw [← size, List.length_append, List.length_cons]
        omega
      have next := ih _ shorter rest (done ++ (front ++ ['\n'])) (line + 1) later scanned rfl
      have stays : (!opening.triple && !endsInContinuation (front ++ ['\n'])) = false := by
        rcases open_ with three | protected_
        · rw [three]
          rfl
        · rw [endsInContinuation_of_endsProtected protected_, Bool.not_true, Bool.and_false]
      rw [List.append_assoc, List.cons_append, rows_front free, tokensFrom_pending, stringRow, unclosed]
      dsimp only
      rw [stays, if_neg Bool.false_ne_true]
      rw [List.append_assoc, ← parts] at next
      exact (bind_pure _).trans next
    · -- the literal ends in the row, and the row goes on behind it
      have something : body ++ text ≠ [] := by
        cases own <;> simp
      have place := Location.after_of_free ⟨line, 0⟩ broken
      obtain ⟨row, later⟩ := firstRow_append broken text
      rw [rows_eq_cons something, row, later, tokensFrom_pending, stringRow,
        own.closeWidth? quoted]
      simp only [List.take_left, List.drop_left]
      rw [place, Nat.zero_add] at scanned ⊢
      obtain ⟨others, found, made⟩ := bind_ok_iff.mp scanned
      cases made
      exact bind_ok_iff.mpr ⟨others, found, rfl⟩

theorem piece?_of_opening? {opening : Opening} (first : isPlain c)
    (opens : opening? (c :: rest) = some opening) :
    piece? (c :: rest) = match opening.closeWidth? ((c :: rest).drop opening.width) with
      | some close => some (.token .string (opening.width + close))
      | none =>
        if opening.triple || endsProtected ((c :: rest).drop opening.width) then
          some (.openString opening)
        else piece?.word? c (c :: rest) := by
  obtain ⟨_, _, _, _, _, _, _⟩ := isPlain_iff.mp first
  unfold piece?
  split
  case h_7 same =>
    cases same
    generalize opening? (c :: rest) = found at opens ⊢
    subst opens
    rfl
  all_goals simp_all

theorem of_literalWidth? (closed : literalWidth? (word ++ text) = some word.length) :
    ∃ opening, opening? (word ++ text) = some opening ∧ opening.width ≤ word.length ∧
      IsBody opening (word.drop opening.width) := by
  obtain ⟨opening, opens, closed⟩ := Option.bind_eq_some_iff.mp closed
  obtain ⟨close, closes, size⟩ := Option.bind_eq_some_iff.mp closed
  have size : opening.width + close = word.length := Option.some.inj size
  have within : opening.width ≤ word.length := by omega
  refine ⟨opening, opens, within, (isBody_iff (quote_ne_backslash opens) text).mp ?_⟩
  rw [← List.drop_append_of_le_length within, closes, List.length_drop]
  congr 1
  omega

theorem piece?_literal {opening : Opening} (opens : opening? (word ++ row) = some opening)
    (within : opening.width ≤ word.length) (own : IsBody opening (word.drop opening.width)) :
    piece? (word ++ row) = some (.token .string word.length) := by
  have body : (word ++ row).drop opening.width = word.drop opening.width ++ row :=
    List.drop_append_of_le_length within
  have closes := own.closeWidth? (quote_ne_backslash opens) row
  rw [← body, List.length_drop] at closes
  cases whole : word ++ row with
  | nil =>
    rw [whole] at opens
    cases opens
  | cons first rest =>
    rw [whole] at opens closes
    rw [piece?_of_opening? (isPlain_of_opening? opens) opens, closes]
    dsimp only
    rw [Nat.add_sub_cancel' within]

theorem piece?_openLiteral {opening : Opening} (opens : opening? front = some opening)
    (own : IsBody opening (front.drop opening.width ++ '\n' :: rest)) :
    piece? (front ++ ['\n']) = some (.openString opening) ∧ IsBody opening rest := by
  have within := width_opening? opens
  have quoted := quote_ne_backslash opens
  have body : (front ++ ['\n']).drop opening.width = front.drop opening.width ++ ['\n'] :=
    List.drop_append_of_le_length within
  have parts : front.drop opening.width ++ '\n' :: rest =
      (front.drop opening.width ++ ['\n']) ++ rest := by simp
  rw [parts, ← body] at own
  obtain ⟨later, open_⟩ := own.behind_lineFeed (quote_ne_lineFeed opens) (by rw [body]; simp)
  refine ⟨?_, later⟩
  cases front with
  | nil => cases opens
  | cons first front =>
    have row_opens : opening? (first :: front ++ ['\n']) = some opening :=
      (opening?_delimited (by decide) _ _ (List.cons_ne_nil _ _)).trans opens
    rw [List.cons_append] at row_opens
    rw [List.cons_append, piece?_of_opening? (isPlain_of_opening? opens) row_opens,
      ← List.cons_append, closeWidth?_row quoted own later]
    exact if_pos (Bool.or_eq_true_iff.mpr open_)

/-- How the first row begins a literal: with all of it, or with what stands before a line feed. -/
theorem firstRow_literal (closed : literalWidth? (word ++ text) = some word.length) :
    ('\n' ∉ word ∧ piece? (word ++ firstRow text) = some (.token .string word.length)) ∨
      ∃ front rest opening, word = front ++ '\n' :: rest ∧ '\n' ∉ front ∧
        opening? front = some opening ∧ piece? (front ++ ['\n']) = some (.openString opening) ∧
        IsBody opening rest := by
  obtain ⟨opening, opens, within, own⟩ := of_literalWidth? closed
  have row_opens := (opening?_firstRow _).trans opens
  by_cases broken : '\n' ∈ word
  · right
    have line_feed : isDelimiter '\n' := by decide
    obtain ⟨front, rest, rfl, free⟩ := List.eq_append_cons_of_mem broken
    rw [List.append_assoc, (firstRow_append free _).1] at row_opens
    change opening? (front ++ ['\n']) = some opening at row_opens
    have something : front ≠ [] := by
      rintro rfl
      rw [List.nil_append, opening?_eq_none line_feed] at row_opens
      cases row_opens
    rw [opening?_delimited line_feed _ _ something] at row_opens
    rw [List.drop_append_of_le_length (width_opening? row_opens)] at own
    obtain ⟨found, later⟩ := piece?_openLiteral row_opens own
    exact ⟨front, rest, opening, rfl, free, row_opens, found, later⟩
  · left
    rw [(firstRow_append broken text).1] at row_opens
    exact ⟨broken, piece?_literal row_opens within own⟩

theorem tokensAt_literal (closed : literalWidth? (word ++ text) = some word.length)
    (scanned : tokensAt (location.after word) (settled depth indents) text = .ok tokens) :
    tokensAt location (settled depth indents) (word ++ text) =
      .ok (⟨.string, String.ofList word, location, location.after word⟩ :: tokens) := by
  rcases firstRow_literal closed with
    ⟨free, longest⟩ | ⟨front, rest, opening, rfl, free, opens, found, own⟩
  · exact tokensAt_token free longest scanned
  · obtain ⟨past, no_blank⟩ := pastBlanks_of_piece? found
    have row : firstRow (front ++ '\n' :: rest ++ text) = front ++ ['\n'] ∧
        laterRows (front ++ '\n' :: rest ++ text) = rows (rest ++ text) := by
      rw [List.append_assoc, (firstRow_append free _).1, (firstRow_append free _).2]
      exact ⟨rfl, rfl⟩
    have place : location.after (front ++ '\n' :: rest) =
        Location.after ⟨location.line + 1, 0⟩ rest := by
      rw [Location.after_append, Location.after_of_free _ free]
      rfl
    have whole : front ++ ['\n'] ++ rest = front ++ '\n' :: rest := by simp
    rw [place] at scanned ⊢
    have next := tokensFrom_open location (quote_ne_backslash opens)
      (quote_ne_lineFeed opens) rest (front ++ ['\n']) (location.line + 1) own scanned
    rw [whole] at next
    rw [tokensAt, row.1, row.2, rowTokens_openString (past.symm ▸ found), no_blank, past]
    exact (bind_pure _).trans next

/-- Whether a piece comes first behind blanks is what the first argument says. -/
theorem pastBlanks_of_spells (spells : Spells begun location depth text tokens) :
    (begun = true → pastBlanks (firstRow text) = [] ∨ piece? (pastBlanks (firstRow text)) ≠ none) ∧
      (begun = false →
        pastBlanks (firstRow text) ≠ [] ∧ piece? (pastBlanks (firstRow text)) = none) := by
  have of_blank {c : Char} (between : c = ' ' ∨ c = '\t') (text : List Char) :
      pastBlanks (firstRow (c :: text)) = pastBlanks (firstRow text) := by
    have apart : c ≠ '\n' ∧ isBlankInRow c := by
      rcases between with rfl | rfl <;> decide
    rw [(firstRow_cons apart.1 text).1, pastBlanks_cons apart.2]
  have of_piece {text : List Char} {piece : Piece} (found : piece? (firstRow text) = some piece) :
      piece? (pastBlanks (firstRow text)) ≠ none := by
    rw [(pastBlanks_of_piece? found).1, found]
    nofun
  induction spells with
  | nil => exact ⟨fun _ => .inl rfl, nofun⟩
  | @blank _ _ text _ _ between _ ih =>
    rw [of_blank between text]
    exact ih
  | lineFeed => exact ⟨fun _ => .inr nofun, nofun⟩
  | word _ longest => exact ⟨fun _ => .inr (of_piece longest), nofun⟩
  | literal closed =>
    refine ⟨fun _ => .inr ?_, nofun⟩
    rcases firstRow_literal closed with
      ⟨free, longest⟩ | ⟨front, rest, opening, rfl, free, opens, found, own⟩
    · rw [← (firstRow_append free _).1] at longest
      exact of_piece longest
    · have row (behind : List Char) :
          firstRow (front ++ '\n' :: rest ++ behind) = front ++ ['\n'] := by
        rw [List.append_assoc, (firstRow_append free _).1]
        rfl
      exact of_piece ((congrArg piece? (row _)).trans found)
  | @stray c text _ _ _ _ first _ nothing =>
    refine ⟨nofun, fun _ => ?_⟩
    have row := (firstRow_cons (isPlain_iff.mp first).2.2.1 text).1
    rw [row, pastBlanks_of_not (not_isBlankInRow_of_isPlain first), ← row]
    exact ⟨by rw [row]; nofun, nothing⟩
  | @strayBlank _ _ text _ _ between _ ih =>
    rw [of_blank between text]
    exact ih

theorem Spells.eq_nil (spells : Spells begun location depth text tokens) (empty : text = []) :
    tokens = [] := by
  cases spells with
  | nil => rfl
  | word _ longest =>
    rw [empty] at longest
    cases longest
  | literal closed =>
    rw [empty] at closed
    cases closed
  | _ => cases empty

/-- A text that tokens spell is cut into these tokens, if no bracket is left open. -/
theorem tokensAt_of_spells (indents : List Nat)
    (spells : Spells begun location depth text tokens) (closed : depthOver depth tokens = 0) :
    ∃ stop, stop.kind = .finish ∧
      tokensAt location (settled depth indents) text = .ok (tokens ++ [stop]) := by
  induction spells with
  | @nil location depth =>
    obtain rfl : depth = 0 := closed
    exact ⟨_, rfl, rfl⟩
  | @blank _ _ _ _ _ between rest ih =>
    obtain ⟨stop, last, scanned⟩ := ih closed
    exact ⟨stop, last, (tokensAt_blank between ((pastBlanks_of_spells rest).1 rfl)).trans scanned⟩
  | @lineFeed _ text tokens _ _ inside rest ih =>
    obtain ⟨stop, last, scanned⟩ := ih closed
    refine ⟨stop, last, (tokensAt_lineFeed inside ?_).trans scanned⟩
    rintro rfl
    rw [rest.eq_nil rfl] at closed
    exact inside closed
  | word plain longest _ ih =>
    obtain ⟨stop, last, scanned⟩ := ih closed
    exact ⟨stop, last, tokensAt_word plain longest scanned⟩
  | literal own _ ih =>
    obtain ⟨stop, last, scanned⟩ := ih closed
    exact ⟨stop, last, tokensAt_literal own scanned⟩
  | stray first plain nothing rest ih =>
    obtain ⟨stop, last, scanned⟩ := ih closed
    obtain ⟨something, none_begins⟩ :=
      (pastBlanks_of_spells (.stray first plain nothing rest)).2 rfl
    exact ⟨stop, last,
      tokensAt_stray (isPlain_iff.mp first).2.2.1 something none_begins scanned⟩
  | strayBlank between rest ih =>
    obtain ⟨stop, last, scanned⟩ := ih closed
    obtain ⟨something, none_begins⟩ := (pastBlanks_of_spells (.strayBlank between rest)).2 rfl
    refine ⟨stop, last, tokensAt_stray ?_ something none_begins scanned⟩
    rcases between with rfl | rfl <;> decide

end

/-- A text that tokens spell from its first character on is cut into these tokens. -/
theorem tokenize_of_spells (spells : Spells begun ⟨1, 0⟩ 0 (first :: text) tokens)
    (begins : isPlain first) (closed : depthOver 0 tokens = 0) :
    ∃ stop, stop.kind = .finish ∧ tokenize (first :: text) = .ok (tokens ++ [stop]) := by
  obtain ⟨stop, last, scanned⟩ := tokensAt_of_spells [] spells closed
  obtain ⟨_, no_comment, no_break, no_return, _⟩ := isPlain_iff.mp begins
  have other := not_isBlankInRow_of_isPlain begins
  have row := (firstRow_cons no_break text).1
  have statement : rowStep 1 (firstRow (first :: text)) .initial =
      .ok (rowTokens 1 0 0 (firstRow (first :: text)) (settled 0 [])) := by
    have no_blanks : (firstRow (first :: text)).takeWhile isBlankInRow = [] := by
      rw [row, List.takeWhile_cons_of_neg (by simp [other])]
    change statementRow 1 _ .initial = _
    rw [statementRow, no_blanks]
    dsimp only [List.length_nil, List.drop_zero]
    rw [row]
    split
    · next same => cases same
    · next same => exact absurd (List.cons.inj same).1 no_comment
    · next same => exact absurd (List.cons.inj same).1 no_return
    · next same => exact absurd (List.cons.inj same).1 no_break
    · rfl
  have some_piece : (firstRow (first :: text)).all isBlankInRow = false := by
    rw [row, List.all_cons, other]
    rfl
  refine ⟨stop, last, ?_⟩
  rw [tokenize, rows_eq_cons (List.cons_ne_nil _ _), tokensFrom, some_piece, statement]
  rw [tokensAt] at scanned
  exact scanned

theorem Location.after_line (line column : Nat) (text : List Char) :
    Location.after ⟨line + 1, column⟩ text =
      ⟨(Location.after ⟨line, column⟩ text).line + 1, (Location.after ⟨line, column⟩ text).column⟩ := by
  induction text generalizing line column with
  | nil => rfl
  | cons c rest ih =>
    rw [after, after]
    split
    · exact ih _ _
    · exact ih _ _

theorem Location.line_le_after (location : Location) (text : List Char) :
    location.line ≤ (location.after text).line := by
  induction text generalizing location with
  | nil => exact Nat.le_refl _
  | cons c rest ih =>
    rw [after]
    split
    · exact Nat.le_of_succ_le (ih ⟨location.line + 1, 0⟩)
    · exact ih ⟨location.line, location.column + 1⟩

theorem position_after (front rest : List Char) :
    position (rows (front ++ rest)) (Location.after ⟨1, 0⟩ front) = front.length := by
  induction size : front.length using Nat.strong_induction_on generalizing front with
  | _ length ih =>
    rcases exists_row front with free | ⟨row, later, free, rfl⟩
    · rw [Location.after_of_free _ free, position, ← size]
      simp
    · have behind := ih later.length (by simp [← size]; omega) later rfl
      have one_le := Location.line_le_after ⟨1, 0⟩ later
      rw [Location.after_append, Location.after_of_free _ free, List.append_assoc, List.cons_append,
        rows_front free]
      change position _ (Location.after ⟨1 + 1, 0⟩ later) = _
      rw [Location.after_line, position]
      rw [position] at behind
      obtain ⟨line, same⟩ := Nat.exists_eq_succ_of_ne_zero (Nat.pos_iff_ne_zero.mp one_le)
      rw [same] at behind ⊢
      change (((row ++ ['\n']) :: rows (later ++ rest)).take (line + 1)).flatten.length + _ = _
      rw [Nat.succ_sub_one] at behind
      rw [List.take_succ_cons, List.flatten_cons, ← size]
      simp only [List.length_append, List.length_cons, List.length_nil]
      omega

end ByteRecord.Source
