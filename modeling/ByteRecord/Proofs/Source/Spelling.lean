import ByteRecord.Proofs.Lexical.Delimiters
import ByteRecord.Source.Tokenizer
import ByteRecord.Proofs.Source.LineStarts

/-! Texts that tokens spell. Tokens with blanks and line feeds between them are looked at one by one,
each in front of all the text behind it, so that texts can be put together from pieces. -/
namespace ByteRecord.Source
open Text Lexical

/-- The location behind a text that starts at a location. -/
def Location.after (location : Location) : List Char → Location
  | [] => location
  | c :: rest =>
    Location.after (if c == '\n' then ⟨location.line + 1, 0⟩
      else ⟨location.line, location.column + 1⟩) rest

theorem Location.after_append (location : Location) (front rest : List Char) :
    location.after (front ++ rest) = (location.after front).after rest := by
  induction front generalizing location with
  | nil => rfl
  | cons c front ih => exact ih _

theorem Location.after_of_free (location : Location) (free : '\n' ∉ text) :
    location.after text = ⟨location.line, location.column + text.length⟩ := by
  induction text generalizing location with
  | nil => rfl
  | cons c rest ih =>
    obtain ⟨other, free⟩ := not_or.mp (List.mem_cons.not.mp free)
    rw [after, if_neg (by simpa using Ne.symm other), ih _ free, List.length_cons, Nat.add_assoc,
      Nat.add_comm 1]

/-- The text up to and with its first line feed. -/
def firstRow (text : List Char) : List Char :=
  (rows text).headD []

def laterRows (text : List Char) : List (List Char) :=
  (rows text).tail

theorem rows_eq_cons (something : text ≠ []) : rows text = firstRow text :: laterRows text := by
  unfold firstRow laterRows
  cases split : rows text with
  | nil => exact absurd ((flatten_rows text).symm.trans (congrArg List.flatten split)) something
  | cons row more => rfl

theorem firstRow_cons (other : c ≠ '\n') (rest : List Char) :
    firstRow (c :: rest) = c :: firstRow rest ∧ laterRows (c :: rest) = laterRows rest := by
  have no_break : ¬(c == '\n') = true := by simpa using other
  unfold firstRow laterRows
  rw [rows, if_neg no_break]
  cases rows rest with
  | nil => exact ⟨rfl, rfl⟩
  | cons row more => exact ⟨rfl, rfl⟩

theorem firstRow_append (free : '\n' ∉ front) (rest : List Char) :
    firstRow (front ++ rest) = front ++ firstRow rest ∧
      laterRows (front ++ rest) = laterRows rest := by
  induction front with
  | nil => exact ⟨rfl, rfl⟩
  | cons c front ih =>
    obtain ⟨other, free⟩ := not_or.mp (List.mem_cons.not.mp free)
    obtain ⟨first, later⟩ := firstRow_cons (Ne.symm other) (front ++ rest)
    obtain ⟨own, behind⟩ := ih free
    exact ⟨first.trans (congrArg (c :: ·) own), later.trans behind⟩

theorem firstRow_of_free (free : '\n' ∉ text) : firstRow text = text := by
  have whole := (firstRow_append free []).1
  rwa [List.append_nil, show firstRow [] = [] from rfl, List.append_nil] at whole

theorem exists_row (text : List Char) :
    '\n' ∉ text ∨ ∃ front rest, '\n' ∉ front ∧ text = front ++ '\n' :: rest := by
  by_cases present : '\n' ∈ text
  · obtain ⟨front, rest, rfl, free⟩ := List.eq_append_cons_of_mem present
    exact .inr ⟨front, rest, free, rfl⟩
  · exact .inl present

/-- What a delimiter adds to the first row of a text stands behind all that the text has there. -/
theorem firstRow_delimited (text behind : List Char) :
    firstRow (text ++ d :: behind) = firstRow text ∨
      ∃ more, firstRow (text ++ d :: behind) = firstRow text ++ d :: more := by
  rcases exists_row text with free | ⟨front, rest, free, rfl⟩
  · right
    have own : ∃ more, firstRow (d :: behind) = d :: more := by
      by_cases break_ : d = '\n'
      · subst break_
        exact ⟨_, rfl⟩
      · exact ⟨_, (firstRow_cons break_ behind).1⟩
    obtain ⟨more, own⟩ := own
    exact ⟨more, by rw [(firstRow_append free _).1, own, firstRow_of_free free]⟩
  · left
    rw [List.append_assoc, (firstRow_append free _).1, (firstRow_append free _).1]
    rfl

theorem opening?_firstRow (text : List Char) : opening? (firstRow text) = opening? text := by
  have line_feed : isDelimiter '\n' := by decide
  rcases exists_row text with free | ⟨front, rest, free, rfl⟩
  · rw [firstRow_of_free free]
  · rw [(firstRow_append free _).1]
    by_cases something : front = []
    · rw [something, List.nil_append, List.nil_append, opening?_eq_none line_feed]
      exact opening?_eq_none line_feed []
    · rw [opening?_delimited line_feed _ _ something]
      exact opening?_delimited line_feed _ _ something

/-- No blank, and nothing that a comment, a line break or a protected one begins with. -/
def isPlain (c : Char) : Bool :=
  !(['\\', '#', '\n', '\r', ' ', '\t', '\x0c'].contains c)

theorem isPlain_iff : isPlain c ↔
    c ≠ '\\' ∧ c ≠ '#' ∧ c ≠ '\n' ∧ c ≠ '\r' ∧ c ≠ ' ' ∧ c ≠ '\t' ∧ c ≠ '\x0c' := by
  simp [isPlain]

theorem isPlain_of_all {p : Char → Bool} (own : p c = true)
    (none : ['\\', '#', '\n', '\r', ' ', '\t', '\x0c'].all (!p ·) = true := by decide) :
    isPlain c := by
  by_contra special
  have present : c ∈ ['\\', '#', '\n', '\r', ' ', '\t', '\x0c'] := by
    simpa only [isPlain, Bool.not_eq_true', Bool.not_eq_false, List.contains_iff_mem] using special
  simpa [own] using List.all_eq_true.mp none c present

theorem not_isBlankInRow_of_isPlain (plain : isPlain c) : isBlankInRow c = false := by
  obtain ⟨-, -, -, -, no_space, no_tab, no_feed⟩ := isPlain_iff.mp plain
  rw [Bool.eq_false_iff]
  intro blank
  simp only [isBlankInRow, Bool.or_eq_true, beq_iff_eq] at blank
  rcases blank with (same | same) | same
  · exact no_space same
  · exact no_tab same
  · exact no_feed (Char.toNat_inj.mp same)

theorem piece?_of_isPlain (first : isPlain c) (plain : opening? (c :: rest) = none) :
    piece? (c :: rest) = piece?.word? c (c :: rest) := by
  obtain ⟨_, _, _, _, _, _, _⟩ := isPlain_iff.mp first
  unfold piece?
  split
  all_goals simp_all

theorem word?_eq_none (no_digit : isAsciiDigit c = false) (no_point : c ≠ '.')
    (no_operator : beginsOperator c = false) (no_word : isWord c = false) (rest : List Char) :
    piece?.word? c (c :: rest) = none := by
  have word : (c :: rest).takeWhile isWord = [] := List.takeWhile_cons_of_neg (by simp [no_word])
  simp only [piece?.word?, numberWidth_eq_zero no_digit no_point,
    operatorWidth_eq_zero no_operator, word]
  rfl

theorem isPlain_of_word? (found : piece?.word? c (c :: rest) = some piece) : isPlain c := by
  have begins : (isAsciiDigit c || c == '.' || beginsOperator c || isWord c) = true := by
    by_contra nothing
    simp only [Bool.or_eq_true, not_or, Bool.not_eq_true, beq_eq_false_iff_ne] at nothing
    obtain ⟨⟨⟨no_digit, no_point⟩, no_operator⟩, no_word⟩ := nothing
    rw [word?_eq_none no_digit no_point no_operator no_word] at found
    cases found
  exact isPlain_of_all (p := fun c => isAsciiDigit c || c == '.' || beginsOperator c || isWord c)
    begins

theorem word?_of_piece? (plain : opening? row = none)
    (found : piece? row = some (.token kind width)) :
    ∃ c rest, row = c :: rest ∧ isPlain c ∧ piece?.word? c row = some (.token kind width) := by
  unfold piece? at found
  split at found
  any_goals cases found
  rw [plain] at found
  exact ⟨_, _, rfl, isPlain_of_word? found, found⟩

theorem word?_delimited (delimiter : isDelimiter d) (rest behind : List Char) :
    piece?.word? c (c :: rest ++ d :: behind) = piece?.word? c (c :: rest) := by
  simp only [piece?.word?, numberWidth_delimited delimiter, takeWhile_isWord_delimited delimiter,
    operatorWidth_delimited delimiter _ _ (List.cons_ne_nil c rest)]

theorem piece?_token_delimited (delimiter : isDelimiter d) (plain : opening? row = none)
    (found : piece? row = some (.token kind width)) (behind : List Char) :
    piece? (row ++ d :: behind) = some (.token kind width) := by
  obtain ⟨c, rest, rfl, first, word⟩ := word?_of_piece? plain found
  have still := opening?_delimited delimiter (c :: rest) behind (List.cons_ne_nil c rest)
  rw [List.cons_append] at still ⊢
  rw [piece?_of_isPlain first (still.trans plain)]
  exact (word?_delimited delimiter rest behind).trans word

theorem piece?_none_delimited (delimiter : isDelimiter d) (first : isPlain c)
    (plain : opening? (c :: rest) = none) (nothing : piece? (c :: rest) = none)
    (behind : List Char) : piece? (c :: rest ++ d :: behind) = none := by
  have still := opening?_delimited delimiter (c :: rest) behind (List.cons_ne_nil c rest)
  rw [piece?_of_isPlain first plain] at nothing
  rw [List.cons_append] at still ⊢
  rw [piece?_of_isPlain first (still.trans plain)]
  exact (word?_delimited delimiter rest behind).trans nothing

/-- Tokens with blanks and line feeds between them spell a text from a location on, at a depth of
brackets. A word is a token that is no string literal. A character that begins no token is an error
token, as is each blank right before one; such blanks or such a character come first where the first
argument is false. Comments and line breaks outside brackets are spelt by nothing. -/
inductive Spells : (begun : Bool) → Location → Int → List Char → List Token → Prop
  | nil : Spells true location depth [] []
  | blank (between : c = ' ' ∨ c = '\t')
      (rest : Spells true (location.after [c]) depth text tokens) :
    Spells true location depth (c :: text) tokens
  | lineFeed (inside : depth ≠ 0)
      (rest : Spells begun (location.after ['\n']) depth text tokens) :
    Spells true location depth ('\n' :: text) tokens
  | word (plain : opening? (word ++ text) = none)
      (longest : piece? (firstRow (word ++ text)) = some (.token kind word.length))
      (rest : Spells begun (location.after word) (depthAfter kind (String.ofList word) depth) text
        tokens) :
    Spells true location depth (word ++ text)
      (⟨kind, String.ofList word, location, location.after word⟩ :: tokens)
  | literal (closed : literalWidth? (word ++ text) = some word.length)
      (rest : Spells begun (location.after word) depth text tokens) :
    Spells true location depth (word ++ text)
      (⟨.string, String.ofList word, location, location.after word⟩ :: tokens)
  | stray (first : isPlain c) (plain : opening? (c :: text) = none)
      (nothing : piece? (firstRow (c :: text)) = none)
      (rest : Spells begun (location.after [c]) depth text tokens) :
    Spells false location depth (c :: text)
      (⟨.error, c.toString, location, location.after [c]⟩ :: tokens)
  | strayBlank (between : c = ' ' ∨ c = '\t')
      (rest : Spells false (location.after [c]) depth text tokens) :
    Spells false location depth (c :: text)
      (⟨.error, c.toString, location, location.after [c]⟩ :: tokens)

/-- The depth behind some tokens. -/
def depthOver (depth : Int) (tokens : List Token) : Int :=
  tokens.foldl (fun depth token => depthAfter token.kind token.text depth) depth

/-- A text that nothing can run into: it is empty or begins with a delimiter. -/
def IsDelimited (text : List Char) : Prop :=
  ∀ c ∈ text.head?, isDelimiter c

/-- Blanks and line feeds. -/
def IsGap (text : List Char) : Prop :=
  ∀ c ∈ text, c = ' ' ∨ c = '\t' ∨ c = '\n'

theorem IsGap.tail (gap : IsGap (c :: rest)) : IsGap rest :=
  fun d present => gap d (List.mem_cons_of_mem c present)

namespace Spells

theorem piece?_append (delimited : IsDelimited next) (plain : opening? text = none)
    (found : piece? (firstRow text) = some (.token kind width)) :
    piece? (firstRow (text ++ next)) = some (.token kind width) := by
  cases next with
  | nil => rwa [List.append_nil]
  | cons d behind =>
    rcases firstRow_delimited text behind with same | ⟨more, longer⟩
    · rwa [same]
    · rw [longer]
      exact piece?_token_delimited (delimited d rfl) ((opening?_firstRow text).trans plain) found _

theorem opening?_append (delimited : IsDelimited next) (something : text ≠ []) :
    opening? (text ++ next) = opening? text := by
  cases next with
  | nil => rw [List.append_nil]
  | cons d behind => exact opening?_delimited (delimited d rfl) _ _ something

theorem literalWidth?_append (delimited : IsDelimited next)
    (closed : literalWidth? text = some width) : literalWidth? (text ++ next) = some width := by
  cases next with
  | nil => rwa [List.append_nil]
  | cons d behind => exact literalWidth?_delimited (delimited d rfl) closed behind

theorem piece?_none_append (delimited : IsDelimited next) (first : isPlain c)
    (plain : opening? (c :: text) = none) (nothing : piece? (firstRow (c :: text)) = none) :
    piece? (firstRow (c :: text ++ next)) = none := by
  have row := (firstRow_cons (isPlain_iff.mp first).2.2.1 text).1
  cases next with
  | nil => rwa [List.append_nil]
  | cons d behind =>
    rcases firstRow_delimited (c :: text) behind with same | ⟨more, longer⟩
    · rwa [same]
    · have plain' := (opening?_firstRow (c :: text)).trans plain
      rw [row] at plain' nothing
      rw [longer, row]
      exact piece?_none_delimited (delimited d rfl) first plain' nothing _

theorem ne_nil_of_piece? (found : piece? (firstRow text) = some piece) : text ≠ [] := by
  rintro rfl
  cases found

/-- Texts that are spelt one behind the other are spelt together, if nothing runs into the
second. -/
theorem append (first : Spells begun location depth text tokens)
    (second : Spells true (location.after text) (depthOver depth tokens) next more)
    (delimited : IsDelimited next) :
    Spells begun location depth (text ++ next) (tokens ++ more) := by
  induction first with
  | nil => exact second
  | blank between _ ih => exact .blank between (ih second)
  | lineFeed inside _ ih => exact .lineFeed inside (ih second)
  | @word word text _ _ location _ _ plain longest _ ih =>
    rw [Location.after_append] at second
    have longest' := piece?_append delimited plain longest
    have plain' := (opening?_append delimited (ne_nil_of_piece? longest)).trans plain
    rw [List.append_assoc] at longest' plain' ⊢
    exact .word plain' longest' (ih second)
  | @literal word text _ location _ _ closed _ ih =>
    rw [Location.after_append] at second
    have closed' := literalWidth?_append delimited closed
    rw [List.append_assoc] at closed' ⊢
    exact .literal closed' (ih second)
  | @stray c text _ _ _ _ first plain nothing _ ih =>
    have plain' := (opening?_append delimited (List.cons_ne_nil c text)).trans plain
    exact .stray first plain' (piece?_none_append delimited first plain nothing) (ih second)
  | strayBlank between _ ih => exact .strayBlank between (ih second)

/-- Tokens that spell a text spell it wherever it stands. -/
theorem moved (spells : Spells begun location depth text tokens) (other : Location) :
    ∃ others, Spells begun other depth text others ∧
      others.map (fun token => (token.kind, token.text)) =
        tokens.map (fun token => (token.kind, token.text)) := by
  induction spells generalizing other with
  | nil => exact ⟨[], .nil, rfl⟩
  | blank between _ ih =>
    obtain ⟨others, rest, same⟩ := ih (other.after _)
    exact ⟨others, .blank between rest, same⟩
  | lineFeed inside _ ih =>
    obtain ⟨others, rest, same⟩ := ih (other.after _)
    exact ⟨others, .lineFeed inside rest, same⟩
  | word plain longest _ ih =>
    obtain ⟨others, rest, same⟩ := ih (other.after _)
    exact ⟨_ :: others, .word plain longest rest, congrArg (_ :: ·) same⟩
  | literal closed _ ih =>
    obtain ⟨others, rest, same⟩ := ih (other.after _)
    exact ⟨_ :: others, .literal closed rest, congrArg (_ :: ·) same⟩
  | stray first plain nothing _ ih =>
    obtain ⟨others, rest, same⟩ := ih (other.after _)
    exact ⟨_ :: others, .stray first plain nothing rest, congrArg (_ :: ·) same⟩
  | strayBlank between _ ih =>
    obtain ⟨others, rest, same⟩ := ih (other.after _)
    exact ⟨_ :: others, .strayBlank between rest, congrArg (_ :: ·) same⟩

/-- The first token stands where the text starts, if the text does not start with a blank. -/
theorem first_start (spells : Spells begun location depth text (first :: rest))
    (begins : ∀ c ∈ text.head?, c ≠ ' ' ∧ c ≠ '\t' ∧ c ≠ '\n') : first.start = location := by
  cases spells with
  | blank between _ =>
    obtain ⟨no_space, no_tab, -⟩ := begins _ rfl
    rcases between with rfl | rfl
    · exact absurd rfl no_space
    · exact absurd rfl no_tab
  | lineFeed => exact absurd rfl (begins _ rfl).2.2
  | word => rfl
  | literal => rfl
  | stray => rfl
  | strayBlank => rfl

/-- Blanks and line feeds may stand before a text that begins with a token. -/
theorem behind_gap (own : IsGap gap) (inside : depth ≠ 0)
    (rest : Spells true (location.after gap) depth text tokens) :
    Spells true location depth (gap ++ text) tokens := by
  induction gap generalizing location with
  | nil => exact rest
  | cons c gap ih =>
    have later := ih own.tail rest
    rcases own c List.mem_cons_self with rfl | rfl | rfl
    · exact .blank (.inl rfl) later
    · exact .blank (.inr rfl) later
    · exact .lineFeed inside later

/-- Behind the last token stand blanks and line feeds only. -/
theorem exists_last (spells : Spells begun location depth text tokens) :
    ∃ front gap, text = front ++ gap ∧ IsGap gap ∧ (tokens = [] → front = []) ∧
      ∀ last ∈ tokens.getLast?, last.stop = location.after front := by
  -- a token takes the part of the text up to the last token behind it, or up to itself
  have behind {word text : List Char} {token : Token} {tokens : List Token} {location : Location}
      (stop : token.stop = location.after word)
      (later : ∃ front gap, text = front ++ gap ∧ IsGap gap ∧ (tokens = [] → front = []) ∧
        ∀ last ∈ tokens.getLast?, last.stop = (location.after word).after front) :
      ∃ front gap, word ++ text = front ++ gap ∧ IsGap gap ∧ (token :: tokens = [] → front = []) ∧
        ∀ last ∈ (token :: tokens).getLast?, last.stop = location.after front := by
    obtain ⟨front, gap, rfl, own, empty, last⟩ := later
    refine ⟨word ++ front, gap, (List.append_assoc _ _ _).symm, own, nofun, ?_⟩
    rw [Location.after_append]
    cases tokens with
    | nil =>
      rintro _ ⟨⟩
      rw [empty rfl]
      exact stop
    | cons second tokens =>
      rw [List.getLast?_cons_cons]
      exact last
  -- a blank joins those behind the last token, if there is none
  have beside {c : Char} {text : List Char} {tokens : List Token} {location : Location}
      (between : c = ' ' ∨ c = '\t' ∨ c = '\n')
      (later : ∃ front gap, text = front ++ gap ∧ IsGap gap ∧ (tokens = [] → front = []) ∧
        ∀ last ∈ tokens.getLast?, last.stop = (location.after [c]).after front) :
      ∃ front gap, c :: text = front ++ gap ∧ IsGap gap ∧ (tokens = [] → front = []) ∧
        ∀ last ∈ tokens.getLast?, last.stop = location.after front := by
    obtain ⟨front, gap, rfl, own, empty, last⟩ := later
    cases tokens with
    | nil =>
      rw [empty rfl]
      exact ⟨[], c :: gap, rfl, List.forall_mem_cons.mpr ⟨between, own⟩, fun _ => rfl, nofun⟩
    | cons token tokens => exact ⟨c :: front, gap, rfl, own, nofun, last⟩
  induction spells with
  | nil => exact ⟨[], [], rfl, nofun, fun _ => rfl, nofun⟩
  | blank between _ ih => exact beside (between.imp_right .inl) ih
  | lineFeed _ _ ih => exact beside (.inr (.inr rfl)) ih
  | word _ _ _ ih => exact behind rfl ih
  | literal _ _ ih => exact behind rfl ih
  | stray _ _ _ _ ih => exact behind (show _ = Location.after _ [_] from rfl) ih
  | strayBlank _ _ ih => exact behind (show _ = Location.after _ [_] from rfl) ih

/-- The last token ends where the text does, if the text does not end with a blank. -/
theorem last_stop (spells : Spells begun location depth text tokens)
    (ends : ∀ c ∈ text.getLast?, c ≠ ' ' ∧ c ≠ '\t' ∧ c ≠ '\n') :
    ∀ last ∈ tokens.getLast?, last.stop = location.after text := by
  obtain ⟨front, gap, rfl, own, -, last⟩ := spells.exists_last
  have none_behind : gap = [] := by
    by_contra some_gap
    obtain ⟨before, c, rfl⟩ := List.eq_nil_or_concat gap |>.resolve_left some_gap
    have apart := ends c (by simp)
    have blank := own c (by simp)
    grind
  rwa [none_behind, List.append_nil]

end Spells
end ByteRecord.Source
