import Mathlib.Data.List.TakeWhile
import ByteRecord.Number.Decimal
import ByteRecord.Proofs.Source.Spelling

/-! Single tokens in front of a text: marks, names, numbers and texts in double quotes. -/
namespace ByteRecord.Source
open Text Lexical

/-- The token that a word is where it stands. -/
def tokenAt (location : Location) (kind : TokenKind) (word : List Char) : Token :=
  ⟨kind, String.ofList word, location, location.after word⟩

theorem head?_firstRow (text : List Char) : (firstRow text).head? = text.head? := by
  cases text with
  | nil => rfl
  | cons c rest =>
    by_cases break_ : c = '\n'
    · subst break_
      rfl
    · rw [(firstRow_cons break_ rest).1]
      rfl

theorem opening?_eq_none_of_first (plain : c ≠ '\'' ∧ c ≠ '"' ∧ c.toLower ∉ ['b', 'r', 'u', 'f'])
    (rest : List Char) : opening? (c :: rest) = none := by
  cases opens : opening? (c :: rest) with
  | none => rfl
  | some opening =>
    rcases first_of_opening? opens with same | same | letter
    · exact absurd same plain.1
    · exact absurd same plain.2.1
    · exact absurd letter plain.2.2

theorem opening?_eq_none_of_free (free : '\'' ∉ text ∧ '"' ∉ text) : opening? text = none := by
  have none_after {letters rest : List Char} (part : ∀ c ∈ rest, c ∈ text) :
      openingAfter? letters rest = none := by
    unfold openingAfter?
    split
    · next q more =>
      have own := part q List.mem_cons_self
      rw [if_neg]
      simp only [Bool.and_eq_true, Bool.or_eq_true, beq_iff_eq, not_and]
      rintro (rfl | rfl)
      · exact absurd own free.1
      · exact absurd own free.2
    · rfl
  rw [opening?, none_after (fun _ => id), none_after (fun _ => List.mem_of_mem_drop),
    none_after (fun _ => List.mem_of_mem_drop)]
  rfl

/-- The marks between the parts of a specification, and those of a list of numbers. -/
def marks : List Char :=
  [',', ':', '@', '=', '>', '\x7b', '\x7d', '[', ']', '-']

theorem of_mem_marks {p : Char → Bool} (mark : c ∈ marks)
    (all : marks.all p = true := by decide +kernel) : p c = true :=
  List.all_eq_true.mp all c mark

/-- The longer operators that begin with a mark go on with `=` or `>`. -/
theorem runsOn_mark (mark : c ∈ marks) (apart : next ≠ '=' ∧ next ≠ '>') :
    runsOn c next = false := by
  have known := of_mem_marks (p := fun c => operators.all fun operator =>
    operator.head? != some c || operator[1]?.all fun next => next == '=' || next == '>') mark
  rw [runsOn, List.any_eq_false]
  intro operator own starts
  obtain ⟨behind, rfl⟩ := List.isPrefixOf_iff_prefix.mp starts
  have second := List.all_eq_true.mp known _ own
  simp [apart] at second

theorem isAsciiDigit_of_identifier (first : isIdentifierStart c) : isAsciiDigit c = false := by
  rw [Bool.eq_false_iff]
  intro digit
  obtain ⟨low, high⟩ := Number.toNat_of_isAsciiDigit digit
  rw [isIdentifierStart, if_pos (Number.isAscii_of_isAsciiDigit digit)] at first
  simp only [isAsciiLetter, Bool.or_eq_true, Bool.and_eq_true, decide_eq_true_eq, Char.le_def,
    UInt32.le_iff_toNat_le, beq_iff_eq] at first
  change _ ≤ c.val.toNat at low
  change c.val.toNat ≤ _ at high
  rcases first with (lower | upper) | rfl
  · have a : 'a'.val.toNat = 97 := rfl
    omega
  · have a : 'A'.val.toNat = 65 := rfl
    omega
  · exact absurd high (by decide)

theorem beginsOperator_of_identifier (first : isIdentifierStart c) : beginsOperator c = false := by
  have none_begins : operators.all (·.head?.all (!isIdentifierStart ·)) = true := by decide +kernel
  rw [beginsOperator, List.any_eq_false]
  intro operator own begins
  have other := List.all_eq_true.mp none_begins operator own
  rw [eq_of_beq begins, Option.all_some, first] at other
  cases other

theorem digitRun_of_all {isDigit : Char → Bool} (plain : isDigit '_' = false)
    (all : ∀ c ∈ text, isDigit c) : digitRun isDigit text = text.length := by
  induction text with
  | nil => rfl
  | cons c rest ih =>
    have own := all c List.mem_cons_self
    rw [digitRun, if_pos own, ih fun d present => all d (List.mem_cons_of_mem c present)]
    · rfl
    · rintro _ _ rfl
      exact absurd own (by simp [plain])

theorem numberWidth_natText (n : Nat) :
    numberWidth (Number.natText n).toList = (Number.natText n).toList.length := by
  have canonical := Number.natText_eq_zero_or_head n
  obtain ⟨c, digits, text⟩ := List.exists_cons_of_ne_nil (Number.natText_ne_nil n)
  have all : ∀ d ∈ c :: digits, isAsciiDigit d := fun d present =>
    Number.isAsciiDigit_of_mem_natText (text ▸ present)
  rw [text] at canonical ⊢
  have decimal : decimalWidth (c :: digits) = (c :: digits).length := by
    rw [decimalWidth, if_pos (all c List.mem_cons_self), digitRun_of_all (by decide)
      fun d present => all d (List.mem_cons_of_mem c present)]
    rfl
  have float : floatWidth (c :: digits) = 0 := by
    rw [floatWidth, decimal, List.drop_length]
    simp [exponentWidth]
  have whole : wholeWidth (c :: digits) = (c :: digits).length := by
    rcases canonical with zero | apart
    · rw [zero]
      rfl
    · have other : c ≠ '0' := apart c rfl
      rw [wholeWidth.eq_3 _ (fun _ _ same => other (List.cons.inj same).1)
        (fun _ same => other (List.cons.inj same).1)]
      exact decimal
  rw [numberWidth, decimal, float, List.drop_length, whole]
  rfl

namespace Spells
variable {location : Location} {depth : Int} {rest : List Char} {tokens : List Token}

theorem mark (mark : c ∈ marks) (ends : ∀ next ∈ rest.head?, runsOn c next = false)
    (later : Spells begun (location.after [c])
      (depthAfter .op (String.ofList [c]) depth) rest tokens) :
    Spells true location depth (c :: rest) (tokenAt location .op [c] :: tokens) := by
  have plain : isPlain c := of_mem_marks (p := isPlain) mark
  have unquoted := of_mem_marks
    (p := fun c => c != '\'' && c != '"' && !(['b', 'r', 'u', 'f'].contains c.toLower)) mark
  have no_number := of_mem_marks (p := fun c => !isAsciiDigit c && c != '.') mark
  have operator : operators.contains [c] := of_mem_marks (p := (operators.contains [·])) mark
  simp only [Bool.and_eq_true, bne_iff_ne, Bool.not_eq_true', and_assoc] at unquoted no_number
  have opens (behind : List Char) : opening? (c :: behind) = none :=
    opening?_eq_none_of_first (by simpa using unquoted) behind
  have row := (firstRow_cons (isPlain_iff.mp plain).2.2.1 rest).1
  have width : operatorWidth (c :: firstRow rest) = 1 :=
    operatorWidth_eq_one (List.contains_iff_mem.mp operator) (by rwa [head?_firstRow])
  refine show Spells true location depth ([c] ++ rest) _ from .word (opens rest) ?_ later
  rw [List.singleton_append, row, piece?_of_isPlain plain (opens _)]
  simp only [piece?.word?, numberWidth_eq_zero no_number.1 no_number.2, width]
  rfl

theorem lone {word : List Char} (plain : opening? word = none) (no_break : '\n' ∉ word)
    (own : piece? word = some (.token kind word.length)) (delimited : IsDelimited rest)
    (later : Spells begun (location.after word) (depthAfter kind (String.ofList word) depth) rest
      tokens) :
    Spells true location depth (word ++ rest) (tokenAt location kind word :: tokens) := by
  have row : piece? (firstRow word) = some (.token kind word.length) := by
    rwa [firstRow_of_free no_break]
  exact .word ((opening?_append delimited (ne_nil_of_piece? row)).trans plain)
    (piece?_append delimited plain row) later

theorem word_name {name : List Char} (first : isIdentifierStart c) (word : ∀ d ∈ c :: name, isWord d)
    (delimited : IsDelimited rest)
    (later : Spells begun (location.after (c :: name)) depth rest tokens) :
    Spells true location depth (c :: name ++ rest) (tokenAt location .name (c :: name) :: tokens) := by
  have apart (other : Char) (no_word : isWord other = false) : other ∉ c :: name := fun present =>
    Bool.false_ne_true (no_word.symm.trans (word other present))
  have plain : opening? (c :: name) = none :=
    opening?_eq_none_of_free ⟨apart _ (by decide), apart _ (by decide)⟩
  refine lone plain (apart _ (by decide)) ?_ delimited later
  rw [piece?_of_isPlain (isPlain_of_all first) plain]
  have whole : (c :: name).takeWhile isWord = c :: name :=
    List.takeWhile_eq_self_iff.mpr word
  simp only [piece?.word?, whole, first, operatorWidth_eq_zero (beginsOperator_of_identifier first),
    numberWidth_eq_zero (isAsciiDigit_of_identifier first) (by rintro rfl; cases first)]
  rfl

theorem decimal (n : Nat) (delimited : IsDelimited rest)
    (later : Spells begun (location.after (Number.natText n).toList) depth rest tokens) :
    Spells true location depth ((Number.natText n).toList ++ rest)
      (tokenAt location .number (Number.natText n).toList :: tokens) := by
  obtain ⟨c, digits, text⟩ := List.exists_cons_of_ne_nil (Number.natText_ne_nil n)
  have all : ∀ d ∈ c :: digits, isAsciiDigit d := fun d present =>
    Number.isAsciiDigit_of_mem_natText (text ▸ present)
  have apart (other : Char) (no_digit : isAsciiDigit other = false) : other ∉ c :: digits :=
    fun present => Bool.false_ne_true (no_digit.symm.trans (all other present))
  have plain : opening? (c :: digits) = none :=
    opening?_eq_none_of_free ⟨apart _ (by decide), apart _ (by decide)⟩
  have width := numberWidth_natText n
  rw [text] at later width ⊢
  refine lone plain (apart _ (by decide)) ?_ delimited later
  rw [piece?_of_isPlain (isPlain_of_all (all c List.mem_cons_self)) plain]
  simp only [piece?.word?, width]
  rfl

theorem quoted {text : List Char} (verbatim : IsVerbatim text)
    (apart : ∀ c ∈ rest.head?, c ≠ '"')
    (later : Spells begun (location.after ('"' :: text ++ ['"'])) depth rest tokens) :
    Spells true location depth ('"' :: text ++ '"' :: rest)
      (tokenAt location .string ('"' :: text ++ ['"']) :: tokens) := by
  have parts : '"' :: text ++ '"' :: rest = ('"' :: text ++ ['"']) ++ rest := by simp
  have closed := literalWidth?_quoted verbatim apart
  rw [parts] at closed ⊢
  exact .literal closed later

end Spells
end ByteRecord.Source
