import Mathlib.Data.List.Find
import ByteRecord.Lexical.Number
import ByteRecord.Lexical.Operator
import ByteRecord.Proofs.Lexical.Literals

/-! Delimiters. What a text begins with does not depend on what stands behind a delimiter, unless it
is a string literal that the text leaves open. -/
namespace ByteRecord.Lexical
open Text

/-- Characters that may stand behind a word, a number or a whole expression. -/
def isDelimiter (c : Char) : Bool :=
  c == ' ' || c == '\t' || c == '\n' || c == ',' || c == ':' || c == '@' || c == '\x7d'

theorem isDelimiter_iff : isDelimiter d ↔
    d = ' ' ∨ d = '\t' ∨ d = '\n' ∨ d = ',' ∨ d = ':' ∨ d = '@' ∨ d = '\x7d' := by
  simp only [isDelimiter, Bool.or_eq_true, beq_iff_eq, or_assoc]

theorem of_isDelimiter {p : Char → Bool} (delimiter : isDelimiter d)
    (none : [' ', '\t', '\n', ',', ':', '@', '\x7d'].all (!p ·) = true := by decide) :
    p d = false := by
  have member : d ∈ [' ', '\t', '\n', ',', ':', '@', '\x7d'] := by
    simpa using isDelimiter_iff.mp delimiter
  simpa using List.all_eq_true.mp none d member

theorem numberWidth_eq_zero (no_digit : isAsciiDigit c = false) (no_point : c ≠ '.')
    (rest : List Char) : numberWidth (c :: rest) = 0 := by
  have decimal : decimalWidth (c :: rest) = 0 := by
    rw [decimalWidth, no_digit]
    rfl
  have no_zero : c ≠ '0' := by
    rintro rfl
    cases no_digit
  simp [numberWidth, floatWidth, wholeWidth, decimal, no_point, no_zero]

/-- Characters that an operator begins with. -/
def beginsOperator (c : Char) : Bool :=
  operators.any (·.head? == some c)

theorem operatorWidth_eq_zero (other : beginsOperator c = false) (rest : List Char) :
    operatorWidth (c :: rest) = 0 := by
  have none_found : operators.find? (·.isPrefixOf (c :: rest)) = none := by
    refine List.find?_eq_none.mpr fun operator own starts => ?_
    have different := List.any_eq_false.mp other operator own
    cases operator with
    | nil => exact absurd own (by decide)
    | cons first operator =>
      rw [List.isPrefixOf_cons_cons, Bool.and_eq_true, beq_iff_eq] at starts
      exact different (by rw [List.head?_cons, starts.1]; exact beq_self_eq_true _)
  rw [operatorWidth, none_found]
  rfl

/-- An operator begins with these two characters. -/
def runsOn (c next : Char) : Bool :=
  operators.any ([c, next].isPrefixOf ·)

/-- An operator of one character ends before a character with which no longer one goes on. -/
theorem operatorWidth_eq_one (operator : [c] ∈ operators)
    (ends : ∀ next ∈ rest.head?, runsOn c next = false) : operatorWidth (c :: rest) = 1 := by
  cases found : operators.find? (·.isPrefixOf (c :: rest)) with
  | none => exact absurd (by simp) (List.find?_eq_none.mp found [c] operator)
  | some first =>
    have own := List.mem_of_find?_eq_some found
    have starts := List.find?_some found
    obtain ⟨behind, same⟩ := List.isPrefixOf_iff_prefix.mp starts
    rw [operatorWidth, found]
    match first with
    | [] => exact absurd own (by decide)
    | [d] => rfl
    | d :: next :: more =>
      cases same
      have longer : runsOn c next = true := List.any_eq_true.mpr ⟨_, own, by simp⟩
      rw [ends next rfl] at longer
      cases longer

theorem runsOn_eq_false (alone : operators.all (fun operator =>
      operator.head? != some c || operator.length == 1) = true) (next : Char) :
    runsOn c next = false := by
  rw [runsOn, List.any_eq_false]
  intro operator own starts
  obtain ⟨behind, rfl⟩ := List.isPrefixOf_iff_prefix.mp starts
  have short := List.all_eq_true.mp alone _ own
  simp at short

theorem digitRun_delimited {isDigit : Char → Bool} (no_digit : isDigit d = false)
    (no_underscore : d ≠ '_') (plain : isDigit '_' = false) (text behind : List Char) :
    digitRun isDigit (text ++ d :: behind) = digitRun isDigit text := by
  fun_induction digitRun isDigit text with
  | case1 c rest digit ih =>
    rw [List.cons_append, List.cons_append, digitRun, if_pos digit, ih]
  | case2 c rest other =>
    rw [List.cons_append, List.cons_append, digitRun, if_neg other]
  | case3 c rest different digit ih =>
    have apart : c ≠ '_' := by
      rintro rfl
      rw [plain] at digit
      cases digit
    rw [List.cons_append, digitRun, if_pos digit, ih]
    exact fun _ _ same => absurd same apart
  | case4 c rest different other =>
    by_cases underscore : c = '_'
    · subst underscore
      cases rest with
      | nil =>
        rw [List.singleton_append, digitRun, no_digit, if_neg Bool.false_ne_true]
      | cons second rest => exact absurd rfl (different second rest rfl)
    · rw [List.cons_append, digitRun, if_neg other]
      exact fun _ _ same => absurd same underscore
  | case5 =>
    rw [List.nil_append, digitRun, no_digit, if_neg Bool.false_ne_true]
    exact fun _ _ same => absurd same no_underscore

theorem isPrefixOf_append_of_not_mem {front : List Char} (fresh : d ∉ front)
    (text behind : List Char) : front.isPrefixOf (text ++ d :: behind) = front.isPrefixOf text := by
  induction front generalizing text with
  | nil => rfl
  | cons c front ih =>
    have apart : (c == d) = false := by
      rw [beq_eq_false_iff_ne]
      rintro rfl
      exact fresh List.mem_cons_self
    cases text with
    | nil =>
      rw [List.nil_append, List.isPrefixOf_cons_cons, apart]
      rfl
    | cons e text =>
      rw [List.cons_append, List.isPrefixOf_cons_cons, List.isPrefixOf_cons_cons,
        ih fun present => fresh (List.mem_cons_of_mem c present)]

section
variable {d : Char} (delimiter : isDelimiter d) (text behind : List Char)
include delimiter

theorem digitRun_ascii_delimited :
    digitRun isAsciiDigit (text ++ d :: behind) = digitRun isAsciiDigit text :=
  digitRun_delimited (of_isDelimiter delimiter) (by rintro rfl; cases delimiter) (by decide) _ _

theorem decimalWidth_delimited : decimalWidth (text ++ d :: behind) = decimalWidth text := by
  cases text with
  | nil =>
    have no_digit : isAsciiDigit d = false := of_isDelimiter delimiter
    rw [List.nil_append, decimalWidth, no_digit]
    rfl
  | cons c rest =>
    rw [List.cons_append, decimalWidth, decimalWidth, digitRun_ascii_delimited delimiter]

theorem signWidth_delimited : signWidth (text ++ d :: behind) = signWidth text := by
  cases text with
  | nil => rcases isDelimiter_iff.mp delimiter with rfl | rfl | rfl | rfl | rfl | rfl | rfl <;> rfl
  | cons c rest => rfl

theorem exponentWidth_delimited : exponentWidth (text ++ d :: behind) = exponentWidth text := by
  cases text with
  | nil => rcases isDelimiter_iff.mp delimiter with rfl | rfl | rfl | rfl | rfl | rfl | rfl <;> rfl
  | cons c rest =>
    have sign_le : signWidth rest ≤ rest.length := by
      cases rest with
      | nil => exact Nat.zero_le _
      | cons sign rest =>
        rw [signWidth]
        split <;> simp
    simp only [List.cons_append, exponentWidth, signWidth_delimited delimiter,
      List.drop_append_of_le_length sign_le, decimalWidth_delimited delimiter]

theorem floatWidth_delimited : floatWidth (text ++ d :: behind) = floatWidth text := by
  have whole := decimalWidth_delimited delimiter text behind
  have within := decimalWidth_le text
  simp only [floatWidth, whole, List.drop_append_of_le_length within]
  cases text.drop (decimalWidth text) with
  | nil =>
    have no_exponent := exponentWidth_delimited delimiter [] behind
    rw [List.nil_append] at no_exponent
    simp only [List.nil_append, no_exponent]
    rcases isDelimiter_iff.mp delimiter with rfl | rfl | rfl | rfl | rfl | rfl | rfl <;> rfl
  | cons point fraction =>
    by_cases pointed : point = '.'
    · subst pointed
      have digits := decimalWidth_delimited delimiter fraction behind
      have digits_le := decimalWidth_le fraction
      simp only [List.cons_append, digits, List.drop_append_of_le_length digits_le,
        exponentWidth_delimited delimiter]
    · have exponent := exponentWidth_delimited delimiter (point :: fraction) behind
      rw [List.cons_append] at exponent
      simp [pointed, exponent]

theorem radixRun_delimited (radix : radixDigit? letter = some isDigit) :
    digitRun isDigit (text ++ d :: behind) = digitRun isDigit text := by
  have no_underscore : d ≠ '_' := by
    rintro rfl
    cases delimiter
  unfold radixDigit? at radix
  split at radix
  · cases radix
    exact digitRun_delimited (of_isDelimiter delimiter) no_underscore (by decide) _ _
  · split at radix
    · cases radix
      exact digitRun_delimited (of_isDelimiter delimiter) no_underscore (by decide) _ _
    · split at radix
      · cases radix
        exact digitRun_delimited (of_isDelimiter delimiter) no_underscore (by decide) _ _
      · cases radix

theorem wholeWidth_delimited : wholeWidth (text ++ d :: behind) = wholeWidth text := by
  have zeros (text : List Char) :
      digitRun (· == '0') (text ++ d :: behind) = digitRun (· == '0') text :=
    @digitRun_delimited d (· == '0') (of_isDelimiter (p := (· == '0')) delimiter)
      (by rintro rfl; cases delimiter) (by decide) _ _
  have decimal := decimalWidth_delimited delimiter text behind
  match text with
  | [] =>
    rw [List.nil_append] at decimal ⊢
    rcases isDelimiter_iff.mp delimiter with rfl | rfl | rfl | rfl | rfl | rfl | rfl <;>
      exact decimal
  | [c] =>
    by_cases zero : c = '0'
    · subst zero
      have one := zeros []
      have no_radix : radixDigit? d = none := by
        rcases isDelimiter_iff.mp delimiter with rfl | rfl | rfl | rfl | rfl | rfl | rfl <;> decide
      rw [List.nil_append] at one
      simp only [List.singleton_append, wholeWidth, one, no_radix]
    · rw [List.singleton_append] at decimal ⊢
      simp [wholeWidth, zero, decimal]
  | c :: letter :: rest =>
    by_cases zero : c = '0'
    · subst zero
      have plain := zeros (letter :: rest)
      rw [List.cons_append] at plain
      simp only [List.cons_append, wholeWidth, plain]
      cases radix : radixDigit? letter with
      | none => rfl
      | some isDigit => simp only [radixRun_delimited delimiter rest behind radix]
    · simp only [List.cons_append] at decimal ⊢
      simp [wholeWidth, zero, decimal]

theorem beginsImaginary_delimited :
    beginsImaginary (text ++ d :: behind) = beginsImaginary text := by
  cases text with
  | nil => exact of_isDelimiter (p := isOne 'j') delimiter
  | cons c rest => rfl

theorem numberWidth_delimited : numberWidth (text ++ d :: behind) = numberWidth text := by
  simp only [numberWidth, decimalWidth_delimited delimiter, floatWidth_delimited delimiter,
    wholeWidth_delimited delimiter, List.drop_append_of_le_length (decimalWidth_le text),
    List.drop_append_of_le_length (floatWidth_le text), beginsImaginary_delimited delimiter]

theorem operatorWidth_delimited (something : text ≠ []) :
    operatorWidth (text ++ d :: behind) = operatorWidth text := by
  obtain ⟨c, rest, rfl⟩ := List.exists_cons_of_ne_nil something
  have further : operators.all (fun operator => operator.tail.all (!isDelimiter ·)) = true := by
    decide +kernel
  have same (operator : List Char) (own : operator ∈ operators) :
      operator.isPrefixOf (c :: rest ++ d :: behind) = operator.isPrefixOf (c :: rest) := by
    have plain := List.all_eq_true.mp (List.all_eq_true.mp further operator own)
    cases operator with
    | nil => rfl
    | cons first operator =>
      have fresh : d ∉ operator := fun present => by
        simpa [delimiter] using plain d present
      rw [List.cons_append, List.isPrefixOf_cons_cons, List.isPrefixOf_cons_cons,
        isPrefixOf_append_of_not_mem fresh]
  have found : operators.find? (·.isPrefixOf (c :: rest ++ d :: behind)) =
      operators.find? (·.isPrefixOf (c :: rest)) := List.find?_congr same
  rw [operatorWidth, operatorWidth, found]

theorem takeWhile_isWord_delimited :
    (text ++ d :: behind).takeWhile isWord = text.takeWhile isWord := by
  have no_word : ¬isWord d = true := by
    rw [of_isDelimiter (p := isWord) delimiter]
    exact Bool.false_ne_true
  induction text with
  | nil => rw [List.nil_append, List.takeWhile_cons_of_neg no_word, List.takeWhile_nil]
  | cons c rest ih =>
    rw [List.cons_append]
    by_cases word : isWord c = true
    · rw [List.takeWhile_cons_of_pos word, List.takeWhile_cons_of_pos word, ih]
    · rw [List.takeWhile_cons_of_neg word, List.takeWhile_cons_of_neg word]

theorem openingAfter?_delimited (something : text ≠ []) (letters : List Char) :
    openingAfter? letters (text ++ d :: behind) = openingAfter? letters text := by
  have no_quote {q : Char} (quote : (q == '\'' || q == '"') = true) : (d == q) = false := by
    rw [beq_eq_false_iff_ne]
    rintro rfl
    simp [of_isDelimiter (p := fun c => c == '\'' || c == '"') delimiter] at quote
  obtain ⟨q, more, rfl⟩ := List.exists_cons_of_ne_nil something
  simp only [List.cons_append, openingAfter?]
  split
  · next opens =>
    have quote := (Bool.and_eq_true_iff.mp opens).1
    -- three quotes in a row are not made up by the delimiter
    cases more with
    | nil =>
      cases behind with
      | nil => rfl
      | cons next behind =>
        simp only [List.nil_append, no_quote quote, Bool.false_and]
    | cons r more =>
      cases more with
      | nil => simp only [List.singleton_append, no_quote quote, Bool.and_false]
      | cons s more => rfl
  · rfl

theorem openingAfter?_eq_none (letters : List Char) :
    openingAfter? letters (d :: behind) = none := by
  have no_quote : (d == '\'' || d == '"') = false :=
    of_isDelimiter (p := fun c => c == '\'' || c == '"') delimiter
  simp only [openingAfter?, no_quote, Bool.false_and, Bool.false_eq_true, if_false]

theorem openingAfter?_eq_none_of_mem (present : d ∈ letters) (rest : List Char) :
    openingAfter? letters rest = none := by
  have no_prefix : isStringPrefix letters = false := by
    rw [Bool.eq_false_iff]
    intro known
    have letter := of_isStringPrefix known d present
    rcases isDelimiter_iff.mp delimiter with rfl | rfl | rfl | rfl | rfl | rfl | rfl <;>
      exact absurd letter (by decide)
  cases rest with
  | nil => rfl
  | cons q more =>
    simp only [openingAfter?, no_prefix, Bool.and_false, Bool.false_eq_true, if_false]

theorem opening?_eq_none : opening? (d :: behind) = none := by
  have second := openingAfter?_eq_none_of_mem delimiter (List.mem_singleton_self d) behind
  have third : openingAfter? ((d :: behind).take 2) ((d :: behind).drop 2) = none :=
    openingAfter?_eq_none_of_mem delimiter List.mem_cons_self _
  rw [opening?, openingAfter?_eq_none delimiter, third]
  simp only [List.take_succ_cons, List.take_zero, List.drop_succ_cons, List.drop_zero, second]
  rfl

theorem opening?_delimited (something : text ≠ []) :
    opening? (text ++ d :: behind) = opening? text := by
  have own := openingAfter?_delimited delimiter
  have first := own text behind something []
  match text with
  | [] => exact absurd rfl something
  | [c] =>
    have unprefixed := openingAfter?_eq_none_of_mem delimiter (show d ∈ [c, d] by simp)
    rw [List.singleton_append] at first
    simp only [opening?, List.singleton_append, first, List.take_succ_cons, List.take_zero,
      List.drop_succ_cons, List.drop_zero, openingAfter?_eq_none delimiter, unprefixed, List.take_nil,
      List.drop_nil]
    rfl
  | [c, e] =>
    have second := own [e] behind (List.cons_ne_nil _ _) [c]
    simp only [List.cons_append, List.nil_append] at first second
    simp only [opening?, List.cons_append, List.nil_append, first, List.take_succ_cons, List.take_zero,
      List.drop_succ_cons, List.drop_zero, second, openingAfter?_eq_none delimiter]
    rfl
  | c :: e :: f :: rest =>
    have second := own (e :: f :: rest) behind (List.cons_ne_nil _ _) [c]
    have third := own (f :: rest) behind (List.cons_ne_nil _ _) [c, e]
    simp only [List.cons_append] at first second third
    simp only [opening?, first, List.cons_append, List.take_succ_cons, List.take_zero,
      List.drop_succ_cons, List.drop_zero, second, third]

end

/-- A literal that a text begins with does not depend on what follows the text. -/
theorem literalWidth?_delimited (delimiter : isDelimiter d)
    (literal : literalWidth? text = some width) (behind : List Char) :
    literalWidth? (text ++ d :: behind) = some width := by
  have something : text ≠ [] := by
    rintro rfl
    cases literal
  obtain ⟨opening, opens, literal⟩ := Option.bind_eq_some_iff.mp literal
  obtain ⟨close, closes, literal⟩ := Option.bind_eq_some_iff.mp literal
  cases literal
  have within := width_opening? opens
  rw [literalWidth?, opening?_delimited delimiter _ _ something, opens]
  simp only [Option.bind_eq_bind, Option.bind_some, List.drop_append_of_le_length within,
    closeWidth?_append (quote_ne_backslash opens) closes]
  rfl

end ByteRecord.Lexical
