import ByteRecord.Expr.Lexeme
import ByteRecord.Proofs.Lexical.Numerals

/-! Single lexemes in front of a text: string literals, marks, numbers and underscores, and gaps
between them. -/
namespace ByteRecord.Expr
open Lexical

theorem unifyLineBreaks_of_free (free : '\r' ∉ text) : unifyLineBreaks text = text := by
  induction text with
  | nil => rfl
  | cons c rest ih =>
    obtain ⟨other, free⟩ := List.ne_and_not_mem_of_not_mem_cons free
    rw [unifyLineBreaks, ih free]
    · exact fun _ same => absurd same.symm other
    · exact fun same => absurd same.symm other

section
variable {depth : Nat} {word rest : List Char}

/-- Passed characters leave no trace. -/
theorem lexemesFrom_append (offset depth : Nat) (front rest : List Char) :
    lexemesFrom offset front.length depth (front ++ rest) =
      lexemesFrom (offset + front.length) 0 depth rest := by
  induction front generalizing offset with
  | nil => rfl
  | cons c front ih =>
    rw [List.cons_append, List.length_cons, lexemesFrom, ih, Nat.add_assoc, Nat.add_comm 1]

theorem lexemesFrom_word (offset : Nat) (word : List Char) (something : word ≠ [])
    (first : head? depth (word ++ rest) = some (.lexeme kind word.length))
    (deep : depthAfter? kind word depth = some depth') :
    lexemesFrom offset 0 depth (word ++ rest) =
      (lexemesFrom (offset + word.length) 0 depth' rest).map (⟨kind, word, offset⟩ :: ·) := by
  obtain ⟨c, word, rfl⟩ := List.exists_cons_of_ne_nil something
  have behind := lexemesFrom_append (offset + 1) depth' word rest
  have taken : (c :: word ++ rest).take (c :: word).length = c :: word := List.take_left
  rw [List.cons_append] at first ⊢
  rw [lexemesFrom, first]
  dsimp only
  rw [← List.cons_append, taken, deep]
  dsimp only
  rw [List.length_cons, Nat.add_sub_cancel, behind, Nat.add_assoc, Nat.add_comm 1]

theorem lexemesFrom_gap (offset : Nat) (gap : Source.IsGap before) (inside : depth ≠ 0)
    (rest : List Char) : lexemesFrom offset 0 depth (before ++ rest) =
      lexemesFrom (offset + before.length) 0 depth rest := by
  induction before generalizing offset with
  | nil => rfl
  | cons c before ih =>
    have passed : head? depth (c :: (before ++ rest)) = some (.pass 1) := by
      rcases gap c List.mem_cons_self with rfl | rfl | rfl
      · rfl
      · rfl
      · simp [head?, inside]
    rw [List.cons_append, lexemesFrom, passed]
    dsimp only
    rw [ih _ gap.tail, List.length_cons, Nat.add_assoc, Nat.add_comm 1]

theorem head?_of_isPlain (first : Source.isPlain c) :
    head? depth (c :: rest) =
      if (opening? (c :: rest)).isSome then (literalWidth? (c :: rest)).map (.lexeme .string ·)
      else
        let number := numberWidth (c :: rest)
        let name := (c :: rest).takeWhile isNamePart
        let operator := operatorWidth (c :: rest)
        if number != 0 then some (.lexeme .number number)
        else if !name.isEmpty then
          if Text.isIdentifier name then some (.lexeme .name name.length) else none
        else if operator != 0 then some (.lexeme .op operator)
        else none := by
  obtain ⟨no_guard, no_comment, no_break, -, no_space, no_tab, no_feed⟩ :=
    Source.isPlain_iff.mp first
  have printed : isSpace c = false := by
    have code : c.toNat ≠ 12 := fun same => no_feed (Char.toNat_inj.mp same)
    simp [isSpace, no_space, no_tab, code]
  unfold head?
  split
  case h_5 same =>
    cases same
    rw [printed, if_neg Bool.false_ne_true]
  all_goals
    next same => cases same <;> contradiction

theorem head?_literal {opening : Opening} (opens : opening? word = some opening)
    (closed : literalWidth? word = some word.length) :
    head? depth word = some (.lexeme .string word.length) := by
  cases word with
  | nil => cases opens
  | cons c rest =>
    have begins : (c == '\'' || c == '"' || ['b', 'r', 'u', 'f'].contains c.toLower) = true := by
      simpa only [Bool.or_eq_true, beq_iff_eq, List.contains_iff_mem, or_assoc] using
        first_of_opening? opens
    have plain := Source.isPlain_of_all
      (p := fun c => c == '\'' || c == '"' || ['b', 'r', 'u', 'f'].contains c.toLower) begins
    rw [head?_of_isPlain plain, opens, closed]
    rfl

theorem head?_mark (mark : c ∈ Source.marks)
    (ends : ∀ next ∈ rest.head?, runsOn c next = false) :
    head? depth (c :: rest) = some (.lexeme .op 1) := by
  have unquoted := Source.of_mem_marks
    (p := fun c => c != '\'' && c != '"' && !(['b', 'r', 'u', 'f'].contains c.toLower)) mark
  have no_number := Source.of_mem_marks
    (p := fun c => !Text.isAsciiDigit c && c != '.' && !isNamePart c) mark
  have operator : operators.contains [c] :=
    Source.of_mem_marks (p := (operators.contains [·])) mark
  simp only [Bool.and_eq_true, bne_iff_ne, Bool.not_eq_true', and_assoc] at unquoted no_number
  obtain ⟨no_digit, no_point, no_name⟩ := no_number
  have width := operatorWidth_eq_one (List.contains_iff_mem.mp operator) ends
  rw [head?_of_isPlain (Source.of_mem_marks (p := Source.isPlain) mark),
    Source.opening?_eq_none_of_first (by simpa using unquoted) rest]
  simp [numberWidth_eq_zero no_digit no_point, width, no_name]

theorem head?_numeral (depth : Nat) (numeral : Numeral n word) (parted : IsParted rest) :
    head? depth (word ++ rest) = some (.lexeme .number word.length) := by
  obtain ⟨c, digits, rfl, digit⟩ := numeral.exists_digit
  have width := numeral.numberWidth_append parted
  rw [List.cons_append] at width ⊢
  rw [head?_of_isPlain (Source.isPlain_of_all digit), opening?_digit digit, width]
  rfl

theorem head?_underscore (parted : IsParted rest) :
    head? depth ('_' :: rest) = some (.lexeme .name 1) := by
  have name : ('_' :: rest).takeWhile isNamePart = ['_'] := by
    cases rest with
    | nil => rfl
    | cons c rest =>
      have other := parted.head (p := (!isNamePart ·))
      rw [Bool.not_eq_true'] at other
      rw [List.takeWhile_cons_of_pos rfl, List.takeWhile_cons_of_neg (by simp [other])]
  rw [head?_of_isPlain (by decide), Source.opening?_eq_none_of_first (by decide), name,
    numberWidth_eq_zero (by decide) (by decide)]
  rfl

theorem lexemesFrom_mark (offset depth : Nat) (mark : c ∈ Source.marks)
    (ends : ∀ next ∈ rest.head?, runsOn c next = false)
    (deep : depthAfter? .op [c] depth = some depth') :
    lexemesFrom offset 0 depth (c :: rest) =
      (lexemesFrom (offset + 1) 0 depth' rest).map (⟨.op, [c], offset⟩ :: ·) :=
  lexemesFrom_word offset [c] (List.cons_ne_nil _ _) (head?_mark mark ends) deep

end
end ByteRecord.Expr
