import Mathlib.Data.List.Forall2
import ByteRecord.Expr.Elements
import ByteRecord.Proofs.Expr.Lexemes
import ByteRecord.Proofs.Expr.Operands

/-! Lists of numbers as expressions: the lexemes of such a list are read as a list display, item by
item. -/
namespace ByteRecord.Expr
open Lexical

/-- The lexemes of an item, and the expression that they stand for. -/
inductive ReadsItem : Option Int → Expr → List Lexeme → Prop
  | none (start : Nat) : ReadsItem none (.name "_") [⟨.name, ['_'], start⟩]
  | number (start : Nat) (value : numberValue? word = some (.int n)) :
    ReadsItem (some n) (.const (.int n)) [⟨.number, word, start⟩]
  | negative (start start' : Nat) (value : numberValue? word = some (.int n)) :
    ReadsItem (some (-n)) (.unary .minus (.const (.int n)))
      [⟨.op, ['-'], start⟩, ⟨.number, word, start'⟩]

/-- What an item stands for as an expression. -/
inductive Denotes : Option Int → Expr → Prop
  | none : Denotes none (.name "_")
  | number (n : Nat) : Denotes (some n) (.const (.int n))
  | negative (n : Nat) : Denotes (some (-n)) (.unary .minus (.const (.int n)))

theorem ReadsItem.denotes (own : ReadsItem slot e lexemes) : Denotes slot e := by
  cases own with
  | none => exact .none
  | number => exact .number _
  | negative => exact .negative _

/-- The lexemes behind an item up to the closing bracket, and the expressions that they stand
for. -/
inductive ReadsMore : List (Option Int) → List Expr → List Lexeme → Prop
  | closing (start : Nat) : ReadsMore [] [] [⟨.op, [']'], start⟩]
  | trailing (start start' : Nat) : ReadsMore [] [] [⟨.op, [','], start⟩, ⟨.op, [']'], start'⟩]
  | further (start : Nat) (own : ReadsItem slot e lexemes) (more : ReadsMore slots es rest) :
    ReadsMore (slot :: slots) (e :: es) (⟨.op, [','], start⟩ :: (lexemes ++ rest))

/-- The lexemes behind the opening bracket of a list, and the expressions that they stand for. -/
inductive ReadsList : List (Option Int) → List Expr → List Lexeme → Prop
  | empty (start : Nat) : ReadsList [] [] [⟨.op, [']'], start⟩]
  | items (own : ReadsItem slot e lexemes) (more : ReadsMore slots es rest) :
    ReadsList (slot :: slots) (e :: es) (lexemes ++ rest)

section
variable {slot : Option Int} {e : Expr} {lexemes rest : List Lexeme}

theorem operand_number (value : numberValue? word = some (.int n)) (ends : Ends rest)
    (enough : 4 < fuel) :
    operand fuel .factor (⟨.number, word, start⟩ :: rest) = some (.const (.int n), rest) := by
  refine operand_factor_of_atom (fun fuel (positive : 0 < fuel) => ?_) ends rfl rfl enough
  obtain ⟨fuel, rfl⟩ : ∃ less, fuel = less + 1 := ⟨fuel - 1, by omega⟩
  rw [atom, value]
  rfl

theorem ReadsItem.operand (own : ReadsItem slot e lexemes) (ends : Ends rest) (enough : 5 < fuel) :
    operand fuel .factor (lexemes ++ rest) = some (e, rest) := by
  cases own with
  | none =>
    refine operand_factor_of_atom (fun fuel (positive : 0 < fuel) => ?_) ends rfl rfl (by omega)
    obtain ⟨fuel, rfl⟩ : ∃ less, fuel = less + 1 := ⟨fuel - 1, by omega⟩
    rw [List.singleton_append, atom]
    rfl
  | number _ value => exact operand_number value ends (by omega)
  | negative _ _ value =>
    obtain ⟨fuel, rfl⟩ : ∃ less, fuel = less + 1 := ⟨fuel - 1, by omega⟩
    rw [List.cons_append, List.singleton_append, Expr.operand, signOperator?]
    dsimp only
    rw [operand_number value ends (by omega)]
    rfl

theorem ReadsItem.displayItem (own : ReadsItem slot e lexemes) (ends : Ends rest)
    (enough : 20 ≤ fuel) : displayItem fuel (lexemes ++ rest) = some (e, rest) := by
  obtain ⟨fuel, rfl⟩ : ∃ less, fuel = less + 2 := ⟨fuel - 2, by omega⟩
  have whole : expression fuel (lexemes ++ rest) = some (e, rest) :=
    expression_of_factor (fun fuel more => own.operand ends more) ends (by cases own <;> rfl)
      (by cases own <;> rfl) (by omega)
  have unstarred : isOp "*" (lexemes ++ rest) = false := by cases own <;> rfl
  rw [Expr.displayItem, unstarred, if_neg Bool.false_ne_true, namedExpr]
  cases own with
  | none =>
    change (if isOp ":=" rest then _ else expression fuel _) = _
    rw [ends.isOp_eq_false (by decide), if_neg Bool.false_ne_true, whole]
  | number | negative => exact whole

end

section
variable {slots : List (Option Int)} {e : Expr} {es : List Expr} {lexemes rest : List Lexeme}

theorem ReadsMore.ends (more : ReadsMore slots es lexemes) : Ends lexemes := by
  cases more with
  | closing => exact .closing
  | trailing | further => exact .comma

theorem isOp_item (own : ReadsItem slot e lexemes) : isOp "]" (lexemes ++ rest) = false := by
  cases own <;> rfl

theorem ReadsMore.displayItems (more : ReadsMore slots es lexemes)
    (enough : lexemes.length + 20 ≤ fuel) : displayItems fuel "]" lexemes = some (es, []) := by
  induction more generalizing fuel with
  | closing | trailing =>
    obtain ⟨fuel, rfl⟩ : ∃ less, fuel = less + 1 := ⟨fuel - 1, by omega⟩
    rw [Expr.displayItems]
    rfl
  | @further _ e lexemes slots es rest _ own more ih =>
    obtain ⟨fuel, rfl⟩ : ∃ less, fuel = less + 1 := ⟨fuel - 1, by omega⟩
    rw [List.length_cons, List.length_append] at enough
    have first : displayItem fuel (lexemes ++ rest) = some (e, rest) :=
      own.displayItem more.ends (by omega)
    have later : Expr.displayItems fuel "]" rest = some (es, []) := ih (by omega)
    rw [Expr.displayItems]
    change (if isOp "]" (_ ++ _) then _ else _) = _
    rw [isOp_item own, if_neg Bool.false_ne_true, List.tail_cons, first]
    dsimp only [Option.bind_eq_bind, Option.bind_some]
    rw [later]
    rfl

/-- A list is read item by item. -/
theorem ReadsList.listDisplay (own : ReadsList slots es lexemes)
    (enough : lexemes.length + 20 < fuel) :
    listDisplay fuel lexemes = some (.list es, []) := by
  obtain ⟨fuel, rfl⟩ : ∃ less, fuel = less + 1 := ⟨fuel - 1, by omega⟩
  cases own with
  | empty =>
    rw [Expr.listDisplay]
    rfl
  | @items _ e lexemes slots es rest own more =>
    rw [List.length_append] at enough
    have first : displayItem fuel (lexemes ++ rest) = some (e, rest) :=
      own.displayItem more.ends (by omega)
    have later : displayItems fuel "]" rest = some (es, []) := more.displayItems (by omega)
    rw [Expr.listDisplay, isOp_item own, if_neg Bool.false_ne_true, first]
    dsimp only [Option.bind_eq_bind, Option.bind_some]
    rw [later]
    cases more <;> rfl

variable {start : Nat}

/-- A list alone is read as the display of its items. -/
theorem ReadsList.ofLexemes? (own : ReadsList slots es lexemes) :
    ofLexemes? (⟨.op, ['['], start⟩ :: lexemes) = some (.list es) := by
  have read (fuel : Nat) (enough : lexemes.length + 21 < fuel) :
      atom fuel (⟨.op, ['['], start⟩ :: lexemes) = some (.list es, []) := by
    obtain ⟨fuel, rfl⟩ : ∃ less, fuel = less + 1 := ⟨fuel - 1, by omega⟩
    rw [atom]
    exact own.listDisplay (by omega)
  have operand (fuel : Nat) (enough : 4 + (lexemes.length + 21) < fuel) :
      operand fuel .factor (⟨.op, ['['], start⟩ :: lexemes) = some (.list es, []) :=
    operand_factor_of_atom read .nil rfl rfl enough
  have whole : expression (fuelFor (⟨.op, ['['], start⟩ :: lexemes))
      (⟨.op, ['['], start⟩ :: lexemes) = some (.list es, []) := by
    refine expression_of_factor operand .nil rfl rfl ?_
    rw [fuelFor, List.length_cons]
    omega
  rw [Expr.ofLexemes?, whole]
  rfl

theorem ReadsMore.itemsFrom (more : ReadsMore slots es lexemes) (enough : 20 ≤ fuel) :
    (itemsFrom fuel es.length (lexemes.drop 1)).map Prod.fst = es := by
  induction more with
  | closing | trailing => rfl
  | @further _ _ lexemes _ es rest _ own more ih =>
    rw [List.drop_one, List.tail_cons, List.length_cons, Expr.itemsFrom,
      own.displayItem more.ends enough]
    exact congrArg _ ih

theorem ReadsList.itemsFrom (own : ReadsList slots es lexemes) (enough : 20 ≤ fuel) :
    (itemsFrom fuel es.length lexemes).map Prod.fst = es := by
  cases own with
  | empty => rfl
  | items own more =>
    rw [List.length_cons, Expr.itemsFrom, own.displayItem more.ends enough]
    exact congrArg _ (more.itemsFrom enough)

end

theorem valueIn_ten (all : ∀ c ∈ digits, Text.isAsciiDigit c) :
    valueIn 10 digits = Number.ofDecimal digits := by
  rw [valueIn, Number.ofDecimal, Number.ofDigits, List.foldl_map]
  refine List.foldl_ext _ _ _ fun value c present => ?_
  rw [hexValue?_of_isAsciiDigit (all c present), Option.getD_some]

theorem decimal?_digits (all : ∀ c ∈ digits, Text.isAsciiDigit c)
    (short : digits.length ≤ Number.maxDecimalDigits) :
    numberValue?.decimal? digits = some (.int (Number.ofDecimal digits)) := by
  have apart {c : Char} (other : Text.isAsciiDigit c = false) : c ∉ digits := fun present =>
    Bool.false_ne_true (other.symm.trans (all c present))
  have whole : (digits.any fun c => c == '.' || c == 'e' || c == 'E') = false := by
    rw [List.any_eq_false]
    intro c present
    simp only [Bool.or_eq_true, beq_iff_eq]
    rintro ((rfl | rfl) | rfl) <;> exact absurd present (apart rfl)
  unfold numberValue?.decimal?
  split
  · next last => exact absurd (List.mem_of_getLast? last) (apart rfl)
  · next last => exact absurd (List.mem_of_getLast? last) (apart rfl)
  · rw [whole, if_neg Bool.false_ne_true, if_neg (Nat.not_lt.mpr short), valueIn_ten all]

theorem numberValue?_natText {n : Nat} (short : Number.isOverlong n = false) :
    numberValue? (Number.natText n).toList = some (.int n) := by
  have all : ∀ c ∈ (Number.natText n).toList, Text.isAsciiDigit c := fun c =>
    Number.isAsciiDigit_of_mem_natText
  have few : (Number.natText n).toList.length ≤ Number.maxDecimalDigits := by
    rw [Number.isOverlong, decide_eq_false_iff_not, Nat.not_le, Int.natAbs_natCast] at short
    exact length_natText_le (by decide) short
  have value := decimal?_digits all few
  rw [Number.ofDecimal_natText] at value
  have plain : (Number.natText n).toList.filter (· != '_') = (Number.natText n).toList := by
    refine List.filter_eq_self.mpr fun c present => ?_
    rw [bne_iff_ne]
    rintro rfl
    exact absurd (all _ present) (by decide)
  rw [numberValue?, plain]
  split
  -- only zero begins with a zero, and nothing stands behind that
  · next letter rest text =>
    have canonical := Number.natText_eq_zero_or_head n
    rw [text] at canonical
    rcases canonical with zero | apart
    · cases zero
    · exact absurd rfl (apart '0' rfl)
  · exact value

theorem numberValue?_hex (marked : letter = 'x' ∨ letter = 'X') (digits : List Hex.Digit) :
    numberValue? ('0' :: letter :: digits.map Hex.Digit.char) =
      some (.int (digits.foldl (fun value digit => value * 16 + digit.value) 0 : Nat)) := by
  have plain : ('0' :: letter :: digits.map Hex.Digit.char).filter (· != '_') =
      '0' :: letter :: digits.map Hex.Digit.char := by
    have mark : letter != '_' := by rcases marked with rfl | rfl <;> rfl
    refine List.filter_eq_self.mpr ?_
    simp only [List.forall_mem_cons, List.forall_mem_map]
    exact ⟨rfl, mark, fun digit _ => bne_iff_ne.mpr (digit.char_ne rfl)⟩
  have radix : radixOf letter = some 16 := by rcases marked with rfl | rfl <;> rfl
  have value : valueIn 16 (digits.map Hex.Digit.char) =
      digits.foldl (fun value digit => value * 16 + digit.value) 0 := by
    simp only [valueIn, List.foldl_map, Hex.Digit.digitValue?_char, Option.getD_some]
  rw [numberValue?, plain]
  simp only [radix, value]

/-- A numeral stands for its number, if that is not overlong. -/
theorem numberValue?_numeral (numeral : Numeral n word) (short : Number.isOverlong n = false) :
    numberValue? word = some (.int n) := by
  cases numeral with
  | decimal => exact numberValue?_natText short
  | hex marked first digits => exact numberValue?_hex marked (first :: digits)

section
variable {slot : Option Int} {slots : List (Option Int)} {text rest : List Char}

theorem lexemesFrom_item (own : Item slot text)
    (short : ∀ n ∈ slot, Number.isOverlong n = false) (parted : IsParted rest) (offset : Nat) :
    ∃ e lexemes, ReadsItem slot e lexemes ∧ lexemesFrom offset 0 1 (text ++ rest) =
      (lexemesFrom (offset + text.length) 0 1 rest).map (lexemes ++ ·) := by
  cases own with
  | none =>
    exact ⟨_, _, .none offset, lexemesFrom_word offset ['_'] (List.cons_ne_nil _ _)
      (head?_underscore parted) rfl⟩
  | number numeral =>
    have lexed :=
      lexemesFrom_word offset text numeral.ne_nil (head?_numeral 1 numeral parted) rfl
    exact ⟨_, _, .number offset (numberValue?_numeral numeral (short _ rfl)), lexed⟩
  | @negative gap n word between numeral =>
    have whole : Number.isOverlong n = false := by
      have own := short (-n) rfl
      rwa [Number.isOverlong, Int.natAbs_neg] at own
    have sign := lexemesFrom_mark offset 1 (by decide)
      (numeral.runsOn_sign between rest) rfl
    have passed := lexemesFrom_gap (offset + 1) between Nat.one_ne_zero (word ++ rest)
    have lexed := lexemesFrom_word (offset + 1 + gap.length) word numeral.ne_nil
      (head?_numeral 1 numeral parted) rfl
    have width : offset + ('-' :: (gap ++ word)).length =
        offset + 1 + gap.length + word.length := by
      rw [List.length_cons, List.length_append]
      omega
    refine ⟨_, _, .negative offset (offset + 1 + gap.length)
      (numberValue?_numeral numeral whole), ?_⟩
    rw [List.cons_append, List.append_assoc, sign, passed, lexed, Option.map_map, width]
    rfl

theorem lexemesFrom_comma (offset : Nat) (rest : List Char) :
    lexemesFrom offset 0 1 (',' :: rest) =
      (lexemesFrom (offset + 1) 0 1 rest).map (⟨.op, [','], offset⟩ :: ·) :=
  lexemesFrom_mark offset 1 (by decide) (fun next _ => runsOn_eq_false (by decide) next) rfl

theorem lexemesFrom_closing (offset : Nat) (gap : Source.IsGap before) :
    lexemesFrom offset 0 1 (before ++ [']']) = some [⟨.op, [']'], offset + before.length⟩] :=
  lexemesFrom_gap offset gap (by decide) [']']

theorem lexemesFrom_more (more : MoreListed slots text)
    (short : ∀ n, some n ∈ slots → Number.isOverlong n = false) (offset : Nat) :
    ∃ es lexemes, ReadsMore slots es lexemes ∧ lexemesFrom offset 0 1 text = some lexemes := by
  induction more generalizing offset with
  | closing gap => exact ⟨_, _, .closing _, lexemesFrom_closing offset gap⟩
  | @trailing before behind gap gap' =>
    have lexed := lexemesFrom_closing (offset + before.length + 1) gap'
    refine ⟨_, _, .trailing (offset + before.length)
      (offset + before.length + 1 + behind.length), ?_⟩
    rw [lexemesFrom_gap offset gap (by decide), lexemesFrom_comma, lexed]
    rfl
  | @further before behind _ text _ rest gap gap' own more ih =>
    obtain ⟨e, lexemes, reads, lexed⟩ := lexemesFrom_item own
      (fun n same => short n (same ▸ List.mem_cons_self)) more.isParted
      (offset + before.length + 1 + behind.length)
    obtain ⟨es, later, reads', further⟩ :=
      ih (fun n present => short n (List.mem_cons_of_mem _ present))
        (offset + before.length + 1 + behind.length + text.length)
    refine ⟨_, _, .further (offset + before.length) reads reads', ?_⟩
    rw [lexemesFrom_gap offset gap (by decide), lexemesFrom_comma,
      lexemesFrom_gap _ gap' (by decide), lexed, further]
    rfl

theorem lexemesFrom_listed (listed : Listed slots text)
    (short : ∀ n, some n ∈ slots → Number.isOverlong n = false) (offset : Nat) :
    ∃ es lexemes, ReadsList slots es lexemes ∧ lexemesFrom offset 0 1 text = some lexemes := by
  cases listed with
  | empty gap => exact ⟨_, _, .empty _, lexemesFrom_closing offset gap⟩
  | @items before _ text _ rest gap own more =>
    obtain ⟨e, lexemes, reads, lexed⟩ := lexemesFrom_item own
      (fun n same => short n (same ▸ List.mem_cons_self)) more.isParted (offset + before.length)
    obtain ⟨es, later, reads', further⟩ :=
      lexemesFrom_more more (fun n present => short n (List.mem_cons_of_mem _ present))
        (offset + before.length + text.length)
    refine ⟨_, _, .items reads reads', ?_⟩
    rw [lexemesFrom_gap offset gap (by decide), lexed, further]
    rfl

theorem ReadsList.denotes (own : ReadsList slots es lexemes) : List.Forall₂ Denotes slots es := by
  have behind {slots : List (Option Int)} {es : List Expr} {lexemes : List Lexeme}
      (more : ReadsMore slots es lexemes) : List.Forall₂ Denotes slots es := by
    induction more with
    | closing | trailing => exact .nil
    | further _ own _ ih => exact .cons own.denotes ih
  cases own with
  | empty => exact .nil
  | items own more => exact .cons own.denotes (behind more)

theorem lexemes?_listed (listed : Listed slots text)
    (short : ∀ n, some n ∈ slots → Number.isOverlong n = false) :
    ∃ es lexemes, ReadsList slots es lexemes ∧
      lexemes? ('[' :: text) = some (⟨.op, ['['], 0⟩ :: lexemes) := by
  obtain ⟨es, lexemes, reads, lexed⟩ := lexemesFrom_listed listed short 1
  have first : lexemesFrom 0 0 0 ('[' :: text) = some (⟨.op, ['['], 0⟩ :: lexemes) := by
    rw [lexemesFrom_mark 0 0 (by decide) (fun next _ => runsOn_eq_false (by decide) next) rfl,
      lexed]
    rfl
  refine ⟨es, lexemes, reads, ?_⟩
  rw [lexemes?, first]
  rfl

/-- A list of numbers is read as a display of the elements that its items denote. -/
theorem Display.ofText_listed (listed : Listed slots text)
    (short : ∀ n, some n ∈ slots → Number.isOverlong n = false) :
    ∃ elements, Display.ofText ('[' :: text) = .list elements ∧
      List.Forall₂ (fun slot element => Denotes slot element.expr) slots elements := by
  obtain ⟨es, lexemes, reads, lexed⟩ := lexemes?_listed listed short
  have unbroken : '\r' ∉ '[' :: text := by
    have inside : '\r' ∉ text := fun present => absurd (listed.isListed _ present) (by decide)
    simpa using inside
  have enough : 20 ≤ fuelFor (⟨.op, ['['], 0⟩ :: lexemes) := Nat.le_add_left _ _
  have items := reads.itemsFrom enough
  rw [Display.ofText, unifyLineBreaks_of_free unbroken, lexed]
  dsimp only
  rw [reads.ofLexemes?]
  refine ⟨_, rfl, ?_⟩
  have each := reads.denotes
  rw [← items, List.forall₂_map_right_iff] at each
  rw [List.forall₂_map_right_iff]
  refine each.imp fun slot item own => ?_
  -- none of these expressions is in brackets of its own
  have bare : (trimGroups item.1 item.2).1 = item.1 := by
    obtain ⟨e, own_lexemes⟩ := item
    cases own <;> rfl
  exact bare.symm ▸ own

end
end ByteRecord.Expr
