import ByteRecord.Expr.Compile
import ByteRecord.Proofs.Lexical.Delimiters

/-! What expressions begin with. -/
namespace ByteRecord.Expr
open Text Lexical

/-- Lexemes that no expression begins with: an operator comes first that is neither a sign nor an
opening bracket that an expression follows. -/
structure Bars (lexemes : List Lexeme) : Prop where
  operator : ∃ found start rest, lexemes = ⟨.op, found, start⟩ :: rest
  unsigned : signOperator? lexemes = none
  no_atom : ∀ fuel, atom fuel lexemes = none

namespace Bars
variable {lexemes : List Lexeme}

theorem isWord_eq_false (bars : Bars lexemes) (word : String) : isWord word lexemes = false := by
  obtain ⟨found, start, rest, rfl⟩ := bars.operator
  rfl

theorem primary_eq_none (bars : Bars lexemes) (fuel : Nat) : primary fuel lexemes = none := by
  cases fuel with
  | zero => rw [primary]
  | succ fuel =>
    rw [primary, bars.no_atom]
    rfl

theorem awaited_eq_none (bars : Bars lexemes) (fuel : Nat) : awaited fuel lexemes = none := by
  cases fuel with
  | zero => rw [awaited]
  | succ fuel =>
    rw [awaited, bars.isWord_eq_false, if_neg Bool.false_ne_true]
    exact bars.primary_eq_none fuel

theorem operand_eq_none (bars : Bars lexemes) (fuel : Nat) (level : Level) :
    operand fuel level lexemes = none := by
  induction fuel generalizing level with
  | zero => rw [operand]
  | succ fuel ih =>
    cases level <;> simp [operand, ih, bars.isWord_eq_false, bars.unsigned, bars.awaited_eq_none]

theorem expression_eq_none (bars : Bars lexemes) (fuel : Nat) : expression fuel lexemes = none := by
  cases fuel with
  | zero => rw [expression]
  | succ fuel =>
    rw [expression, bars.isWord_eq_false, if_neg Bool.false_ne_true, bars.operand_eq_none]
    rfl

theorem namedExpr_eq_none (bars : Bars lexemes) (fuel : Nat) : namedExpr fuel lexemes = none := by
  obtain ⟨found, start, rest, rfl⟩ := bars.operator
  cases fuel with
  | zero => rw [namedExpr]
  | succ fuel =>
    rw [namedExpr]
    exact bars.expression_eq_none fuel

/-- An opening bracket before such lexemes is of no use. -/
theorem behind_bracket (bars : Bars lexemes) (opened : isOp ")" lexemes = false)
    (plain : isOp "*" lexemes = false) (start : Nat) : Bars (⟨.op, ['('], start⟩ :: lexemes) where
  operator := ⟨_, _, _, rfl⟩
  unsigned := rfl
  no_atom fuel := by
    have item (fuel : Nat) : displayItem fuel lexemes = none := by
      cases fuel with
      | zero => rw [displayItem]
      | succ fuel =>
        rw [displayItem, plain, if_neg Bool.false_ne_true]
        exact bars.namedExpr_eq_none fuel
    have inside (fuel : Nat) : bracketed fuel lexemes = none := by
      cases fuel with
      | zero => rw [bracketed]
      | succ fuel =>
        rw [bracketed, opened, bars.isWord_eq_false, if_neg Bool.false_ne_true,
          if_neg Bool.false_ne_true, item]
        rfl
    cases fuel with
    | zero => rw [atom]
    | succ fuel =>
      rw [atom]
      exact inside fuel

/-- No expression begins with a comparison or with an equals sign. -/
theorem of_first {c : Char} (sign : c = '=' ∨ c = '>') (more : List Char) (start : Nat)
    (rest : List Lexeme) : Bars (⟨.op, c :: more, start⟩ :: rest) where
  operator := ⟨_, _, _, rfl⟩
  unsigned := by
    rcases sign with rfl | rfl <;> rfl
  no_atom fuel := by
    have apart (op : String) (other : op.toList.head? ≠ some c) : String.ofList (c :: more) ≠ op := by
      rintro rfl
      exact other (by rw [String.toList_ofList]; rfl)
    cases fuel with
    | zero => rw [atom]
    | succ fuel =>
      rw [atom]
      split
      case h_5 => rfl
      all_goals
        next same => exact absurd same (apart _ (by rcases sign with rfl | rfl <;> decide))

end Bars
theorem operatorWidth_pos (c : Char) (operator : [c] ∈ operators) (rest : List Char) :
    0 < operatorWidth (c :: rest) := by
  have all : operators.all (0 < ·.length) = true := by decide +kernel
  cases found : operators.find? (·.isPrefixOf (c :: rest)) with
  | none => exact absurd (by simp) (List.find?_eq_none.mp found [c] operator)
  | some first =>
    rw [operatorWidth, found]
    exact of_decide_eq_true (List.all_eq_true.mp all first (List.mem_of_find?_eq_some found))

theorem head?_of_operator {c : Char} (sign : c = '=' ∨ c = '>' ∨ c = '(') (depth : Nat)
    (rest : List Char) :
    head? depth (c :: rest) = some (.lexeme .op (operatorWidth (c :: rest))) := by
  have positive : (operatorWidth (c :: rest) != 0) = true :=
    bne_iff_ne.mpr (Nat.pos_iff_ne_zero.mp
      (operatorWidth_pos c (by rcases sign with rfl | rfl | rfl <;> decide) rest))
  have plain : opening? (c :: rest) = none := by
    cases opens : opening? (c :: rest) with
    | none => rfl
    | some opening =>
      have begins := first_of_opening? opens
      rcases sign with rfl | rfl | rfl <;> exact absurd begins (by decide)
  have number : numberWidth (c :: rest) = 0 :=
    numberWidth_eq_zero (by rcases sign with rfl | rfl | rfl <;> decide)
      (by rcases sign with rfl | rfl | rfl <;> decide) rest
  have name : (c :: rest).takeWhile isNamePart = [] :=
    List.takeWhile_cons_of_neg (by rcases sign with rfl | rfl | rfl <;> decide)
  have no_space : isSpace c = false := by
    rcases sign with rfl | rfl | rfl <;> decide
  unfold head?
  split
  case h_5 same =>
    cases same
    rw [no_space, plain, number, name]
    exact if_pos positive
  all_goals
    next same => rcases sign with rfl | rfl | rfl <;> cases same

theorem of_lexemesFrom {c : Char} (sign : c = '=' ∨ c = '>' ∨ c = '(')
    (lexed : lexemesFrom offset 0 depth (c :: rest) = some lexemes) :
    ∃ later depth', lexemes = ⟨.op, (c :: rest).take (operatorWidth (c :: rest)), offset⟩ :: later ∧
      depthAfter? .op ((c :: rest).take (operatorWidth (c :: rest))) depth = some depth' ∧
      lexemesFrom (offset + 1) (operatorWidth (c :: rest) - 1) depth' rest = some later := by
  rw [lexemesFrom, head?_of_operator sign] at lexed
  dsimp only at lexed
  split at lexed
  · cases lexed
  · next depth' opened =>
    obtain ⟨later, behind, rfl⟩ := Option.map_eq_some_iff.mp lexed
    exact ⟨later, depth', rfl, opened, behind⟩

/-- A text that is an expression begins with neither. -/
theorem first_of_compile {c : Char} (compiled : compile (c :: text) = .ok code) :
    c ≠ '=' ∧ c ≠ '>' := by
  rw [← not_or]
  intro sign
  have unified : unifyLineBreaks (enclose (c :: text)) =
      '(' :: '\n' :: c :: unifyLineBreaks (text ++ ['\n', ')']) := by
    rcases sign with rfl | rfl <;> rfl
  generalize unifyLineBreaks (text ++ ['\n', ')']) = rest at unified
  have opened : operatorWidth ('(' :: '\n' :: c :: rest) = 1 :=
    operatorWidth_eq_one (by decide) fun next _ => runsOn_eq_false (by decide +kernel) next
  have unread : ofText? (enclose (c :: text)) = none := by
    rw [ofText?, unified, lexemes?]
    cases lexed : lexemesFrom 0 0 0 ('(' :: '\n' :: c :: rest) with
    | none => rfl
    | some lexemes =>
      obtain ⟨later, depth, rfl, inside, behind⟩ := of_lexemesFrom (.inr (.inr rfl)) lexed
      rw [opened] at inside behind
      cases inside
      obtain ⟨later, -, rfl, -, -⟩ := @of_lexemesFrom 2 _ _ _ _ (sign.imp_right .inl) behind
      have positive := operatorWidth_pos c (by rcases sign with rfl | rfl <;> decide) rest
      obtain ⟨width, same⟩ := Nat.exists_eq_succ_of_ne_zero (Nat.pos_iff_ne_zero.mp positive)
      have bars := (Bars.of_first sign (rest.take width) 2 later).behind_bracket
        (by rcases sign with rfl | rfl <;> rfl) (by rcases sign with rfl | rfl <;> rfl) 0
      rw [opened, same]
      change ofLexemes? (⟨.op, ['('], 0⟩ :: ⟨.op, c :: rest.take width, 2⟩ :: later) = none
      rw [ofLexemes?, bars.expression_eq_none]
      rfl
  rw [compile, unread] at compiled
  split at compiled <;> cases compiled

end ByteRecord.Expr
