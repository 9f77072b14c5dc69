import ByteRecord.Expr.Parser

/-! Operands that end before a comma, before a closing square bracket or with the text. There no
operator goes on, so what is read where the signs are is read on every looser level. -/
namespace ByteRecord.Expr

/-- Lexemes that no expression goes on with. -/
inductive Ends : List Lexeme → Prop
  | nil : Ends []
  | comma : Ends (⟨.op, [','], start⟩ :: rest)
  | closing : Ends (⟨.op, [']'], start⟩ :: rest)

namespace Ends
variable {rest : List Lexeme}

theorem isWord_eq_false (ends : Ends rest) (word : String) : isWord word rest = false := by
  cases ends <;> rfl

theorem isOp_eq_false (ends : Ends rest) {text : String}
    (other : text.toList ≠ [','] ∧ text.toList ≠ [']']) : isOp text rest = false := by
  cases ends with
  | nil => rfl
  | comma => exact beq_eq_false_iff_ne.mpr other.1.symm
  | closing => exact beq_eq_false_iff_ne.mpr other.2.symm

theorem comparison?_eq_none (ends : Ends rest) : comparison? rest = none := by
  cases ends <;> rfl

theorem leftOperator?_eq_none (ends : Ends rest) (level : Level) :
    leftOperator? level rest = none := by
  cases ends <;> rfl

theorem chain_eq (ends : Ends rest) (fuel : Nat) (word : String) (level : Level) :
    chain (fuel + 1) word level rest = some ([], rest) := by
  rw [chain, ends.isWord_eq_false, if_neg Bool.false_ne_true]

theorem comparisons_eq (ends : Ends rest) (fuel : Nat) :
    comparisons (fuel + 1) rest = some ([], rest) := by
  rw [comparisons, ends.comparison?_eq_none]

theorem leftChain_eq (ends : Ends rest) (fuel : Nat) (level : Level) (e : Expr) :
    leftChain (fuel + 1) level e rest = some (e, rest) := by
  rw [leftChain, ends.leftOperator?_eq_none]

theorem suffixes_eq (ends : Ends rest) (fuel : Nat) (e : Expr) :
    suffixes (fuel + 1) e rest = some (e, rest) := by
  rw [suffixes, ends.isOp_eq_false (by decide), ends.isOp_eq_false (by decide),
    ends.isOp_eq_false (by decide)]
  rfl

end Ends

/-- How many levels bind tighter. -/
def Level.above : Level → Nat
  | .disjunction => 11
  | .conjunction => 10
  | .inversion => 9
  | .comparison => 8
  | .bitOr => 7
  | .bitXor => 6
  | .bitAnd => 5
  | .shift => 4
  | .sum => 3
  | .term => 2
  | .factor => 1
  | .power => 0

theorem Level.above_tighter {level : Level} (other : level ≠ .power) :
    level.tighter.above + 1 = level.above := by
  cases level
  case power => exact absurd rfl other
  all_goals rfl

section
variable {lexemes rest : List Lexeme} {e : Expr}

theorem operand_factor_of_atom (read : ∀ fuel, least < fuel → atom fuel lexemes = some (e, rest))
    (ends : Ends rest) (unsigned : signOperator? lexemes = none)
    (awaits : isWord "await" lexemes = false) (enough : 4 + least < fuel) :
    operand fuel .factor lexemes = some (e, rest) := by
  obtain ⟨fuel, rfl⟩ : ∃ less, fuel = less + 5 := ⟨fuel - 5, by omega⟩
  have whole : primary (fuel + 2) lexemes = some (e, rest) := by
    rw [primary, read _ (by omega)]
    exact ends.suffixes_eq fuel e
  rw [operand, unsigned]
  dsimp only
  rw [operand, awaited, awaits, if_neg Bool.false_ne_true, whole]
  dsimp only [Option.bind_eq_bind, Option.bind_some]
  rw [ends.isOp_eq_false (by decide)]
  rfl

/-- No operator of a level goes on with an operand of the tighter one. -/
theorem operand_of_tighter {level : Level}
    (tighter : operand (fuel + 1) level.tighter lexemes = some (e, rest)) (ends : Ends rest)
    (plain : isWord "not" lexemes = false) (loose : level ≠ .power) (last : level ≠ .factor) :
    operand (fuel + 2) level lexemes = some (e, rest) := by
  cases level
  case factor => exact absurd rfl last
  case power => exact absurd rfl loose
  case inversion =>
    rw [operand, plain, if_neg Bool.false_ne_true]
    exact tighter
  case disjunction | conjunction =>
    rw [Level.tighter] at tighter
    rw [operand, tighter]
    dsimp only [Option.bind_eq_bind, Option.bind_some]
    rw [ends.chain_eq]
    rfl
  case comparison =>
    rw [Level.tighter] at tighter
    rw [operand, tighter]
    dsimp only [Option.bind_eq_bind, Option.bind_some]
    rw [ends.comparisons_eq]
    rfl
  all_goals
    rw [operand, tighter]
    · exact ends.leftChain_eq fuel _ e
    all_goals decide

/-- What is an operand where the signs are is one of every looser level. -/
theorem operand_of_factor
    (read : ∀ fuel, least < fuel → operand fuel .factor lexemes = some (e, rest))
    (ends : Ends rest) (plain : isWord "not" lexemes = false) (level : Level)
    (loose : level ≠ .power) (enough : level.above + least ≤ fuel) :
    operand fuel level lexemes = some (e, rest) := by
  induction fuel generalizing level with
  | zero =>
    have above := Level.above_tighter loose
    omega
  | succ fuel ih =>
    have above := Level.above_tighter loose
    by_cases last : level = .factor
    · subst last
      exact read _ (by simp only [Level.above] at enough; omega)
    · have tight : level.tighter ≠ .power := by
        cases level
        case factor => exact absurd rfl last
        case power => exact absurd rfl loose
        all_goals decide
      have tighter := ih level.tighter tight (by omega)
      have positive := Level.above_tighter tight
      obtain ⟨fuel, rfl⟩ : ∃ less, fuel = less + 1 := ⟨fuel - 1, by omega⟩
      exact operand_of_tighter tighter ends plain loose last

theorem expression_of_factor
    (read : ∀ fuel, least < fuel → operand fuel .factor lexemes = some (e, rest))
    (ends : Ends rest) (plain : isWord "not" lexemes = false)
    (named : isWord "lambda" lexemes = false) (enough : 12 + least ≤ fuel) :
    expression fuel lexemes = some (e, rest) := by
  obtain ⟨fuel, rfl⟩ : ∃ less, fuel = less + 1 := ⟨fuel - 1, by omega⟩
  have loosest : operand fuel .disjunction lexemes = some (e, rest) :=
    operand_of_factor read ends plain .disjunction nofun (by simp only [Level.above]; omega)
  rw [expression, named, if_neg Bool.false_ne_true, loosest]
  dsimp only [Option.bind_eq_bind, Option.bind_some]
  rw [ends.isWord_eq_false]
  rfl

end
end ByteRecord.Expr
