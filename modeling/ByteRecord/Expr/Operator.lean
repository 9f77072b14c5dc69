import ByteRecord.Expr.Lexeme
import ByteRecord.Expr.Syntax

/-! Operators at the front of lexemes, and how tightly they bind. -/
namespace ByteRecord.Expr

/-- The comparison that comes next; some are spelt with two words. -/
def comparison? : List Lexeme → Option (Comparison × Rest)
  | ⟨.op, found, _⟩ :: rest =>
    match String.ofList found with
    | "==" => some (.eq, rest)
    | "!=" => some (.ne, rest)
    | "<" => some (.lt, rest)
    | "<=" => some (.le, rest)
    | ">" => some (.gt, rest)
    | ">=" => some (.ge, rest)
    | _ => none
  | lexemes =>
    if isWord "in" lexemes then some (.isIn, lexemes.tail)
    else if isWord "not" lexemes && isWord "in" lexemes.tail then
      some (.isNotIn, lexemes.tail.tail)
    else if isWord "is" lexemes then
      if isWord "not" lexemes.tail then some (.isNotSame, lexemes.tail.tail)
      else some (.isSame, lexemes.tail)
    else none

inductive Level where
  | disjunction
  | conjunction
  | inversion
  | comparison
  | bitOr
  | bitXor
  | bitAnd
  | shift
  | sum
  | term
  | factor
  | power
deriving DecidableEq, Repr

/-- The binary operators that group to the left, with their levels. -/
def leftOperators : String → Option (Level × BinaryOp)
  | "|" => some (.bitOr, .bitOr)
  | "^" => some (.bitXor, .bitXor)
  | "&" => some (.bitAnd, .bitAnd)
  | "<<" => some (.shift, .shiftLeft)
  | ">>" => some (.shift, .shiftRight)
  | "+" => some (.sum, .add)
  | "-" => some (.sum, .sub)
  | "*" => some (.term, .mul)
  | "/" => some (.term, .div)
  | "//" => some (.term, .floorDiv)
  | "%" => some (.term, .mod)
  | "@" => some (.term, .matMul)
  | _ => none

def leftOperator? (level : Level) : List Lexeme → Option (BinaryOp × Rest)
  | ⟨.op, found, _⟩ :: rest =>
    match leftOperators (String.ofList found) with
    | some (own, op) => if own == level then some (op, rest) else none
    | none => none
  | _ => none

def signOperator? : List Lexeme → Option (UnaryOp × Rest)
  | ⟨.op, ['+'], _⟩ :: rest => some (.plus, rest)
  | ⟨.op, ['-'], _⟩ :: rest => some (.minus, rest)
  | ⟨.op, ['~'], _⟩ :: rest => some (.invert, rest)
  | _ => none

/-- The next level; no operator of it binds less tightly. -/
def Level.tighter : Level → Level
  | .disjunction => .conjunction
  | .conjunction => .inversion
  | .inversion => .comparison
  | .comparison => .bitOr
  | .bitOr => .bitXor
  | .bitXor => .bitAnd
  | .bitAnd => .shift
  | .shift => .sum
  | .sum => .term
  | .term => .factor
  | .factor | .power => .power

end ByteRecord.Expr
