/-! The expressions that specifications embed: literals, names, displays, operators, calls,
assignments in passing, functions and comprehensions. -/
namespace ByteRecord.Expr

inductive Constant where
  | none
  | bool (value : Bool)
  | ellipsis
  | int (value : Nat)
  | float (value : Float)
  | imaginary (value : Float)
  | str (text : String)
  | bytes (data : List UInt8)

inductive UnaryOp where
  | plus
  | minus
  | invert
  | not
deriving DecidableEq, Repr

inductive BinaryOp where
  | add
  | sub
  | mul
  | div
  | floorDiv
  | mod
  | pow
  | matMul
  | shiftLeft
  | shiftRight
  | bitAnd
  | bitOr
  | bitXor
deriving DecidableEq, Repr

inductive Comparison where
  | eq
  | ne
  | lt
  | le
  | gt
  | ge
  | isSame
  | isNotSame
  | isIn
  | isNotIn
deriving DecidableEq, Repr

inductive ComprehensionKind where
  | list
  | set
  | dict
  | generator
deriving DecidableEq, Repr

inductive ParameterKind where
  | positional
  | keywordOnly
  | rest
  | keywordRest
deriving DecidableEq, Repr

/-- A parameter of an anonymous function; defaults are kept beside the parameters. -/
structure Parameter where
  name : String
  kind : ParameterKind
  hasDefault : Bool
deriving DecidableEq, Repr

end Expr

/-- An expression. Children are expressions or lists of them, so that every function on expressions
is a recursion over one type. -/
inductive Expr where
  | const (value : Expr.Constant)
  | name (name : String)
  /-- An expression in redundant brackets. -/
  | group (inner : Expr)
  /-- A text, and the expressions embedded in it. -/
  | formatted (text : String) (parts : List Expr)
  | tuple (items : List Expr)
  | list (items : List Expr)
  | set (items : List Expr)
  /-- The items are entries or spread mappings. -/
  | dict (items : List Expr)
  | entry (key value : Expr)
  /-- `*e` in a display or among arguments. -/
  | starred (inner : Expr)
  /-- `**e` in a mapping or among arguments. -/
  | spread (inner : Expr)
  | unary (op : Expr.UnaryOp) (operand : Expr)
  | binary (op : Expr.BinaryOp) (left right : Expr)
  /-- A chain `first op₁ e₁ op₂ e₂ …`, each operand evaluated once. -/
  | compare (first : Expr) (ops : List Expr.Comparison) (operands : List Expr)
  | all (operands : List Expr)
  | any (operands : List Expr)
  | conditional (test positive negative : Expr)
  | attribute (object : Expr) (name : String)
  | subscript (object index : Expr)
  /-- A missing bound is the constant `none`. -/
  | slice (start stop step : Expr)
  | call (function : Expr) (arguments : List Expr)
  | keyword (name : String) (value : Expr)
  /-- `name := e`. -/
  | assign (name : String) (value : Expr)
  | lambda (parameters : List Expr.Parameter) (defaults : List Expr) (body : Expr)
  | comprehension (kind : Expr.ComprehensionKind) (element : Expr) (clauses : List Expr)
  | clause (isAsync : Bool) (target iterable : Expr) (conditions : List Expr)
  | await (inner : Expr)
  | yield (value : Expr)
  | yieldFrom (inner : Expr)

namespace Expr

instance : Inhabited Expr := ⟨.const .none⟩

/-- An expression without the redundant brackets around it. -/
def ungroup : Expr → Expr
  | .group inner => inner.ungroup
  | e => e

end Expr
end ByteRecord
