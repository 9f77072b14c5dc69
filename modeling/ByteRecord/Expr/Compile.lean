import ByteRecord.Expr.Parser
import ByteRecord.Expr.Scoping

/-! From text to expression. An embedded expression is read between brackets of its own, so that it
may span lines; what those brackets enclose need not be balanced by itself. -/
namespace ByteRecord.Expr

inductive CompileError where
  /-- The text breaks the rules of the notation, or it holds a null character. -/
  | malformed
deriving DecidableEq, Repr

/-- Reads a text as it stands. -/
def ofText? (text : List Char) : Option Expr := do
  ofLexemes? (← lexemes? (unifyLineBreaks text))

/-- The text with the brackets that let it span lines. -/
def enclose (text : List Char) : List Char :=
  '(' :: '\n' :: text ++ ['\n', ')']

def compile (text : List Char) : Except CompileError Expr :=
  if text.contains '\x00' then .error .malformed
  else match ofText? (enclose text) with
    | some e => if keepsRules .top e then .ok e else .error .malformed
    | none => .error .malformed

end ByteRecord.Expr
