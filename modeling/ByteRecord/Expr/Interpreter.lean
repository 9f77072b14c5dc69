import ByteRecord.Expr.Evaluate

/-! What running a plan needs to know about expressions and functions: how they are carried out,
with effects on a state. Whatever exception they end in is passed on as it is. -/
namespace ByteRecord

/-- Carries out expressions in a scope, which they may change, and calls. -/
structure Interpreter (σ : Type) where
  evaluate : Expr → Scope → σ → Except Fault Value × Scope × σ
  call : Value → Value.Arguments → σ → Except Fault Value × σ

namespace Interpreter

def evaluateApart (interpreter : Interpreter σ) (e : Expr) (scope : Scope) (state : σ) :
    Except Fault Value × σ :=
  let (result, _, state) := interpreter.evaluate e scope state
  (result, state)

def ofCalls (call : Value → Value.Arguments → Action σ Value) : Interpreter σ where
  evaluate e scope state :=
    let (result, world) := (Expr.evaluate call e).run ⟨scope, state⟩
    (result, world.scope, world.state)
  call function arguments := (call function arguments).run

/-- The usual interpreter: its state is how often each counter was called. -/
def standard : Interpreter Expr.Counts :=
  ofCalls Expr.callValue

end Interpreter

namespace Effect

/-- Evaluates in the scope itself, which the expression may change. -/
def evaluate (interpreter : Interpreter σ) (e : Expr) : Effect σ Value := ExceptT.mk fun world =>
  let (result, scope, state) := interpreter.evaluate e world.scope world.state
  (result, ⟨scope, state⟩)

/-- Evaluates in a copy of the scope that is changed first. -/
def evaluateApart (interpreter : Interpreter σ) (change : Scope → Scope) (e : Expr) :
    Effect σ Value :=
  apart fun scope => ExceptT.mk (interpreter.evaluateApart e (change scope))

def call (interpreter : Interpreter σ) (function : Value) (arguments : Value.Arguments) :
    Effect σ Value :=
  apart fun _ => ExceptT.mk (interpreter.call function arguments)

end Effect
end ByteRecord
