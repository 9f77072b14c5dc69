import ByteRecord.Effect
import ByteRecord.Hex.Lexer

/-! A lexer as an object that its steps change in place. A step that fails part of the way leaves the
changes made until then; that there are none is a fact about the order in which it changes things. -/
namespace ByteRecord.Hex

/-- Steps on a lexer, which keep what they changed when they fail. -/
abbrev Changing (α : Type) := ExceptT LexFault (StateM Lexer) α

namespace Lexer

/-- Reads one character at a position. -/
def advance (char : String) (position : Int) : Changing Unit := do
  let lexer ← get
  match lexer.pending with
  | some awaited =>
    match (single? char).bind (completed? awaited) with
    | none => throw (lexer.refuse awaited (some (char, position)))
    | some token =>
      modify fun lexer => { lexer with tokens := lexer.tokens ++ [token] }
      modify fun lexer => { lexer with pending := none }
  | none =>
    match single? char with
    | none => throw (.error (.invalid char position))
    | some c =>
      if isBlank c then return
      match opening? c with
      | none => throw (.error (.invalid char position))
      | some awaited =>
        modify fun lexer => { lexer with pending := some awaited }
        modify fun lexer => { lexer with pendingAt := position }

/-- Reads characters from a position on. -/
def advanceAll (position : Int) : List String → Changing Unit
  | [] => return
  | char :: rest => do
    advance char position
    advanceAll (position + 1) rest

/-- Reads the whole text and checks that no pair is left open. -/
def advanceText : Changing (List Token) := do
  advanceAll 0 (← get).text
  let lexer ← get
  match lexer.pending with
  | some awaited => throw (lexer.refuse awaited none)
  | none => return lexer.tokens

theorem run_get : (get : Changing Lexer).run lexer = (.ok lexer, lexer) := rfl

theorem run_advance (lexer : Lexer) (char : String) (position : Int) :
    (advance char position).run lexer = match lexer.feed char position with
      | .ok later => (.ok (), later)
      | .error fault => (.error fault, lexer) := by
  unfold advance feed feedPiece
  rw [run_bind, run_get]
  dsimp only
  cases pending : lexer.pending with
  | some awaited =>
    dsimp only
    cases (single? char).bind (completed? awaited) <;> rfl
  | none =>
    dsimp only
    cases single? char with
    | none => rfl
    | some c =>
      dsimp only
      split
      · rfl
      · cases opening? c <;> rfl

/-- A character that is refused leaves the lexer as it is. -/
theorem run_advance_refused (refused : ((advance char position).run lexer).1 = .error fault) :
    ((advance char position).run lexer).2 = lexer := by
  rw [run_advance] at refused ⊢
  cases fed : lexer.feed char position with
  | ok later =>
    rw [fed] at refused
    cases refused
  | error fault => rfl

/-- What follows on a character is read if the character is. -/
theorem run_advanceAll_cons (lexer : Lexer) (position : Int) (char : String) (rest : List String) :
    (advanceAll position (char :: rest)).run lexer = match lexer.feed char position with
      | .ok later => (advanceAll (position + 1) rest).run later
      | .error fault => (.error fault, lexer) := by
  rw [advanceAll, run_bind, run_advance]
  cases lexer.feed char position <;> rfl

theorem run_advanceAll (lexer : Lexer) (position : Nat) (chars : List String) :
    (advanceAll position chars).run lexer = lexer.feedAll position chars := by
  induction chars generalizing lexer position with
  | nil => rfl
  | cons char rest ih =>
    rw [run_advanceAll_cons, feedAll]
    cases lexer.feed char position with
    | ok later => exact ih later (position + 1)
    | error fault => rfl

theorem run_advanceText (lexer : Lexer) : advanceText.run lexer = lexer.run := by
  rw [advanceText, run_bind, run_get]
  dsimp only
  rw [run_bind, show (0 : Int) = (0 : Nat) from rfl, run_advanceAll, run]
  obtain ⟨answer, later⟩ := lexer.feedAll 0 lexer.text
  cases answer with
  | error fault => rfl
  | ok _ =>
    dsimp only
    rw [run_bind, run_get, finish]
    dsimp only
    cases later.pending <;> rfl

/-- What is done with a lexer. -/
inductive Step where
  | feed (char : String) (position : Int)
  | run

def Step.perform : Step → Changing Unit
  | .feed char position => advance char position
  | .run => do
    let _ ← advanceText

/-- The lexer behind some steps, those that fail included. -/
def after (lexer : Lexer) (steps : List Step) : Lexer :=
  steps.foldl (fun lexer step => (step.perform.run lexer).2) lexer

end Lexer
end ByteRecord.Hex
