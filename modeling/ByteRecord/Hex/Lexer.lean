import ByteRecord.Hex.Token
import ByteRecord.Number.Decimal

/-! The lexer of hex literals: a machine that reads pairs of characters. Blanks may stand between
pairs but not within one. A step that fails changes nothing, so a lexer can be used on. -/
namespace ByteRecord.Hex

/-- The second half that a pair still lacks. -/
inductive Awaited where
  | digit (high : Nat)
  | underscore
  | dot
deriving DecidableEq, Repr

/-- Why a character is refused. -/
inductive LexRole where
  | expectedHexDigit
  | expectedUnderscore
  | expectedDot
  | invalidCharacter
deriving DecidableEq, Repr

def LexRole.name : LexRole → String
  | .expectedHexDigit => "expected-hex-digit"
  | .expectedUnderscore => "expected-underscore"
  | .expectedDot => "expected-dot"
  | .invalidCharacter => "invalid-character"

def Awaited.role : Awaited → LexRole
  | .digit _ => .expectedHexDigit
  | .underscore => .expectedUnderscore
  | .dot => .expectedDot

def Awaited.expectation : Awaited → String
  | .digit _ => "expected a matching hex digit"
  | .underscore => "expected a matching `_`"
  | .dot => "expected a second `.`"

inductive LexError where
  /-- A character that begins no pair. -/
  | invalid (char : String) (position : Int)
  /-- A first half that what was found, or the end of the text, does not complete. -/
  | unpaired (awaited : Awaited) (orphan : String) (position : Int) (found : Option (String × Int))
deriving DecidableEq, Repr

namespace LexError

def role : LexError → LexRole
  | .invalid _ _ => .invalidCharacter
  | .unpaired awaited _ _ _ => awaited.role

/-- The refused character; empty at the end of the text. -/
def char : LexError → String
  | .invalid char _ => char
  | .unpaired _ _ _ found => (found.map (·.1)).getD ""

/-- Where the pair starts that could not be read. -/
def position : LexError → Int
  | .invalid _ position => position
  | .unpaired _ _ position _ => position

def message : LexError → String
  | .invalid char position =>
    "invalid character: `" ++ char ++ "` at position " ++ Number.intText position
  | .unpaired awaited orphan position found =>
    awaited.expectation ++ " for `" ++ orphan ++ "` at position " ++
      Number.intText position ++ ", got " ++
      match found with
      | some (char, at_) => "`" ++ char ++ "` at position " ++ Number.intText at_
      | none => "end of input"

end LexError

/-- Why a step of a lexer fails. -/
inductive LexFault where
  | error (error : LexError)
  /-- The first half of the pair does not stand in the text. -/
  | noOrphan
deriving DecidableEq, Repr

structure Lexer where
  /-- The characters, each as a text of its own. -/
  text : List String
  /-- What the pair that was begun lacks. -/
  pending : Option Awaited
  tokens : List Token
  /-- Where the pair that was begun starts. -/
  pendingAt : Int

namespace Lexer

def ofPieces (text : List String) : Lexer :=
  ⟨text, none, [], 0⟩

def ofText (text : List Char) : Lexer :=
  ofPieces (text.map Char.toString)

/-- The name of the state. -/
def stateName (lexer : Lexer) : String :=
  match lexer.pending with
  | none => "idle"
  | some (.digit _) => "await-hex"
  | some .underscore => "await-underscore"
  | some .dot => "await-dot"

/-- The character that began the pair; positions below zero count from the end of the text. -/
def orphan? (lexer : Lexer) : Option String :=
  let index := if lexer.pendingAt < 0 then lexer.pendingAt + lexer.text.length
    else lexer.pendingAt
  if index < 0 then none else lexer.text[index.toNat]?

def refuse (lexer : Lexer) (awaited : Awaited) (found : Option (String × Int)) :
    LexFault :=
  match lexer.orphan? with
  | some orphan => .error (.unpaired awaited orphan lexer.pendingAt found)
  | none => .noOrphan

theorem refuse_of_orphan? {lexer : Lexer} (awaited : Awaited) (found : Option (String × Int))
    (stands : lexer.orphan? = some orphan) :
    lexer.refuse awaited found = .error (.unpaired awaited orphan lexer.pendingAt found) := by
  rw [refuse, stands]

def isBlank (c : Char) : Bool :=
  c == ' ' || c == '\r' || c == '\n' || c == '\t'

/-- What a first character begins, if it begins a pair. -/
def opening? (c : Char) : Option Awaited :=
  match digitValue? c with
  | some value => some (.digit value)
  | none => if c == '_' then some .underscore else if c == '.' then some .dot else none

/-- The token that a second character completes. -/
def completed? (awaited : Awaited) (c : Char) : Option Token :=
  match awaited with
  | .digit high => (digitValue? c).map fun low => .exact (UInt8.ofNat (high * 16 + low))
  | .underscore => if c == '_' then some .wildcard else none
  | .dot => if c == '.' then some .openRange else none

/-- A text that is one character. -/
def single? (char : String) : Option Char :=
  match char.toList with
  | [c] => some c
  | _ => none

/-- Reads one character, if it is one, at a position; what is no character has only a text. -/
def feedPiece (lexer : Lexer) (c : Option Char) (shown : String) (position : Int) :
    Except LexFault Lexer :=
  match lexer.pending with
  | some awaited =>
    match c.bind (completed? awaited) with
    | some token => .ok { lexer with pending := none, tokens := lexer.tokens ++ [token] }
    | none => .error (lexer.refuse awaited (some (shown, position)))
  | none =>
    match c with
    | none => .error (.error (.invalid shown position))
    | some c =>
      if isBlank c then .ok lexer
      else match opening? c with
        | some awaited => .ok { lexer with pending := some awaited, pendingAt := position }
        | none => .error (.error (.invalid shown position))

/-- Reads one character at a position. A text of another length than one is no known character. -/
def feed (lexer : Lexer) (char : String) (position : Int) : Except LexFault Lexer :=
  lexer.feedPiece (single? char) char position

/-- Reads characters from a position on; also answers how far it got. -/
def feedAll (lexer : Lexer) (position : Nat) : List String → Except LexFault Unit × Lexer
  | [] => (.ok (), lexer)
  | c :: rest =>
    match lexer.feed c position with
    | .ok lexer => lexer.feedAll (position + 1) rest
    | .error fault => (.error fault, lexer)

/-- The tokens, if no pair is left open. -/
def finish (lexer : Lexer) : Except LexFault (List Token) :=
  match lexer.pending with
  | some awaited => .error (lexer.refuse awaited none)
  | none => .ok lexer.tokens

/-- Reads the whole text and checks that no pair is left open. -/
def run (lexer : Lexer) : Except LexFault (List Token) × Lexer :=
  match lexer.feedAll 0 lexer.text with
  | (.error fault, lexer) => (.error fault, lexer)
  | (.ok _, lexer) => (lexer.finish, lexer)

end Lexer

/-- The tokens of a hex literal. -/
def tokenize (text : List Char) : Except LexFault (List Token) :=
  (Lexer.ofText text).run.1

end ByteRecord.Hex
