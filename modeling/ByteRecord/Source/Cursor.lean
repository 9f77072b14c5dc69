import ByteRecord.Expr.Embedded
import ByteRecord.Text.Lines

/-! A position in the tokens of a specification text. It only moves forward; looking ahead beyond
the last token shows the last token, and the end of the text is never passed. -/
namespace ByteRecord.Source

structure Cursor where
  source : List Char
  tokens : List Token
  index : Nat

namespace Cursor

def ofText (source : List Char) : Except Fault Cursor :=
  match tokenize source with
  | .ok tokens => .ok ⟨source, tokens, 0⟩
  | .error error => .error (.ofCause .struct (.tokens error))

/-- The end of an empty text. -/
def endToken : Token := ⟨.finish, "", ⟨1, 0⟩, ⟨1, 0⟩⟩

/-- The token some places ahead. -/
def peek (cursor : Cursor) (offset : Nat) : Token :=
  cursor.tokens.getD (min (cursor.index + offset) (cursor.tokens.length - 1)) endToken

/-- The token some places ahead or behind; before the first token one counts from the last. -/
def lookAt? (cursor : Cursor) (offset : Int) : Option Token :=
  let count : Int := cursor.tokens.length
  let place := min (cursor.index + offset) (count - 1)
  let place := if place < 0 then place + count else place
  if place < 0 then none else cursor.tokens[place.toNat]?

def current (cursor : Cursor) : Token :=
  cursor.peek 0

def atEnd (cursor : Cursor) : Bool :=
  cursor.current.kind == .finish

def location (cursor : Cursor) : Location :=
  cursor.current.start

end Cursor

def Token.isOp (token : Token) (op : String) : Bool :=
  token.kind == .op && token.text == op

/-- Whether two tokens spell an operator of two characters: they stand side by side. -/
def Token.spells (first second : Token) (a b : String) : Bool :=
  first.isOp a && second.isOp b && first.stop == second.start

def Token.isArrow (first second : Token) : Bool :=
  first.spells second "=" ">"

namespace Cursor

def atOp (cursor : Cursor) (op : String) : Bool :=
  cursor.current.isOp op

def atName (cursor : Cursor) : Bool :=
  cursor.current.kind == .name

/-- `=>` comes next. -/
def atArrow (cursor : Cursor) : Bool :=
  cursor.current.isArrow (cursor.peek 1)

/-- `..` comes next. -/
def atRest (cursor : Cursor) : Bool :=
  cursor.current.spells (cursor.peek 1) "." "."

/-- Behind the next token, unless that is the end. -/
def advanced (cursor : Cursor) : Cursor :=
  if cursor.atEnd then cursor else { cursor with index := cursor.index + 1 }

/-- A cursor with some tokens ahead looks at the first of them. -/
theorem current_of_drop {cursor : Cursor}
    (here : cursor.tokens.drop cursor.index = token :: rest) : cursor.current = token := by
  have count := congrArg List.length here
  rw [List.length_drop, List.length_cons] at count
  have place : min (cursor.index + 0) (cursor.tokens.length - 1) = cursor.index := by omega
  have first := congrArg List.head? here
  rw [List.head?_drop, List.head?_cons] at first
  rw [current, peek, place, List.getD_eq_getElem?_getD, first, Option.getD_some]

/-- One place ahead stands the token behind that, or the last token again. -/
theorem peek_one_of_drop {cursor : Cursor}
    (here : cursor.tokens.drop cursor.index = token :: rest) :
    cursor.peek 1 = rest.headD token := by
  have count := congrArg List.length here
  rw [List.length_drop, List.length_cons] at count
  cases rest with
  | nil =>
    have place : min (cursor.index + 1) (cursor.tokens.length - 1) =
        min (cursor.index + 0) (cursor.tokens.length - 1) := by
      rw [List.length_nil] at count
      omega
    rw [peek, place]
    exact current_of_drop here
  | cons second later =>
    have place : min (cursor.index + 1) (cursor.tokens.length - 1) = cursor.index + 1 := by
      rw [List.length_cons] at count
      omega
    have next := congrArg (fun tokens => tokens[1]?) here
    rw [List.getElem?_drop, List.getElem?_cons_succ, List.getElem?_cons_zero] at next
    rw [peek, place, List.getD_eq_getElem?_getD, next, Option.getD_some, List.headD_cons]

theorem peek_mem {cursor : Cursor} (some_token : 0 < cursor.tokens.length) (offset : Nat) :
    cursor.peek offset ∈ cursor.tokens := by
  have inside : min (cursor.index + offset) (cursor.tokens.length - 1) < cursor.tokens.length := by
    omega
  rw [peek, List.getD_eq_getElem?_getD, List.getElem?_eq_getElem inside]
  exact List.getElem_mem inside

/-- What stands next, for a message. -/
def found (cursor : Cursor) : Found :=
  if cursor.atEnd then .finish else .token cursor.current.text

/-- Something else is wanted than what comes next. -/
def unexpected (cursor : Cursor) (kind : SpecificationKind) (wanted : Wanted) : Fault :=
  .ofCauseAt (some cursor.location) kind (.unexpected wanted cursor.found)

/-- The offset of a row and column in the text. Rows are looked up among the line starts, where rows
before the first count from the end. -/
def offset? (cursor : Cursor) (row column : Int) : Option Int :=
  let starts := Text.lineStarts cursor.source
  let place := row - 1
  let place := if place < 0 then place + starts.length else place
  if place < 0 then none else starts[place.toNat]?.map fun (start : Nat) => start + column

/-- The text from one location to another. -/
def between? (cursor : Cursor) (start stop : Location) : Option (List Char) := do
  let first ← cursor.offset? start.line start.column
  let last ← cursor.offset? stop.line stop.column
  return (cursor.source.drop first.toNat).take (last - first).toNat

/-- Whether an expression ends before a token outside all of its brackets. -/
def endsExpression (stopAtArrow : Bool) (token next : Token) : Bool :=
  token.kind == .op &&
    (token.text == "," || Lexical.isClosing token.text || (stopAtArrow && token.isArrow next))

def depthAfter (token : Token) (depth : Nat) : Nat :=
  if token.kind != .op then depth
  else if Lexical.isOpening token.text then depth + 1
  else if Lexical.isClosing token.text then depth - 1
  else depth

/-- The number of tokens of the expression that comes next: up to a comma, a closing bracket or an
arrow outside all of its own brackets. -/
def expressionWidth (stopAtArrow : Bool) : (depth : Nat) → List Token → Nat
  | _, [] => 0
  | depth, token :: rest =>
    if token.kind == .finish then 0
    else if depth == 0 && endsExpression stopAtArrow token (rest.headD token) then 0
    else expressionWidth stopAtArrow (depthAfter token depth) rest + 1

theorem expressionWidth_le (stopAtArrow : Bool) (depth : Nat) (tokens : List Token) :
    expressionWidth stopAtArrow depth tokens ≤ tokens.length := by
  induction tokens generalizing depth with
  | nil => exact Nat.le_refl 0
  | cons token rest ih =>
    rw [expressionWidth]
    split
    · exact Nat.zero_le _
    · split
      · exact Nat.zero_le _
      · exact Nat.succ_le_succ (ih _)

end Cursor

/-- A computation that moves a cursor and can fail; a failure leaves the cursor where it is. -/
abbrev Reading := ExceptT Fault (StateM Cursor)

namespace Reading

def next : Reading Token := do
  let cursor ← get
  set cursor.advanced
  return cursor.current

/-- Moves over some tokens. -/
def skip (count : Nat) : Reading Unit :=
  modify fun cursor => { cursor with index := cursor.index + count }

def fail (kind : SpecificationKind) (wanted : Wanted) : Reading α := do
  throw ((← get).unexpected kind wanted)

def expectOp (op : String) (kind : SpecificationKind) (wanted : Wanted) : Reading Token := do
  if (← get).atOp op then next else fail kind wanted

def expectArrow (kind : SpecificationKind) (wanted : Wanted) : Reading Unit := do
  if (← get).atArrow then skip 2 else fail kind wanted

/-- The text and the location of the expression that comes next. -/
def takeExpression (stopAtArrow : Bool) (kind : SpecificationKind) :
    Reading (List Char × Location) := do
  let cursor ← get
  let ahead := cursor.tokens.drop cursor.index
  let width := Cursor.expressionWidth stopAtArrow 0 ahead
  skip width
  match ahead.take width with
  | [] => fail kind .expression
  | first :: rest =>
    match cursor.between? first.start (rest.getLastD first).stop with
    | some text => return (text, first.start)
    | none => throw (.failure .index)

/-- The expression that comes next. -/
def takeCompiled (stopAtArrow : Bool) (kind : SpecificationKind) : Reading Expression := do
  let (text, location) ← takeExpression stopAtArrow kind
  let code ← Expression.codeOf (some location) kind text
  return ⟨.str (String.ofList (Text.trim text)), code, some location⟩

end Reading
end ByteRecord.Source
