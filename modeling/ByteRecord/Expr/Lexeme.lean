import ByteRecord.Text.Identifier
import ByteRecord.Lexical.Number
import ByteRecord.Lexical.Operator
import ByteRecord.Lexical.StringForm

/-! The lexemes of an expression. Unlike the tokens of a specification, they exist only for a text
in which every character belongs to one. -/
namespace ByteRecord.Expr
open Text Lexical

inductive LexemeKind where
  | name
  | number
  | string
  | op
  /-- A line break outside brackets. -/
  | lineEnd
deriving DecidableEq, Repr

/-- A lexeme, its text, and its offset in the expression. -/
structure Lexeme where
  kind : LexemeKind
  text : List Char
  start : Nat
deriving DecidableEq, Repr

def Lexeme.stop (lexeme : Lexeme) : Nat :=
  lexeme.start + lexeme.text.length

/-- Line breaks of every kind as line feeds. -/
def unifyLineBreaks : List Char → List Char
  | [] => []
  | '\r' :: '\n' :: rest => '\n' :: unifyLineBreaks rest
  | '\r' :: rest => '\n' :: unifyLineBreaks rest
  | c :: rest => c :: unifyLineBreaks rest

/-- The offset in a text of an offset in the text with unified line breaks. -/
def sourceOffset : List Char → Nat → Nat
  | _, 0 => 0
  | [], _ => 0
  | '\r' :: '\n' :: rest, n + 1 => sourceOffset rest n + 2
  | _ :: rest, n + 1 => sourceOffset rest n + 1

/-- Brackets may nest this deep. -/
def maxDepth : Nat := 200

def isNamePart (c : Char) : Bool :=
  !isAscii c || isAsciiLetter c || isAsciiDigit c || c == '_'

def isSpace (c : Char) : Bool :=
  c == ' ' || c == '\t' || c.toNat == 12

/-- What a text begins with: a lexeme with its kind and width, or a width to pass over. -/
inductive Head where
  | lexeme (kind : LexemeKind) (width : Nat)
  | pass (width : Nat)

def head? (depth : Nat) (text : List Char) : Option Head :=
  match text with
  | [] => none
  | '\\' :: '\n' :: _ :: _ => some (.pass 2)
  | '\n' :: _ => some (if depth == 0 then .lexeme .lineEnd 1 else .pass 1)
  | '#' :: rest => some (.pass ((rest.takeWhile (· != '\n')).length + 1))
  | c :: _ =>
    if isSpace c then some (.pass 1)
    else if (opening? text).isSome then (literalWidth? text).map (.lexeme .string ·)
    else
      let number := numberWidth text
      let name := text.takeWhile isNamePart
      let operator := operatorWidth text
      if number != 0 then some (.lexeme .number number)
      else if !name.isEmpty then
        if isIdentifier name then some (.lexeme .name name.length) else none
      else if operator != 0 then some (.lexeme .op operator)
      else none

def depthAfter? (kind : LexemeKind) (text : List Char) (depth : Nat) : Option Nat :=
  if kind == .op then
    let word := String.ofList text
    if isOpening word then if depth < maxDepth then some (depth + 1) else none
    else if isClosing word then if depth == 0 then none else some (depth - 1)
    else some depth
  else some depth

/-- The lexemes of a text from an offset on; `skip` characters belong to what came before. -/
def lexemesFrom : (offset skip depth : Nat) → List Char → Option (List Lexeme)
  | _, _, _, [] => some []
  | offset, skip + 1, depth, _ :: rest => lexemesFrom (offset + 1) skip depth rest
  | offset, 0, depth, c :: rest =>
    match head? depth (c :: rest) with
    | none => none
    | some (.pass width) => lexemesFrom (offset + 1) (width - 1) depth rest
    | some (.lexeme kind width) =>
      let text := (c :: rest).take width
      match depthAfter? kind text depth with
      | none => none
      | some depth =>
        (lexemesFrom (offset + 1) (width - 1) depth rest).map (⟨kind, text, offset⟩ :: ·)

/-- The lexemes of a text whose line breaks are unified. A break before the first lexeme of a line
separates nothing. -/
def lexemes? (text : List Char) : Option (List Lexeme) :=
  (lexemesFrom 0 0 0 text).map fun found => found.dropWhile (·.kind == .lineEnd)

/-- The lexemes that are not read yet. -/
abbrev Rest := List Lexeme

/-- An operator comes next. -/
def isOp (text : String) : List Lexeme → Bool
  | ⟨.op, found, _⟩ :: _ => found == text.toList
  | _ => false

/-- A word comes next. -/
def isWord (text : String) : List Lexeme → Bool
  | ⟨.name, found, _⟩ :: _ => found == text.toList
  | _ => false

def skipOp? (text : String) (lexemes : List Lexeme) : Option (List Lexeme) :=
  if isOp text lexemes then some lexemes.tail else none

def skipWord? (text : String) (lexemes : List Lexeme) : Option (List Lexeme) :=
  if isWord text lexemes then some lexemes.tail else none

/-- A name that is not reserved. -/
def freeName? : List Lexeme → Option (String × Rest)
  | ⟨.name, found, _⟩ :: rest =>
    let word := String.ofList found
    if reservedWords.contains word then none else some (word, rest)
  | _ => none

end ByteRecord.Expr
