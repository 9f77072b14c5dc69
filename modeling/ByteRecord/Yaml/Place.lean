import ByteRecord.Text.CharClass

/-! Places in a document text, and what may be passed over between its parts. -/
namespace ByteRecord.Yaml

/-- The rest of a text and where it starts; lines and columns count from zero. -/
structure Place where
  rest : List Char
  line : Nat
  column : Nat

def isBreak (c : Char) : Bool :=
  let n := c.toNat
  n == 10 || n == 13 || n == 0x85 || n == 0x2028 || n == 0x2029

def isBlank (c : Char) : Bool :=
  c == ' ' || c == '\t'

def isSpace (c : Char) : Bool :=
  isBlank c || isBreak c

namespace Place

def ofText (text : List Char) : Place :=
  ⟨text, 0, 0⟩

/-- Behind the next character; a carriage return counts with the line feed after it. -/
def advanced (place : Place) : Place :=
  match place.rest with
  | [] => place
  | c :: rest =>
    if isBreak c && !(c == '\r' && rest.head? == some '\n') then ⟨rest, place.line + 1, 0⟩
    else ⟨rest, place.line, place.column + 1⟩

def moved (place : Place) : Nat → Place
  | 0 => place
  | count + 1 => place.advanced.moved count

def head? (place : Place) : Option Char :=
  place.rest.head?

/-- Whether what follows the next character separates it from the rest. -/
def isSeparated (place : Place) : Bool :=
  match place.rest with
  | [] | [_] => true
  | _ :: c :: _ => isSpace c

private def blankWidth (text : List Char) : Nat :=
  (text.takeWhile isSpace).length

private def commentWidth (text : List Char) : Nat :=
  (text.takeWhile fun c => !isBreak c).length

/-- Passes over blanks, line breaks and comments. -/
def skipSpace (place : Place) : Place :=
  go place.rest.length place
where
  go : Nat → Place → Place
    | 0, place => place
    | fuel + 1, place =>
      let place := place.moved (blankWidth place.rest)
      if place.head? == some '#' then go fuel (place.moved (commentWidth place.rest)) else place

/-- Passes over blanks within a line. -/
def skipBlanks (place : Place) : Place :=
  place.moved (place.rest.takeWhile isBlank).length

end Place
end ByteRecord.Yaml
