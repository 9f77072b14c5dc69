import ByteRecord.Text.WordRanges
import ByteRecord.Text.IdentifierRanges
import ByteRecord.Text.PrintableRanges

/-! Character classes: words, identifiers, blanks, line breaks and printable characters.
Below `0x80` each class is spelled out, so that facts about ASCII text need no table. -/
namespace ByteRecord.Text

def isAsciiLetter (c : Char) : Bool :=
  ('a' ≤ c && c ≤ 'z') || ('A' ≤ c && c ≤ 'Z')

def isAsciiDigit (c : Char) : Bool :=
  '0' ≤ c && c ≤ '9'

def isAscii (c : Char) : Bool :=
  c.val < 0x80

/-- Characters of a word: letters, digits, numerals and the underscore. -/
def isWord (c : Char) : Bool :=
  if isAscii c then isAsciiLetter c || isAsciiDigit c || c == '_'
  else wordRanges.contains c.toNat

def isIdentifierStart (c : Char) : Bool :=
  if isAscii c then isAsciiLetter c || c == '_'
  else identifierStartRanges.contains c.toNat

def isIdentifierPart (c : Char) : Bool :=
  if isAscii c then isAsciiLetter c || isAsciiDigit c || c == '_'
  else identifierStartRanges.contains c.toNat || identifierMarkRanges.contains c.toNat

/-- Characters that a quoted text shows as they are. -/
def isPrintable (c : Char) : Bool :=
  if isAscii c then ' ' ≤ c && c ≤ '~'
  else printableRanges.contains c.toNat

/-- Characters removed from both ends when a text is trimmed. -/
def isBlank (c : Char) : Bool :=
  let n := c.toNat
  (9 ≤ n && n ≤ 13) || (28 ≤ n && n ≤ 32) || n == 0x85 || n == 0xa0 || n == 0x1680 ||
    (0x2000 ≤ n && n ≤ 0x200a) || n == 0x2028 || n == 0x2029 || n == 0x202f || n == 0x205f ||
    n == 0x3000

/-- Characters that end a line when a text is cut into lines in the widest sense. -/
def isLineBreak (c : Char) : Bool :=
  let n := c.toNat
  (10 ≤ n && n ≤ 13) || (28 ≤ n && n ≤ 30) || n == 0x85 || n == 0x2028 || n == 0x2029

/-- Removes blanks from both ends. -/
def trim (text : List Char) : List Char :=
  ((text.dropWhile isBlank).reverse.dropWhile isBlank).reverse

end ByteRecord.Text
