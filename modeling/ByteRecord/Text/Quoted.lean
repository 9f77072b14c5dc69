import ByteRecord.Text.CharClass
import ByteRecord.Hex.Digit

/-! Quoted texts and byte strings: the form in which a value is shown inside a message. Single
quotes are used unless only they would need an escape. -/
namespace ByteRecord.Text

private def quoteFor (text : List Char) : Char :=
  if text.contains '\'' && !text.contains '"' then '"' else '\''

/-- A character by its code, in the shortest of the three forms. -/
def codeEscape (c : Char) : List Char :=
  let n := c.toNat
  let hex := Hex.paddedText Hex.lowerDigit
  if n < 0x100 then '\\' :: 'x' :: hex 2 n
  else if n < 0x10000 then '\\' :: 'u' :: hex 4 n
  else '\\' :: 'U' :: hex 8 n

private def controlEscape? : Char → Option Char
  | '\n' => some 'n'
  | '\r' => some 'r'
  | '\t' => some 't'
  | '\\' => some '\\'
  | _ => none

def quotedChar (quote c : Char) : List Char :=
  if c == quote then ['\\', c]
  else match controlEscape? c with
    | some letter => ['\\', letter]
    | none => if isPrintable c then [c] else codeEscape c

/-- A text in quotes. -/
def quoted (text : String) : String :=
  let quote := quoteFor text.toList
  String.ofList (quote :: text.toList.flatMap (quotedChar quote) ++ [quote])

/-- A byte string in quotes, marked as such; bytes outside printable ASCII are written by code. -/
def quotedBytes (data : List UInt8) : String :=
  let text := data.map fun byte => Char.ofNat byte.toNat
  let quote := quoteFor text
  let escape (c : Char) :=
    if isAscii c then quotedChar quote c else codeEscape c
  String.ofList ('b' :: quote :: text.flatMap escape ++ [quote])

end ByteRecord.Text
