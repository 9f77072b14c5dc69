import ByteRecord.Text.CharClass

/-! Where the lines of a text start. Every line break counts here, a carriage return with a
following line feed once; rows of tokens count line feeds only. -/
namespace ByteRecord.Text

/-- The offsets after each line break, given the offset of the first character. -/
def breakEnds (offset : Nat) : List Char → List Nat
  | [] => []
  | [c] => if isLineBreak c then [offset + 1] else []
  | c :: d :: rest =>
    if c == '\r' && d == '\n' then breakEnds (offset + 1) (d :: rest)
    else if isLineBreak c then (offset + 1) :: breakEnds (offset + 1) (d :: rest)
    else breakEnds (offset + 1) (d :: rest)

/-- Offset 0, then the end of every line: where a line would start. A text whose last line has no
break ends with its length. -/
def lineStarts (text : List Char) : List Nat :=
  let ends := breakEnds 0 text
  let last := ends.getLast?.getD 0
  0 :: ends ++ (if last < text.length then [text.length] else [])

end ByteRecord.Text
