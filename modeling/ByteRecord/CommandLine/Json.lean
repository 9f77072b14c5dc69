import ByteRecord.Value.Text
import ByteRecord.Value.Failure

/-! Values as indented JSON text in ASCII. Bytes are written as pairs of digits; records of other
kinds have no such text. -/
namespace ByteRecord.CommandLine

private def hexDigits (n : Nat) : List Char :=
  '\\' :: 'u' :: Hex.paddedText Hex.lowerDigit 4 n

/-- A character beyond the basic plane as its two halves. -/
private def codeUnits (c : Char) : List Nat :=
  let n := c.toNat
  if n < 0x10000 then [n]
  else [0xd800 + (n - 0x10000) / 0x400, 0xdc00 + (n - 0x10000) % 0x400]

private def escaped (c : Char) : List Char :=
  match c with
  | '"' => ['\\', '"']
  | '\\' => ['\\', '\\']
  | '\n' => ['\\', 'n']
  | '\r' => ['\\', 'r']
  | '\t' => ['\\', 't']
  | c =>
    if c.toNat == 8 then ['\\', 'b']
    else if c.toNat == 12 then ['\\', 'f']
    else if ' ' ≤ c && c ≤ '~' then [c]
    else (codeUnits c).flatMap hexDigits

/-- A text in double quotes. -/
def jsonString (text : String) : String :=
  String.ofList ('"' :: text.toList.flatMap escaped ++ ['"'])

private def jsonFloat (x : Float) : String :=
  if x.isNaN then "NaN"
  else if x.isInf then if x < 0 then "-Infinity" else "Infinity"
  else Number.floatText x

private def jsonInt (n : Int) : Except Failure String :=
  if Number.isOverlong n then .error .value else .ok (Number.intText n)

/-- The text of a key. -/
private def jsonKey (key : Value) : Except Failure String :=
  match key with
  | .str text => .ok text
  | .float x => .ok (jsonFloat x)
  | .bool b => .ok (if b then "true" else "false")
  | .none => .ok "null"
  | .int n => jsonInt n
  | _ => .error .type

private def lineBreak (depth : Nat) : String :=
  String.ofList ('\n' :: List.replicate (2 * depth) ' ')

/-- Parts between brackets, each on a line of its own; nothing between them if there is none. -/
private def bracketed (opening closing : String) (depth : Nat) (parts : List String) : String :=
  if parts.isEmpty then opening ++ closing
  else opening ++ lineBreak (depth + 1) ++
    ("," ++ lineBreak (depth + 1)).intercalate parts ++ lineBreak depth ++ closing

mutual

/-- The JSON text of a value at a depth of indentation. -/
def jsonText (depth : Nat) : Value → Except Failure String
  | .none => .ok "null"
  | .bool b => .ok (if b then "true" else "false")
  | .int n => jsonInt n
  | .float x => .ok (jsonFloat x)
  | .str text => .ok (jsonString text)
  | .list items | .tuple items => do
    return bracketed "[" "]" depth (← jsonItems (depth + 1) items)
  | .record ⟨_, .tuple, _⟩ fields => do
    return bracketed "[" "]" depth (← jsonParts (depth + 1) fields)
  | .dict entries => do
    return bracketed "\x7b" "\x7d" depth (← jsonEntries (depth + 1) entries)
  | .bytes data | .buffer .array data => .ok (jsonString (Hex.lowerText " " data))
  | _ => .error .type

def jsonItems (depth : Nat) : List Value → Except Failure (List String)
  | [] => .ok []
  | item :: rest => do
    let text ← jsonText depth item
    return text :: (← jsonItems depth rest)

def jsonParts (depth : Nat) : List (String × Value) → Except Failure (List String)
  | [] => .ok []
  | (_, part) :: rest => do
    let text ← jsonText depth part
    return text :: (← jsonParts depth rest)

def jsonEntries (depth : Nat) : List (Value × Value) → Except Failure (List String)
  | [] => .ok []
  | (key, value) :: rest => do
    let name ← jsonKey key
    let text ← jsonText depth value
    return (jsonString name ++ ": " ++ text) :: (← jsonEntries depth rest)

end

end ByteRecord.CommandLine
