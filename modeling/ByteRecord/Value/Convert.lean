import ByteRecord.Value.Method

/-! Conversions: what a type makes of other values. -/
namespace ByteRecord.Value
open Number

private def digitIn? (base : Nat) (c : Char) : Option Nat := do
  let value ←
    if 'a' ≤ c && c ≤ 'z' then some (c.toNat - 87)
    else if 'A' ≤ c && c ≤ 'Z' then some (c.toNat - 55)
    else Text.digitValue? c
  if value < base then some value else Option.none

/-- Digits in a base with single underscores between them. -/
private def digitRun? (base : Nat) : List Char → Option (List Nat)
  | [] => Option.none
  | [c] => (digitIn? base c).map ([·])
  | c :: '_' :: rest => do return (← digitIn? base c) :: (← digitRun? base rest)
  | c :: rest => do return (← digitIn? base c) :: (← digitRun? base rest)

/-- The base that a marked number names. -/
private def markedBase? : List Char → Option (Nat × List Char)
  | '0' :: letter :: rest =>
    let rest := match rest with
      | '_' :: rest => rest
      | rest => rest
    match letter.toLower with
    | 'x' => some (16, rest)
    | 'o' => some (8, rest)
    | 'b' => some (2, rest)
    | _ => Option.none
  | _ => Option.none

/-- Reads a whole number in a base; base 0 takes the base from the number's mark. -/
def readIntIn? (base : Nat) (text : List Char) : Option Int := do
  let text := Text.trim text
  let (negative, digits) := match text with
    | '-' :: rest => (true, rest)
    | '+' :: rest => (false, rest)
    | rest => (false, rest)
  let (base, digits) ←
    match markedBase? digits with
    | some (marked, rest) =>
      if base == 0 || base == marked then some (marked, rest) else some (base, digits)
    | Option.none =>
      if base != 0 then some (base, digits)
      else if digits.head? == some '0' && digits.any (fun c => c != '0' && c != '_') then
        Option.none
      else some (10, digits)
  let values ← digitRun? base digits
  guard ([2, 4, 8, 16, 32].contains base || values.length ≤ maxDecimalDigits)
  let value : Int := (values.foldl (fun value digit => value * base + digit) 0 : Nat)
  return if negative then -value else value

/-- The characters that spell a number, from a text or from bytes. -/
private def spelling? : Value → Option (List Char)
  | .str text => some text.toList
  | value => value.bytes?.map fun data =>
    -- bytes beyond ASCII spell nothing
    data.map fun byte => if byte < 0x80 then Char.ofNat byte.toNat else '\x00'

private def readValue (base : Nat) (text : List Char) : Except Failure Value :=
  match readIntIn? base text with
  | some n => .ok (.int n)
  | Option.none => .error .value

def toInt (arguments : Arguments) : Except Failure Value := do
  match ← arguments.bind ["", "base"] 0 1 2 with
  | [Option.none, Option.none] => return .int 0
  | [Option.none, some _] => .error .type
  | [some value, Option.none] =>
    match value, spelling? value with
    | .float x, _ =>
      match truncate? x with
      | some n => return .int n
      | Option.none => .error (if x.isNaN then .value else .overflow)
    | _, some text => readValue 10 text
    | value, _ => match value.int? with
      | some n => return .int n
      | Option.none => .error .type
  | [some value, some base] =>
    let base ← match base.int? with
      | some n => if n == 0 || (2 ≤ n && n ≤ 36) then .ok n.toNat else .error .value
      | Option.none => .error .type
    match value with
    | .str _ | .bytes _ | .buffer .array _ => readValue base ((spelling? value).getD [])
    | _ => .error .type
  | _ => .error .type

/-- The text of a value, unless a number in it is too long to be written. -/
def written (text : Value → String) (value : Value) : Except Failure String :=
  if value.hasOverlong then .error .value else .ok (text value)

def toStr (arguments : Arguments) : Except Failure Value := do
  match ← arguments.bind ["object", "encoding", "errors"] 0 0 3 with
  | [Option.none, _, _] => return .str ""
  | [some value, Option.none, Option.none] => return .str (← written plainText value)
  | [some value, encoding, errors] =>
    match value.bytes? with
    | some data => return .str (← decode (← encodingOf encoding errors) data)
    | Option.none => .error .type
  | _ => .error .type

/-- The bytes that numbers stand for. -/
def byteItems (items : List Value) : Except Failure (List UInt8) :=
  items.mapM fun value => match value.int? with
    | some n => if 0 ≤ n && n ≤ 255 then .ok (UInt8.ofNat n.toNat) else .error .value
    | Option.none => .error .type

/-- The bytes of a buffer or of numbers in a row; a text or a single number has none. -/
def collectBytes (value : Value) : Except Failure (List UInt8) :=
  match value.bytes?, value with
  | some data, _ => .ok data
  | _, .str _ => .error .type
  | _, value => do byteItems (← items value)

/-- The bytes of a value; a number asks for that many zeros. -/
def bytesOf (value : Value) : Except Failure (List UInt8) :=
  match value.int? with
  | some n =>
    if n < -0x8000000000000000 then .error .overflow
    else if n < 0 then .error .value
    else if maxItems < n.toNat then .error .overflow
    else .ok (List.replicate n.toNat 0)
  | Option.none => collectBytes value

def toBytes (arguments : Arguments) : Except Failure Value := do
  match ← arguments.bind ["source", "encoding", "errors"] 0 0 3 with
  | [Option.none, Option.none, Option.none] => return .bytes []
  | [some value, Option.none, Option.none] => return .bytes (← bytesOf value)
  | [some (.str text), some encoding, errors] =>
    return .bytes (← encode (← encodingOf (some encoding) errors) text)
  | _ => .error .type

def toBool (arguments : Arguments) : Except Failure Value := do
  match ← arguments.ordered 0 1 with
  | value :: _ => return .bool value.truth
  | [] => return .bool false

def toList (arguments : Arguments) : Except Failure Value := do
  match ← arguments.ordered 0 1 with
  | value :: _ => return .list (← items value)
  | [] => return .list []

def toTuple (arguments : Arguments) : Except Failure Value := do
  match ← arguments.ordered 0 1 with
  | value :: _ => return .tuple (← items value)
  | [] => return .tuple []

private def pairOf (value : Value) : Except Failure (Value × Value) := do
  match ← items value with
  | [key, value] => if key.isHashable then .ok (key, value) else .error .type
  | _ => .error .value

def toDict (arguments : Arguments) : Except Failure Value := do
  let named := arguments.named.map fun (name, value) => (Value.str name, value)
  let entries ← match arguments.positional with
    | [] => .ok []
    | [.dict entries] => .ok entries
    | [value] => do (← items value).mapM pairOf
    | _ => .error .type
  return .dict (ofEntries (entries ++ named))

private def wholeOf (value : Value) : Except Failure Int :=
  match value.int? with
  | some n => .ok n
  | Option.none => .error .type

def toRange (arguments : Arguments) : Except Failure Value := do
  match ← (← arguments.ordered 1 3).mapM wholeOf with
  | [stop] => return .range 0 stop 1
  | [start, stop] => return .range start stop 1
  | [start, stop, step] => if step == 0 then .error .value else return .range start stop step
  | _ => .error .type

def toSlice (arguments : Arguments) : Except Failure Value := do
  match ← arguments.ordered 1 3 with
  | [stop] => return .slice .none stop .none
  | [start, stop] => return .slice start stop .none
  | [start, stop, step] => return .slice start stop step
  | _ => .error .type

/-- A record of a type with its parts by position and by name. -/
def toRecord (t : RecordType) (arguments : Arguments) : Except Failure Value := do
  match t.kind with
  | .loose =>
    if arguments.positional.isEmpty then return .record t arguments.named else .error .type
  | .tuple | .plain =>
    let values ← arguments.bind t.parts t.parts.length 0 t.parts.length
    return .record t ((t.parts.zip values).filterMap fun (name, value) =>
      value.map (name, ·))

def toStream (arguments : Arguments) : Except Failure Value := do
  match ← arguments.bind ["initial_bytes"] 0 0 1 with
  | [some .none] | [Option.none] => return .stream []
  | [some value] => match value.bytes? with
    | some data => return .stream data
    | Option.none => .error .type
  | _ => .error .type

/-- What a type makes of arguments. -/
def construct (t : TypeName) (arguments : Arguments) : Except Failure Value :=
  match t with
  | .int => toInt arguments
  | .str => toStr arguments
  | .bytes => toBytes arguments
  | .bool => toBool arguments
  | .list => toList arguments
  | .tuple => toTuple arguments
  | .dict => toDict arguments
  | .range => toRange arguments
  | .slice => toSlice arguments
  | .record t => toRecord t arguments
  | .stream => toStream arguments
  | .other _ => .error .unsupported

end ByteRecord.Value
