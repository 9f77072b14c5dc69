import ByteRecord.Value.Arithmetic
import ByteRecord.Value.Index
import ByteRecord.Value.Text
import ByteRecord.Text.Case

/-! Calls of methods of byte strings, texts, numbers and mappings. A call with unsuitable arguments
is a type failure; a method that exists but is not covered is unsupported. -/
namespace ByteRecord.Value
open Number

/-- Arguments of a call: those by position and those by name. -/
structure Arguments where
  positional : List Value
  named : List (String × Value)

/-- Arguments sorted to parameters in order; a parameter without an argument has none. The first
`positionalOnly` parameters cannot be given by name, those after `positionalLimit` only by name. -/
def Arguments.bind (arguments : Arguments) (parameters : List String) (required : Nat)
    (positionalOnly : Nat) (positionalLimit : Nat) : Except Failure (List (Option Value)) :=
  let byPosition := arguments.positional.length
  let known (name : String) : Bool :=
    (parameters.drop (max positionalOnly byPosition)).contains name
  if positionalLimit < byPosition then .error .type
  else if !arguments.named.all fun (name, _) => known name then .error .type
  else
    let values := parameters.zipIdx.map fun (name, i) =>
      arguments.positional[i]? |>.or ((arguments.named.find? (·.1 == name)).map (·.2))
    if (values.take required).all Option.isSome then .ok values else .error .type

/-- Arguments by position alone, between `least` and `most` of them. -/
def Arguments.ordered (arguments : Arguments) (least most : Nat) :
    Except Failure (List Value) :=
  let count := arguments.positional.length
  if arguments.named.isEmpty && least ≤ count && count ≤ most then .ok arguments.positional
  else .error .type

/-! ### Encodings -/

inductive Encoding where
  | ascii
  | latin1
  | utf8
deriving DecidableEq, Repr

def Encoding.ofName? (name : String) : Option Encoding :=
  let plain := (name.toLower.map fun c => if c == '-' || c == ' ' then '_' else c)
  if ["ascii", "us_ascii", "646"].contains plain then some .ascii
  else if ["latin_1", "latin1", "iso_8859_1", "iso8859_1", "8859", "cp819", "latin", "l1"].contains
    plain then some .latin1
  else if ["utf_8", "utf8", "u8", "utf", "cp65001"].contains plain then some .utf8
  else Option.none

def encode (encoding : Encoding) (text : String) : Except Failure (List UInt8) :=
  let narrow (limit : Nat) : Except Failure (List UInt8) :=
    if text.toList.all fun c => c.toNat < limit then
      .ok (text.toList.map fun c => UInt8.ofNat c.toNat)
    else .error .encode
  match encoding with
  | .ascii => narrow 0x80
  | .latin1 => narrow 0x100
  | .utf8 => .ok text.toUTF8.toList

def decode (encoding : Encoding) (data : List UInt8) : Except Failure String :=
  let wide : String := String.ofList (data.map fun byte => Char.ofNat byte.toNat)
  match encoding with
  | .ascii => if data.all (· < 0x80) then .ok wide else .error .decode
  | .latin1 => .ok wide
  | .utf8 =>
    match String.fromUTF8? (ByteArray.mk data.toArray) with
    | some text => .ok text
    | Option.none => .error .decode

/-- The encoding that arguments ask for; only strict treatment of what does not fit is covered. -/
def encodingOf (encoding errors : Option Value) : Except Failure Encoding :=
  match encoding, errors with
  | Option.none, Option.none | Option.none, some (.str "strict") => .ok .utf8
  | some (.str name), Option.none | some (.str name), some (.str "strict") =>
    match Encoding.ofName? name with
    | some encoding => .ok encoding
    | Option.none => .error .unsupported
  | _, some (.str _) => .error .unsupported
  | _, _ => .error .type

/-! ### Byte strings -/

private def separator? : Value → Except Failure UInt8
  | .str text => match text.toList with
    | [c] => if c.toNat < 0x80 then .ok (UInt8.ofNat c.toNat) else .error .value
    | _ => .error .value
  | .bytes [byte] => if byte < 0x80 then .ok byte else .error .value
  | value => match value.items? with
    | some items => if items.length == 1 then .error .type else .error .value
    | Option.none => .error .type

private def chunked (size : Nat) (fuel : Nat) (items : List α) : List (List α) :=
  match fuel, items with
  | _, [] => []
  | 0, items => [items]
  | fuel + 1, items => items.take size :: chunked size fuel (items.drop size)

/-- Groups of bytes, counted from the end for a positive size and from the start otherwise. -/
private def grouped (size : Int) (data : List UInt8) : List (List UInt8) :=
  let width := size.natAbs
  if width == 0 || data.isEmpty then [data]
  else if size < 0 then chunked width data.length data
  else
    let first := data.length % width
    (if first == 0 then [] else [data.take first]) ++
      chunked width data.length (data.drop first)

private def hexMethod (data : List UInt8) (arguments : Arguments) : Except Failure Value := do
  match ← arguments.bind ["sep", "bytes_per_sep"] 0 0 2 with
  | [separator, size] =>
    let size ← match size with
      | Option.none => .ok 1
      | some value => match value.int? with
        | some n =>
          if -0x80000000 ≤ n && n < 0x80000000 then .ok n else .error .overflow
        | Option.none => .error .type
    match separator with
    | Option.none => return .str (Hex.lowerText "" data)
    | some value =>
      let mark ← separator? value
      let texts := (grouped size data).map (Hex.lowerText "")
      return .str ((Char.ofNat mark.toNat).toString.intercalate texts)
  | _ => .error .type

private def bound? (value : Option Value) (ifMissing : Int) : Except Failure Int :=
  match value with
  | Option.none | some .none => .ok ifMissing
  | some value => match value.int? with
    | some n => .ok n
    | Option.none => .error .type

/-- Bounds of a part of `length` items: negative bounds count from the end, and the end is at most
the length. -/
private def window (length : Nat) (start stop : Option Value) : Except Failure (Int × Int) := do
  let start ← bound? start 0
  let stop ← bound? stop length
  let fromEnd (bound : Int) : Int := if bound < 0 then max 0 (bound + length) else bound
  return (fromEnd start, if (length : Int) < stop then length else fromEnd stop)

private def within (data : List UInt8) (start stop : Int) : List UInt8 :=
  (data.drop start.toNat).take (stop - start).toNat

private def endMatch (atStart : Bool) (data part : List UInt8) (start stop : Int) : Bool :=
  if (data.length : Int) < start || stop - start < part.length then false
  else if atStart then part.isPrefixOf (within data start stop)
  else part.isSuffixOf (within data start stop)

private def endMethod (atStart : Bool) (data : List UInt8) (arguments : Arguments) :
    Except Failure Value := do
  let given ← arguments.ordered 1 3
  let (start, stop) ← window data.length given[1]? given[2]?
  let rec anyOf : List Value → Except Failure Value
    | [] => .ok (.bool false)
    | part :: rest => match part.bytes? with
      | some content =>
        if endMatch atStart data content start stop then .ok (.bool true) else anyOf rest
      | Option.none => .error .type
  match given with
  | .tuple parts :: _ => anyOf parts
  | part :: _ => anyOf [part]
  | [] => .error .type

private def isBlankByte (byte : UInt8) : Bool :=
  byte == 32 || (9 ≤ byte && byte ≤ 13)

private def stripMethod (left right : Bool) (data : List UInt8) (arguments : Arguments) :
    Except Failure Value := do
  let drops : UInt8 → Bool ← match ← arguments.ordered 0 1 with
    | [] | [.none] => .ok isBlankByte
    | value :: _ => match value.bytes? with
      | some given => .ok given.contains
      | Option.none => .error .type
  let data := if left then data.dropWhile drops else data
  return .bytes (if right then (data.reverse.dropWhile drops).reverse else data)

/-- What to look for in a byte string: bytes or one byte by its value. -/
private def sought? (value : Value) : Except Failure (List UInt8) :=
  match value.bytes?, value.int? with
  | some content, _ => .ok content
  | _, some n => if 0 ≤ n && n ≤ 255 then .ok [UInt8.ofNat n.toNat] else .error .value
  | _, _ => .error .type

/-- How often a part occurs without overlap. -/
private def occurrences (part : List UInt8) : (fuel : Nat) → List UInt8 → Nat
  | 0, _ => 0
  | fuel + 1, data => match findIn part data with
    | some offset => occurrences part fuel (data.drop (offset + part.length)) + 1
    | Option.none => 0

private def findMethod (counts : Bool) (data : List UInt8) (arguments : Arguments) :
    Except Failure Value := do
  match ← arguments.ordered 1 3 with
  | part :: bounds =>
    let (start, stop) ← window data.length bounds[0]? bounds[1]?
    let part ← sought? part
    let inside := within data start stop
    if counts then
      if stop < start then return .int 0
      else if part.isEmpty then return .int (stop - start + 1)
      else return .int (occurrences part data.length inside)
    else if stop - start < part.length then return .int (-1)
    else match findIn part inside with
      | some offset => return .int (start + offset)
      | Option.none => return .int (-1)
  | [] => .error .type

private def bytesMethod (data : List UInt8) (name : String) (arguments : Arguments) :
    Except Failure Value :=
  match name with
  | "hex" => hexMethod data arguments
  | "decode" => do
    match ← arguments.bind ["encoding", "errors"] 0 0 2 with
    | [encoding, errors] => return .str (← decode (← encodingOf encoding errors) data)
    | _ => .error .type
  | "startswith" => endMethod true data arguments
  | "endswith" => endMethod false data arguments
  | "strip" => stripMethod true true data arguments
  | "lstrip" => stripMethod true false data arguments
  | "rstrip" => stripMethod false true data arguments
  | "count" => findMethod true data arguments
  | "find" => findMethod false data arguments
  | "upper" => do
    let _ ← arguments.ordered 0 0
    return .bytes (data.map fun byte => if 97 ≤ byte && byte ≤ 122 then byte - 32 else byte)
  | "lower" => do
    let _ ← arguments.ordered 0 0
    return .bytes (data.map fun byte => if 65 ≤ byte && byte ≤ 90 then byte + 32 else byte)
  | _ => .error .unsupported

private def viewMethod (data : List UInt8) (name : String) (arguments : Arguments) :
    Except Failure Value :=
  match name with
  | "hex" => hexMethod data arguments
  | "tobytes" => do
    let _ ← arguments.ordered 0 0
    return .bytes data
  | "tolist" => do
    let _ ← arguments.ordered 0 0
    return .list (data.map fun byte => .int byte.toNat)
  | _ => .error .unsupported

/-! ### Other values -/

private def textMethod (text : String) (name : String) (arguments : Arguments) :
    Except Failure Value :=
  match name with
  | "upper" => do
    let _ ← arguments.ordered 0 0
    return .str (Text.upper text)
  | "lower" => do
    let _ ← arguments.ordered 0 0
    return .str (Text.lower text)
  | "encode" => do
    match ← arguments.bind ["encoding", "errors"] 0 0 2 with
    | [encoding, errors] => return .bytes (← encode (← encodingOf encoding errors) text)
    | _ => .error .type
  | _ => .error .unsupported

private def wholeMethod (n : Int) (name : String) (arguments : Arguments) :
    Except Failure Value :=
  match name with
  | "bit_length" => do
    let _ ← arguments.ordered 0 0
    return .int (if n == 0 then 0 else n.natAbs.log2 + 1)
  | "conjugate" => do
    let _ ← arguments.ordered 0 0
    return .int n
  | _ => .error .unsupported

private def mappingMethod (entries : List (Value × Value)) (name : String)
    (arguments : Arguments) : Except Failure Value :=
  match name with
  | "get" => do
    match ← arguments.ordered 1 2 with
    | key :: rest =>
      if key.isHashable then return (lookup? entries key).getD (rest.head?.getD .none)
      else .error .type
    | [] => .error .type
  | "copy" => do
    let _ ← arguments.ordered 0 0
    return .dict entries
  | _ => .error .unsupported

/-- Parts of which some are replaced; all that are given must be known. -/
def replaceParts (fields : List (String × Value)) (changes : List (String × Value)) :
    Except Failure (List (String × Value)) :=
  if changes.all fun (name, _) => fields.any (·.1 == name) then
    .ok (fields.map fun (name, old) =>
      (name, ((changes.find? (·.1 == name)).map (·.2)).getD old))
  else .error .value

private def recordMethod (t : RecordType) (fields : List (String × Value)) (name : String)
    (arguments : Arguments) : Except Failure Value :=
  match name with
  | "_replace" =>
    if arguments.positional.isEmpty then do
      return .record t (← replaceParts fields arguments.named)
    else .error .type
  | "_asdict" => do
    let _ ← arguments.ordered 0 0
    return .dict (fields.map fun (field, part) => (.str field, part))
  | _ => .error .unsupported

/-- Calls a method of a value. -/
def callMethod (receiver : Value) (name : String) (arguments : Arguments) :
    Except Failure Value :=
  match receiver with
  | .bytes data => bytesMethod data name arguments
  | .buffer .array data => do
    match ← bytesMethod data name arguments with
    | .bytes part => return .buffer .array part
    | other => return other
  | .buffer .view data => viewMethod data name arguments
  | .str text => textMethod text name arguments
  | .int n => wholeMethod n name arguments
  | .bool b => wholeMethod (if b then 1 else 0) name arguments
  | .dict entries => mappingMethod entries name arguments
  | .record ⟨typeName, .tuple, parts⟩ fields =>
    recordMethod ⟨typeName, .tuple, parts⟩ fields name arguments
  | _ => .error .unsupported

end ByteRecord.Value
