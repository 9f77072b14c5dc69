import ByteRecord.Expr.Literal
import ByteRecord.Lexical.StringForm

/-! What string literals stand for. In a formatted text, braces enclose fields, which are expressions
of their own; two braces stand for one. -/
namespace ByteRecord.Expr
open Lexical

/-- The meaning of a string literal. -/
inductive StringValue where
  | text (chars : List Char)
  | bytes (data : List UInt8)
  /-- A text with the texts of the expressions embedded in it. -/
  | formatted (chars : List Char) (fields : List (List Char))

def StringValue.fields : StringValue → List (List Char)
  | .formatted _ fields => fields
  | _ => []

/-- A text that is marked as formatted is so also without fields. -/
def StringValue.isFormatted : StringValue → Bool
  | .formatted _ _ => true
  | _ => false

private def isBrace (c : Char) : Bool := c == '\x7b' || c == '\x7d'

/-- The width of what precedes the first brace, without the braces around the name of a character;
`skip` characters belong to what came before. -/
def plainWidth (raw : Bool) : (skip : Nat) → List Char → Nat
  | _, [] => 0
  | skip + 1, _ :: rest => plainWidth raw skip rest + 1
  | 0, c :: rest =>
    if isBrace c then 0
    else if raw || c != '\\' then plainWidth raw 0 rest + 1
    else match rest with
      | 'N' :: '\x7b' :: named =>
        plainWidth raw ((named.takeWhile (· != '\x7d')).length + 3) rest + 1
      | guarded :: _ => plainWidth raw (if isBrace guarded then 0 else 1) rest + 1
      | [] => 1

/-- Where in a field the scan for the end of its expression stands: in a string with these quotes, or
else behind these opening brackets. -/
private structure FieldScan where
  quote : Option (Char × Bool)
  opened : List Char

/-- What scanning one character of a field comes to. -/
private inductive FieldStep where
  | ends
  /-- The scan goes on behind so many further characters. -/
  | further (scan : FieldScan) (skip : Nat)

private def partner? : Char → Option Char
  | ')' => some '('
  | ']' => some '['
  | '\x7d' => some '\x7b'
  | _ => none

/-- An expression in a field holds no backslash, and no number sign outside strings. It ends with what
follows it, unless that is part of a comparison. -/
private def FieldScan.step? (scan : FieldScan) (c : Char) (rest : List Char) : Option FieldStep :=
  if c == '\\' then none
  else match scan.quote with
    | some (quote, triple) =>
      if c != quote then some (.further scan 0)
      else if !triple then some (.further { scan with quote := none } 0)
      else if rest.take 2 == [c, c] then some (.further { scan with quote := none } 2)
      else some (.further scan 0)
    | none =>
      if c == '\'' || c == '"' then
        if rest.take 2 == [c, c] then some (.further { scan with quote := some (c, true) } 2)
        else some (.further { scan with quote := some (c, false) } 0)
      else if c == '(' || c == '[' || c == '\x7b' then
        some (.further { scan with opened := c :: scan.opened } 0)
      else if c == '#' then none
      else match scan.opened, partner? c with
        | [], partner =>
          if "!=<>".toList.contains c && rest.head? == some '=' then some (.further scan 1)
          else if "!:=\x7d".toList.contains c then some .ends
          else if partner.isSome then none
          else some (.further scan 0)
        | opener :: opened, some partner =>
          if opener == partner then some (.further { scan with opened } 0) else none
        | _, none => some (.further scan 0)

/-- The width of the expression that a field begins with. -/
private def fieldWidth? : FieldScan → (skip : Nat) → List Char → Option Nat
  | _, _, [] => none
  | scan, skip + 1, _ :: rest => (fieldWidth? scan skip rest).map (· + 1)
  | scan, 0, c :: rest =>
    match scan.step? c rest with
    | none => none
    | some .ends => some 0
    | some (.further scan skip) => (fieldWidth? scan skip rest).map (· + 1)

private def isFieldSpace (c : Char) : Bool :=
  c == ' ' || c == '\t' || c == '\n' || c.toNat == 12

/-- What follows an equals sign, which asks for the expression as well, and the space after it. -/
private def afterEquals : List Char → List Char
  | '=' :: rest => rest.dropWhile fun c =>
    isFieldSpace c || c == '\r' || c.toNat == 11
  | text => text

/-- What follows a conversion, if there is one: to a text, or to how a value is written. -/
private def afterConversion? : List Char → Option (List Char)
  | '!' :: c :: rest => if "sra".toList.contains c then some rest else none
  | ['!'] => none
  | text => some text

/-- The texts and the fields of a formatted text, and what is left of it. Within a field, where it says
how the value is to be formatted, `level` is one; there a brace ends it, and fields have no such part
that has fields. -/
private def formatted? (raw : Bool) : (fuel level : Nat) → List Char →
    Option (List Char × List (List Char) × List Char)
  | 0, _, _ => none
  | fuel + 1, level, text =>
    let width := plainWidth raw 0 text
    let plain := text.take width
    let meaning (chars : List Char) := if raw then some chars else unescapeFrom true 0 chars
    match text.drop width with
    | [] => do
      guard (level == 0)
      return (← meaning plain, [], [])
    | brace :: rest =>
      if level == 0 && rest.head? == some brace then do
        let (chars, fields, rest) ← formatted? raw fuel level rest.tail
        return ((← meaning (plain ++ [brace])) ++ chars, fields, rest)
      else if brace == '\x7d' then do
        guard (level != 0)
        return (← meaning plain, [], brace :: rest)
      else do
        guard (level < 2)
        let width ← fieldWidth? ⟨none, []⟩ 0 rest
        let own := rest.take width
        guard (!own.all isFieldSpace)
        let (inner, behind) ← match ← afterConversion? (afterEquals (rest.drop width)) with
          | ':' :: spec => do
            let (_, inner, behind) ← formatted? raw fuel (level + 1) spec
            pure (inner, behind)
          | behind => pure ([], behind)
        match behind with
        | '\x7d' :: rest =>
          let (chars, fields, rest) ← formatted? raw fuel level rest
          return ((← meaning plain) ++ chars, own :: (inner ++ fields), rest)
        | _ => none

/-- The meaning of a complete string literal. Byte strings hold ASCII characters and escapes, of
which octal ones wrap at 256. -/
def stringValue? (literal : List Char) : Option StringValue := do
  let opening ← opening? literal
  let letters := opening.letters.map Char.toLower
  let close := if opening.triple then 3 else 1
  let body := (literal.drop opening.width).take (literal.length - opening.width - close)
  let raw := letters.contains 'r'
  if letters.contains 'f' then
    let (chars, fields, _) ← formatted? raw (body.length + 1) 0 body
    return .formatted chars fields
  else if letters.contains 'b' then
    guard (body.all Text.isAscii)
    let chars ← if raw then some body else unescapeFrom false 0 body
    return .bytes (chars.map fun c => UInt8.ofNat c.toNat)
  else return .text (← if raw then some body else unescapeFrom true 0 body)

end ByteRecord.Expr
