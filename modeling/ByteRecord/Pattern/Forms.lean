import ByteRecord.Fault.Basic

/-! Patterns from hex literals, byte strings and arrays, and the bytes of a literal pattern. -/
namespace ByteRecord.Pattern

/-- A pattern from hex tokens: at most one range, and none where the length must be fixed. -/
def ofTokens (tokens : List Hex.Token) (allowRange : Bool) : Except Fault Pattern :=
  let ranges := (tokens.filter (· == .openRange)).length
  if 0 < ranges && !allowRange then .error (.ofCause .pattern .range)
  else if 1 < ranges then .error (.ofCause .pattern .repeatedRange)
  else .ok ⟨tokens.map Matcher.ofToken, .hex⟩

def ofLexed (lexed : Except Hex.LexFault (List Hex.Token)) (allowRange : Bool) :
    Except Fault Pattern :=
  match lexed with
  | .ok tokens => ofTokens tokens allowRange
  | .error fault => .error (.ofHex fault)

def ofHex (text : List Char) : Except Fault Pattern :=
  ofLexed (Hex.tokenize text) false

/-- A free-standing pattern, which may hold one range. -/
def ofFreeHex (text : List Char) : Except Fault Pattern :=
  ofLexed (Hex.tokenize text) true

def byteOf (value : Int) : Except Fault UInt8 :=
  if 0 ≤ value && value ≤ 255 then .ok (UInt8.ofNat value.toNat) else .error (.failure .value)

def toBytes (pattern : Pattern) : Except Fault (List UInt8) :=
  if pattern.isLiteral then (pattern.matchers.filterMap Matcher.exactValue?).mapM byteOf
  else .error (.ofCause .pattern (.manyValues pattern.text))

def ofBytes (data : List UInt8) : Pattern :=
  ⟨data.map fun byte => .exact byte.toNat, .bytes⟩

/-- The bytes of a hex literal without wildcards. -/
def hexLiteral (text : List Char) : Except Fault (List UInt8) := do
  (← ofFreeHex text).toBytes

def exactByte (value : Int) : Except Fault Matcher :=
  if 0 ≤ value && value ≤ 255 then .ok (.exact value)
  else .error (.ofCause .pattern (.byteOutOfRange value))

/-- An element of an array: a matcher as such, or a value that stands for one. -/
inductive Element where
  | matcher (matcher : Matcher)
  | value (value : Value)

/-- The matcher that an element stands for: numbers are bytes, none and `_` are wildcards, and
callable values are computed; anything that looks like a range is refused. -/
def Element.toMatcher : Element → Except Fault Matcher
  | .matcher .openRange => .error (.ofCause .pattern .range)
  | .matcher m => .ok m
  | .value v => match v with
    | .none | .str "_" => .ok .wildcard
    | .ellipsis | .str ".." | .range _ _ _ | .slice _ _ _ => .error (.ofCause .pattern .range)
    | .bool b => .error (.ofCause .pattern (.truthAsByte b))
    | .int n => exactByte n
    | v =>
      if v.isCallable then
        .ok (.deferred ⟨v.functionName?.getD v.quotedText, .inr v, none⟩)
      else .error (.ofCause .pattern (.invalidElement v))

def ofArray (elements : List Element) : Except Fault Pattern := do
  return ⟨← elements.mapM Element.toMatcher, .array⟩

inductive Given where
  | pattern (pattern : Pattern)
  | array (elements : List Element)
  | value (value : Value)

/-- The pattern of fixed length that something stands for: a text is a hex literal, bytes are
themselves, and a sequence is an array. -/
def Given.toPattern : Given → Except Fault Pattern
  | .pattern p => if p.hasRanges then .error (.ofCause .pattern .range) else .ok p
  | .array elements => ofArray elements
  | .value v =>
    match v, v.bytes? with
    | .str text, _ => ofHex text.toList
    | _, some data => .ok (ofBytes data)
    | .list items, _ | .tuple items, _ => ofArray (items.map .value)
    | .record ⟨_, .tuple, _⟩ fields, _ => ofArray (fields.map fun (_, part) => .value part)
    | v, _ => .error (.ofCause .pattern (.notPattern v))

end ByteRecord.Pattern
