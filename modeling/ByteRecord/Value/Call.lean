import ByteRecord.Value.Convert
import ByteRecord.Value.Packed
import ByteRecord.Value.Attribute

/-! Calls of types, functions and methods. -/
namespace ByteRecord.Value
open Number

private def size (arguments : Arguments) : Except Failure Value := do
  match ← arguments.ordered 1 1 with
  | [.range start stop step] =>
    let count := rangeCount start stop step
    if 0x8000000000000000 ≤ count then .error .overflow else return .int count
  | [value] => return .int (← items value).length
  | _ => .error .type

private def total (arguments : Arguments) : Except Failure Value := do
  match ← arguments.bind ["", "start"] 1 1 2 with
  | [some value, start] =>
    let start := start.getD (.int 0)
    match start with
    | .str _ | .bytes _ | .buffer .array _ => .error .type
    | start => (← items value).foldlM (operate .add) start
  | _ => .error .type

private def precedes (a b : Value) : Except Failure Bool :=
  match order? a b with
  | some ordering => .ok (ordering == some .lt)
  | Option.none => .error .type

private def keyed (call : Value → Arguments → Except Failure Value) (key : Option Value)
    (items : List Value) : Except Failure (List (Value × Value)) :=
  items.mapM fun item => match key with
    | Option.none | some .none => .ok (item, item)
    | some key => do return (← call key ⟨[item], []⟩, item)

/-- The first of the greatest, or of the least, items. -/
private def extreme (call : Value → Arguments → Except Failure Value) (greatest : Bool)
    (arguments : Arguments) : Except Failure Value := do
  let named (name : String) := (arguments.named.find? (·.1 == name)).map (·.2)
  if arguments.named.any fun (name, _) => name != "key" && name != "default" then .error .type
  else
    let items ← match arguments.positional with
      | [] => .error .type
      | [value] => items value
      | items => if (named "default").isSome then .error .type else .ok items
    match ← keyed call (named "key") items with
    | [] => match named "default" with
      | some value => return value
      | Option.none => .error .value
    | first :: rest =>
      let best ← rest.foldlM (fun best item => do
        let better ←
          if greatest then precedes best.1 item.1 else precedes item.1 best.1
        return if better then item else best) first
      return best.2

/-- Sorts by comparing: each item goes behind those that it does not precede. -/
private def insertOrdered (item : Value × Value) :
    List (Value × Value) → Except Failure (List (Value × Value))
  | [] => .ok [item]
  | other :: rest => do
    if ← precedes item.1 other.1 then return item :: other :: rest
    else return other :: (← insertOrdered item rest)

private def inOrder (call : Value → Arguments → Except Failure Value) (arguments : Arguments) :
    Except Failure Value := do
  let named (name : String) := (arguments.named.find? (·.1 == name)).map (·.2)
  if arguments.named.any fun (name, _) => name != "key" && name != "reverse" then .error .type
  else match arguments.positional with
    | [value] =>
      let falling := ((named "reverse").map truth).getD false
      let items ← keyed call (named "key") (← items value)
      let items := if falling then items.reverse else items
      let sorted ← items.foldlM (fun sorted item => insertOrdered item sorted) []
      return .list ((if falling then sorted.reverse else sorted).map (·.2))
    | _ => .error .type

private def character (arguments : Arguments) : Except Failure Value := do
  match ← arguments.ordered 1 1 with
  | [value] => match value.int? with
    | some n =>
      if n < -0x80000000 || 0x80000000 ≤ n then .error .overflow
      else if n < 0 || 0x10ffff < n then .error .value
      else if 0xd800 ≤ n && n ≤ 0xdfff then .error .unsupported
      else return .str (Char.ofNat n.toNat).toString
    | Option.none => .error .type
  | _ => .error .type

private def codeOf (arguments : Arguments) : Except Failure Value := do
  match ← arguments.ordered 1 1 with
  | [.str text] => match text.toList with
    | [c] => return .int c.toNat
    | _ => .error .type
  | [.bytes [byte]] | [.buffer .array [byte]] => return .int byte.toNat
  | _ => .error .type

private def magnitude (arguments : Arguments) : Except Failure Value := do
  match ← arguments.ordered 1 1 with
  | [value] => match value.numeral? with
    | some (.whole n) => return .int n.natAbs
    | some (.float x) => return .float x.abs
    | Option.none => .error .type
  | _ => .error .type

private def quotientAndRest (arguments : Arguments) : Except Failure Value := do
  match ← arguments.ordered 2 2 with
  | [a, b] => match a.numeral?, b.numeral? with
    | some (.whole m), some (.whole n) =>
      if n == 0 then .error .zeroDivision else return .tuple [.int (m.fdiv n), .int (m.fmod n)]
    | some m, some n => do
      let (quotient, rest) ← floatDivMod (← toFloat m) (← toFloat n)
      return .tuple [.float quotient, .float rest]
    | _, _ => .error .type
  | _ => .error .type

/-- A whole number rounded to a multiple of a power of ten, a tie to the even multiple. -/
private def roundedWhole (n : Int) (places : Int) : Int :=
  if 0 ≤ places then n
  else if (Nat.toDigits 10 n.natAbs).length < places.natAbs then 0
  else
    let unit := tenTo places.natAbs
    let magnitude : Int := roundQuotient n.natAbs unit * unit
    if n < 0 then -magnitude else magnitude

/-- A floating point number rounded to decimal places, a tie to the even digit. -/
private def roundedFloat (x : Float) (places : Int) : Except Failure Float :=
  match Binary.ofFloat? x with
  | Option.none => .ok x
  | some parts =>
    if 323 < places then .ok x
    else if places < -308 then .ok (ofQuotient parts.negative 0 1)
    else
      let (numerator, denominator) := parts.fraction
      let rounded :=
        if 0 ≤ places then
          let unit := tenTo places.toNat
          ofQuotient parts.negative (roundQuotient (numerator.natAbs * unit) denominator) unit
        else
          let unit := tenTo places.natAbs
          ofQuotient parts.negative (roundQuotient numerator.natAbs (denominator * unit) * unit) 1
      if rounded.isInf then .error .overflow else .ok rounded

private def rounded (arguments : Arguments) : Except Failure Value := do
  match ← arguments.bind ["number", "ndigits"] 1 0 2 with
  | [some value, places] =>
    let places ← match places with
      | Option.none | some .none => .ok Option.none
      | some places => match places.int? with
        | some n => .ok (some n)
        | Option.none => .error .type
    match value.numeral?, places with
    | some (.whole n), places => return .int (roundedWhole n (places.getD 0))
    | some (.float x), some places => return .float (← roundedFloat x places)
    | some (.float x), Option.none => match roundToInt? x with
      | some n => return .int n
      | Option.none => .error (if x.isNaN then .value else .overflow)
    | Option.none, _ => .error .type
  | _ => .error .type

private def numberOfBytes (arguments : Arguments) : Except Failure Value := do
  match ← arguments.bind ["bytes", "byteorder", "signed"] 1 0 2 with
  | [some value, byteOrder, signed] =>
    let isLittle ← match byteOrder with
      | Option.none => .ok false
      | some (.str "little") => .ok true
      | some (.str "big") => .ok false
      | some (.str _) => .error .value
      | some _ => .error .type
    return .int (ofBytes isLittle ((signed.map truth).getD false) (← collectBytes value))
  | _ => .error .type

private def dictOfKeys (arguments : Arguments) : Except Failure Value := do
  match ← arguments.ordered 1 2 with
  | keys :: value =>
    let keys ← items keys
    if keys.all isHashable then
      return .dict (ofEntries (keys.map (·, value.head?.getD .none)))
    else .error .type
  | [] => .error .type

/-- The letters of a packed layout, given as a text or as bytes. -/
private def layoutLetters (value : Value) : Except Failure (List Char) :=
  match value with
  | .str text => do return (← encode .ascii text).map fun byte => Char.ofNat byte.toNat
  | .bytes data => .ok (data.map fun byte => Char.ofNat byte.toNat)
  | _ => .error .type

private def unpacked (arguments : Arguments) : Except Failure Value := do
  match ← arguments.ordered 2 2 with
  | [format, data] =>
    let letters ← layoutLetters format
    let _ ← packedSize letters
    match data.bytes? with
    | some data => return .tuple (← unpack letters data)
    | Option.none => .error .type
  | _ => .error .type

/-- Calls a function that takes no other functions. -/
private def callPlain (function : Builtin) (arguments : Arguments) : Except Failure Value :=
  match function with
  | .len => size arguments
  | .sum => total arguments
  | .chr => character arguments
  | .ord => codeOf arguments
  | .abs => magnitude arguments
  | .divmod => quotientAndRest arguments
  | .round => rounded arguments
  | .repr => do
    match ← arguments.ordered 1 1 with
    | [value] => return .str (← written quotedText value)
    | _ => .error .type
  | .intFromBytes => numberOfBytes arguments
  | .dictFromKeys => dictOfKeys arguments
  | .unpack => unpacked arguments
  | .calcSize => do
    match ← arguments.ordered 1 1 with
    | [format] => return .int (← packedSize (← layoutLetters format))
    | _ => .error .type
  | .unbound t name => match arguments.positional with
    | receiver :: rest =>
      if receiver.ownType == t || (t == .int && receiver.ownType == .bool) then
        callMethod receiver name ⟨rest, arguments.named⟩
      else .error .type
    | [] => .error .type
  | .max | .min | .sorted | .other _ => .error .unsupported

private def callSimple (function : Value) (arguments : Arguments) : Except Failure Value :=
  match function with
  | .type t => construct t arguments
  | .builtin function => callPlain function arguments
  | .method receiver name => callMethod receiver name arguments
  | .external _ _ | .lambda => .error .unsupported
  | _ => .error .type

/-- Calls a value. A counter is not called here: it needs its count; nor is a function that is carried
out elsewhere. -/
def call (function : Value) (arguments : Arguments) : Except Failure Value :=
  match function with
  | .builtin .max => extreme callSimple true arguments
  | .builtin .min => extreme callSimple false arguments
  | .builtin .sorted => inOrder callSimple arguments
  | function => callSimple function arguments

end ByteRecord.Value
