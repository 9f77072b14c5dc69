import ByteRecord.Expr.Syntax

/-! The values that expressions compute with. -/
namespace ByteRecord

namespace Value

/-- Byte buffers other than byte strings. -/
inductive BufferKind where
  | array
  | view
deriving DecidableEq, Repr

inductive RecordKind where
  /-- A tuple whose parts have names. -/
  | tuple
  /-- A record that is made of one part for each of its names. -/
  | plain
  /-- A record that takes any names. -/
  | loose
deriving DecidableEq, Repr

/-- A type of records; one of loose records has no parts of its own. -/
structure RecordType where
  name : String
  kind : RecordKind
  parts : List String
deriving DecidableEq, Repr

inductive TypeName where
  | int
  | str
  | bytes
  | bool
  | list
  | tuple
  | dict
  | range
  | slice
  | stream
  | record (type : RecordType)
  /-- A type that can be named but not used. -/
  | other (name : String)
deriving DecidableEq, Repr

inductive Module where
  | struct
  | types
  | io
deriving DecidableEq, Repr

inductive Builtin where
  | len
  | sum
  | max
  | min
  | chr
  | ord
  | abs
  | sorted
  | divmod
  | round
  | repr
  | intFromBytes
  | dictFromKeys
  | unpack
  | calcSize
  /-- A method of a type, to be called with a value of that type in front. -/
  | unbound (type : TypeName) (name : String)
  /-- A function that can be named but not used. -/
  | other (name : String)
deriving DecidableEq, Repr

end Value

inductive Value where
  | none
  | ellipsis
  | bool (value : Bool)
  | int (value : Int)
  | float (value : Float)
  | str (text : String)
  | bytes (data : List UInt8)
  | buffer (kind : Value.BufferKind) (data : List UInt8)
  | list (items : List Value)
  | tuple (items : List Value)
  | set (items : List Value)
  /-- Entries in the order of their first insertion; keys are distinct. -/
  | dict (entries : List (Value × Value))
  | range (start stop step : Int)
  | slice (start stop step : Value)
  | record (type : Value.RecordType) (fields : List (String × Value))
  /-- A stream of bytes, at its start. -/
  | stream (data : List UInt8)
  | type (type : Value.TypeName)
  | module (module : Value.Module)
  | builtin (function : Value.Builtin)
  | method (receiver : Value) (name : String)
  /-- A function that is carried out elsewhere, with the values that it holds on to. -/
  | external (name : String) (held : List Value)
  /-- A function without parameters that returns how often it was called. -/
  | counter (id : Nat)
  /-- An anonymous function. -/
  | lambda
  /-- A value of another kind, known by its type and its text. -/
  | foreign (typeName : String) (text : String)

namespace Value

instance : Inhabited Value := ⟨.none⟩

/-- The loose records that modules offer. -/
def RecordType.namespace : RecordType := ⟨"SimpleNamespace", .loose, []⟩

def TypeName.name : TypeName → String
  | .int => "int"
  | .str => "str"
  | .bytes => "bytes"
  | .bool => "bool"
  | .list => "list"
  | .tuple => "tuple"
  | .dict => "dict"
  | .range => "range"
  | .slice => "slice"
  | .stream => "BytesIO"
  | .record t => t.name
  | .other name => name

def Module.name : Module → String
  | .struct => "struct"
  | .types => "types"
  | .io => "io"

def Builtin.name : Builtin → String
  | .len => "len"
  | .sum => "sum"
  | .max => "max"
  | .min => "min"
  | .chr => "chr"
  | .ord => "ord"
  | .abs => "abs"
  | .sorted => "sorted"
  | .divmod => "divmod"
  | .round => "round"
  | .repr => "repr"
  | .intFromBytes => "from_bytes"
  | .dictFromKeys => "fromkeys"
  | .unpack => "unpack"
  | .calcSize => "calcsize"
  | .unbound _ name => name
  | .other name => name

/-- The name of a value's type, as messages show it. -/
def typeName : Value → String
  | .none => "NoneType"
  | .ellipsis => "ellipsis"
  | .bool _ => "bool"
  | .int _ => "int"
  | .float _ => "float"
  | .str _ => "str"
  | .bytes _ => "bytes"
  | .buffer .array _ => "bytearray"
  | .buffer .view _ => "memoryview"
  | .list _ => "list"
  | .tuple _ => "tuple"
  | .set _ => "set"
  | .dict _ => "dict"
  | .range _ _ _ => "range"
  | .slice _ _ _ => "slice"
  | .record t _ => t.name
  | .stream _ => "BytesIO"
  | .type _ => "type"
  | .module _ => "module"
  | .builtin (.unbound _ _) => "method_descriptor"
  | .builtin _ | .method _ _ => "builtin_function_or_method"
  | .external _ _ | .counter _ | .lambda => "function"
  | .foreign typeName _ => typeName

def isCallable : Value → Bool
  | .type _ | .builtin _ | .method _ _ | .external _ _ | .counter _ | .lambda => true
  | _ => false

/-- The own name of a function or type. -/
def functionName? : Value → Option String
  | .type t => some t.name
  | .builtin function => some function.name
  | .method _ name => some name
  | .external name _ => some name
  | .counter _ => some "counter"
  | .lambda => some "<lambda>"
  | _ => Option.none

/-- The bytes of a value that is a string or buffer of bytes. -/
def bytes? : Value → Option (List UInt8)
  | .bytes data | .buffer _ data => some data
  | _ => Option.none

/-- The number that a value is, where truth values count as 0 and 1. -/
def int? : Value → Option Int
  | .int value => some value
  | .bool value => some (if value then 1 else 0)
  | _ => Option.none

/-- How many members a half-open range of whole numbers has. -/
def rangeCount (start stop step : Int) : Nat :=
  let span := if 0 < step then stop - start else start - stop
  if span ≤ 0 || step == 0 then 0 else ((span - 1) / step.natAbs + 1).toNat

/-- The members of a half-open range of whole numbers. -/
def rangeItems (start stop step : Int) : List Int :=
  (List.range (rangeCount start stop step)).map fun (i : Nat) => start + (i : Int) * step

/-- The most items that are laid out one by one. -/
def maxItems : Nat := 0x1000000

/-- The items that a value yields one by one. -/
def items? : Value → Option (List Value)
  | .list items | .tuple items | .set items => some items
  | .dict entries => some (entries.map (·.1))
  | .str text => some (text.toList.map fun c => .str c.toString)
  | .bytes data | .buffer _ data => some (data.map fun byte => .int byte.toNat)
  | .range start stop step =>
    if rangeCount start stop step ≤ maxItems then some ((rangeItems start stop step).map .int)
    else Option.none
  | .record ⟨_, .tuple, _⟩ fields => some (fields.map (·.2))
  | _ => Option.none

/-- The truth of a value: empty things and zero are false. -/
def truth : Value → Bool
  | .none => false
  | .bool value => value
  | .int value => value != 0
  | .float value => !(value == 0)
  | .str text => !text.isEmpty
  | .bytes data | .buffer _ data => !data.isEmpty
  | .list items | .tuple items | .set items => !items.isEmpty
  | .dict entries => !entries.isEmpty
  | .range start stop step => rangeCount start stop step != 0
  | _ => true

end Value
end ByteRecord
