import ByteRecord.Value.Basic

/-! The methods that values have. Only a few of them can be called; the others can be named. -/
namespace ByteRecord.Value

private def intMethods : List String := [
  "as_integer_ratio", "bit_count", "bit_length", "conjugate", "from_bytes", "to_bytes"]

private def floatMethods : List String := [
  "as_integer_ratio", "conjugate", "fromhex", "hex", "is_integer"]

private def strMethods : List String := [
  "capitalize", "casefold", "center", "count", "encode", "endswith", "expandtabs", "find",
  "format", "format_map", "index", "isalnum", "isalpha", "isascii", "isdecimal", "isdigit",
  "isidentifier", "islower", "isnumeric", "isprintable", "isspace", "istitle", "isupper", "join",
  "ljust", "lower", "lstrip", "maketrans", "partition", "removeprefix", "removesuffix", "replace",
  "rfind", "rindex", "rjust", "rpartition", "rsplit", "rstrip", "split", "splitlines",
  "startswith", "strip", "swapcase", "title", "translate", "upper", "zfill"]

private def bytesMethods : List String := [
  "capitalize", "center", "count", "decode", "endswith", "expandtabs", "find", "fromhex", "hex",
  "index", "isalnum", "isalpha", "isascii", "isdigit", "islower", "isspace", "istitle", "isupper",
  "join", "ljust", "lower", "lstrip", "maketrans", "partition", "removeprefix", "removesuffix",
  "replace", "rfind", "rindex", "rjust", "rpartition", "rsplit", "rstrip", "split", "splitlines",
  "startswith", "strip", "swapcase", "title", "translate", "upper", "zfill"]

private def bytearrayMethods : List String := [
  "append", "capitalize", "center", "clear", "copy", "count", "decode", "endswith", "expandtabs",
  "extend", "find", "fromhex", "hex", "index", "insert", "isalnum", "isalpha", "isascii",
  "isdigit", "islower", "isspace", "istitle", "isupper", "join", "ljust", "lower", "lstrip",
  "maketrans", "partition", "pop", "remove", "removeprefix", "removesuffix", "replace", "reverse",
  "rfind", "rindex", "rjust", "rpartition", "rsplit", "rstrip", "split", "splitlines",
  "startswith", "strip", "swapcase", "title", "translate", "upper", "zfill"]

private def memoryviewMethods : List String := [
  "cast", "hex", "release", "tobytes", "tolist", "toreadonly"]

private def listMethods : List String := [
  "append", "clear", "copy", "count", "extend", "index", "insert", "pop", "remove", "reverse",
  "sort"]

private def tupleMethods : List String := [
  "count", "index"]

private def dictMethods : List String := [
  "clear", "copy", "fromkeys", "get", "items", "keys", "pop", "popitem", "setdefault", "update",
  "values"]

private def setMethods : List String := [
  "add", "clear", "copy", "difference", "difference_update", "discard", "intersection",
  "intersection_update", "isdisjoint", "issubset", "issuperset", "pop", "remove",
  "symmetric_difference", "symmetric_difference_update", "union", "update"]

private def rangeMethods : List String := [
  "count", "index"]

private def sliceMethods : List String := [
  "indices"]

private def streamMethods : List String := [
  "close", "detach", "fileno", "flush", "getbuffer", "getvalue", "isatty", "read", "read1",
  "readable", "readinto", "readinto1", "readline", "readlines", "seek", "seekable", "tell",
  "truncate", "writable", "write", "writelines"]

/-- Names that every value has. -/
private def commonMethods : List String := [
  "__delattr__", "__dir__", "__eq__", "__format__", "__ge__", "__getattribute__", "__getstate__",
  "__gt__", "__init__", "__init_subclass__", "__le__", "__lt__", "__ne__", "__new__", "__reduce__",
  "__reduce_ex__", "__repr__", "__setattr__", "__sizeof__", "__str__", "__subclasshook__"]

/-- The methods of the values of a type. -/
def TypeName.methods : TypeName → List String
  | .int | .bool => intMethods
  | .str => strMethods
  | .bytes => bytesMethods
  | .list => listMethods
  | .tuple => tupleMethods
  | .dict => dictMethods
  | .range => rangeMethods
  | .slice => sliceMethods
  | .stream => streamMethods
  | .record ⟨_, .tuple, _⟩ => ["_replace", "_asdict", "_make"] ++ tupleMethods
  | .record _ => []
  | .other "float" => floatMethods
  | .other "bytearray" => bytearrayMethods
  | .other "memoryview" => memoryviewMethods
  | .other "set" | .other "frozenset" => setMethods
  | .other _ => []

/-- The type of a value, for its methods. -/
def ownType : Value → TypeName
  | .int _ => .int
  | .bool _ => .bool
  | .str _ => .str
  | .bytes _ => .bytes
  | .list _ => .list
  | .tuple _ => .tuple
  | .dict _ => .dict
  | .range _ _ _ => .range
  | .slice _ _ _ => .slice
  | .stream _ => .stream
  | .record t _ => .record t
  | value => .other value.typeName

private def typeAttribute? (t : TypeName) (name : String) : Option Value :=
  match t, name with
  | .int, "from_bytes" | .bool, "from_bytes" => some (.builtin .intFromBytes)
  | .dict, "fromkeys" => some (.builtin .dictFromKeys)
  | .record ⟨_, .tuple, parts⟩, "_fields" => some (.tuple (parts.map .str))
  | _, "__name__" | _, "__qualname__" => some (.str t.name)
  | t, name =>
    if t.methods.contains name then some (.builtin (.unbound t name))
    else if commonMethods.contains name || name == "mro" then some (.builtin (.other name))
    else if (t == .int || t == .bool) && ["real", "imag", "numerator", "denominator"].contains name
    then some (.foreign "getset_descriptor" name)
    else Option.none

private def moduleAttribute? (m : Module) (name : String) : Option Value :=
  match m, name with
  | m, "__name__" => some (.str m.name)
  | .struct, "unpack" => some (.builtin .unpack)
  | .struct, "calcsize" => some (.builtin .calcSize)
  | .struct, "error" | .struct, "Struct" => some (.type (.other name))
  | .struct, name =>
    if ["pack", "pack_into", "unpack_from", "iter_unpack"].contains name then
      some (.builtin (.other name))
    else Option.none
  | .types, "SimpleNamespace" => some (.type (.record .namespace))
  | .types, name =>
    if typesTypes.contains name then some (.type (.other name))
    else if typesFunctions.contains name then some (.builtin (.other name))
    else Option.none
  | .io, "BytesIO" => some (.type .stream)
  | .io, name =>
    if ioTypes.contains name then some (.type (.other name))
    else if ioFunctions.contains name then some (.builtin (.other name))
    else if ["DEFAULT_BUFFER_SIZE", "SEEK_SET", "SEEK_CUR", "SEEK_END"].contains name then
      some (.int (match name with
        | "DEFAULT_BUFFER_SIZE" => 8192
        | "SEEK_SET" => 0
        | "SEEK_CUR" => 1
        | _ => 2))
    else Option.none
where
  typesTypes : List String := [
    "AsyncGeneratorType", "BuiltinFunctionType", "BuiltinMethodType", "CellType",
    "ClassMethodDescriptorType", "CodeType", "CoroutineType", "DynamicClassAttribute",
    "EllipsisType", "FrameType", "FunctionType", "GeneratorType", "GenericAlias",
    "GetSetDescriptorType", "LambdaType", "MappingProxyType", "MemberDescriptorType",
    "MethodDescriptorType", "MethodType", "MethodWrapperType", "ModuleType", "NoneType",
    "NotImplementedType", "TracebackType", "UnionType", "WrapperDescriptorType"]
  typesFunctions : List String := ["coroutine", "new_class", "prepare_class", "resolve_bases"]
  ioTypes : List String := [
    "BlockingIOError", "BufferedIOBase", "BufferedRWPair", "BufferedRandom", "BufferedReader",
    "BufferedWriter", "FileIO", "IOBase", "IncrementalNewlineDecoder", "RawIOBase", "StringIO",
    "TextIOBase", "TextIOWrapper", "UnsupportedOperation"]
  ioFunctions : List String := ["open", "open_code", "text_encoding"]

/-- The part of a value that has a name. -/
def attribute? (value : Value) (name : String) : Option Value :=
  match value, name with
  | .type t, name => typeAttribute? t name
  | .module m, name => moduleAttribute? m name
  | .record ⟨_, .tuple, parts⟩ fields, name =>
    match fields.find? (·.1 == name) with
    | some (_, part) => some part
    | Option.none =>
      if name == "_fields" then some (.tuple (parts.map .str)) else ownMethod?
  | .record _ fields, name => (fields.find? (·.1 == name)).map (·.2) |>.or ownMethod?
  | .int n, "real" | .int n, "numerator" => some (.int n)
  | .int _, "imag" => some (.int 0)
  | .int _, "denominator" => some (.int 1)
  | .bool b, "real" | .bool b, "numerator" => some (.int (if b then 1 else 0))
  | .bool _, "imag" => some (.int 0)
  | .bool _, "denominator" => some (.int 1)
  | .float x, "real" => some (.float x)
  | .float _, "imag" => some (.float 0)
  | .range start _ _, "start" => some (.int start)
  | .range _ stop _, "stop" => some (.int stop)
  | .range _ _ step, "step" => some (.int step)
  | .slice start _ _, "start" => some start
  | .slice _ stop _, "stop" => some stop
  | .slice _ _ step, "step" => some step
  | .int _, "from_bytes" | .bool _, "from_bytes" => some (.builtin .intFromBytes)
  | .dict _, "fromkeys" => some (.builtin .dictFromKeys)
  | value, "__name__" | value, "__qualname__" =>
    value.functionName?.map .str
  | _, _ => ownMethod?
where
  ownMethod? : Option Value :=
    if value.ownType.methods.contains name || commonMethods.contains name then
      some (.method value name)
    else Option.none

end ByteRecord.Value
