import ByteRecord.Value.Basic

/-! The names that every expression can use without their being defined. -/
namespace ByteRecord.Value

/-- Types that can be named but not used. -/
private def otherTypes : List String := [
  "ArithmeticError", "AssertionError", "AttributeError", "BaseException", "BaseExceptionGroup",
  "BlockingIOError", "BrokenPipeError", "BufferError", "BytesWarning", "ChildProcessError",
  "ConnectionAbortedError", "ConnectionError", "ConnectionRefusedError", "ConnectionResetError",
  "DeprecationWarning", "EOFError", "EncodingWarning", "EnvironmentError", "Exception",
  "ExceptionGroup", "FileExistsError", "FileNotFoundError", "FloatingPointError", "FutureWarning",
  "GeneratorExit", "IOError", "ImportError", "ImportWarning", "IndentationError", "IndexError",
  "InterruptedError", "IsADirectoryError", "KeyError", "KeyboardInterrupt", "LookupError",
  "MemoryError", "ModuleNotFoundError", "NameError", "NotADirectoryError", "NotImplementedError",
  "OSError", "OverflowError", "PendingDeprecationWarning", "PermissionError", "ProcessLookupError",
  "RecursionError", "ReferenceError", "ResourceWarning", "RuntimeError", "RuntimeWarning",
  "StopAsyncIteration", "StopIteration", "SyntaxError", "SyntaxWarning", "SystemError",
  "SystemExit", "TabError", "TimeoutError", "TypeError", "UnboundLocalError", "UnicodeDecodeError",
  "UnicodeEncodeError", "UnicodeError", "UnicodeTranslateError", "UnicodeWarning", "UserWarning",
  "ValueError", "Warning", "ZeroDivisionError", "__loader__", "bytearray", "classmethod",
  "complex", "enumerate", "filter", "float", "frozenset", "map", "memoryview", "object",
  "property", "reversed", "set", "staticmethod", "super", "type", "zip"]

/-- Functions that can be named but not used. -/
private def otherFunctions : List String := [
  "__build_class__", "__import__", "aiter", "all", "anext", "any", "ascii", "bin", "breakpoint",
  "callable", "compile", "copyright", "credits", "delattr", "dir", "eval", "exec", "exit",
  "format", "getattr", "globals", "hasattr", "hash", "help", "hex", "id", "input", "isinstance",
  "issubclass", "iter", "license", "locals", "next", "oct", "open", "pow", "print", "quit",
  "setattr", "vars"]

private def coreTypes : List TypeName :=
  [.int, .str, .bytes, .bool, .list, .tuple, .dict, .range, .slice]

private def coreFunctions : List Builtin :=
  [.len, .sum, .max, .min, .chr, .ord, .abs, .sorted, .divmod, .round, .repr]

/-- What a name stands for if nothing else defines it. -/
def predefined? (name : String) : Option Value :=
  match name with
  | "None" => some .none
  | "True" | "__debug__" => some (.bool true)
  | "False" => some (.bool false)
  | "Ellipsis" => some .ellipsis
  | "NotImplemented" => some (.foreign "NotImplementedType" "NotImplemented")
  | "__name__" => some (.str "builtins")
  | "__package__" => some (.str "")
  | "__doc__" => some (.str "")
  | "__spec__" => some (.foreign "ModuleSpec" "")
  | name =>
    match coreTypes.find? (·.name == name), coreFunctions.find? (·.name == name) with
    | some t, _ => some (.type t)
    | _, some function => some (.builtin function)
    | _, _ =>
      if otherTypes.contains name then some (.type (.other name))
      else if otherFunctions.contains name then some (.builtin (.other name))
      else Option.none

end ByteRecord.Value
