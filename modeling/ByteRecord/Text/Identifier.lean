import ByteRecord.Text.CharClass

/-! Identifiers and the words that are reserved by the expression notation. -/
namespace ByteRecord.Text

def isIdentifier : List Char → Bool
  | [] => false
  | first :: rest => isIdentifierStart first && rest.all isIdentifierPart

/-- Words that expressions keep for themselves and that can name nothing. -/
def reservedWords : List String :=
  ["False", "None", "True", "and", "as", "assert", "async", "await", "break", "class", "continue",
    "def", "del", "elif", "else", "except", "finally", "for", "from", "global", "if", "import",
    "in", "is", "lambda", "nonlocal", "not", "or", "pass", "raise", "return", "try", "while",
    "with", "yield"]

/-- A name that members and bindings may use: an identifier that is not reserved. -/
def isFreeName (name : String) : Bool :=
  isIdentifier name.toList && !reservedWords.contains name

end ByteRecord.Text
