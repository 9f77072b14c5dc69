/-! Tokens of a specification text and where they stand. -/
namespace ByteRecord.Source

/-- A line, counted from one, and a column in code points, counted from zero. -/
structure Location where
  line : Nat
  column : Nat
deriving DecidableEq, Repr

inductive TokenKind where
  | name
  | number
  | string
  | op
  /-- A character that begins no token, or a string literal that a line broke off. -/
  | error
  /-- The end of the text. -/
  | finish
deriving DecidableEq, Repr

/-- A token with its text and the locations of its first character and after its last. -/
structure Token where
  kind : TokenKind
  text : String
  start : Location
  stop : Location
deriving DecidableEq, Repr

end ByteRecord.Source
