import ByteRecord.Plan.Reader
import ByteRecord.Proofs.Source.Cut

/-! The grammar of specification texts. A phrase is a list of tokens, and each relation says what a
phrase of its kind is read as. Embedded expressions and list displays are runs of tokens whose
brackets match; what they mean is decided by the text that they span. -/
namespace ByteRecord.Source

def Token.isClosing (token : Token) : Bool :=
  token.kind == .op && Lexical.isClosing token.text

/-- Tokens that close all brackets that they open and, from a depth on, those that are open there.
Outside all brackets there is no comma and, where arrows end an expression, no arrow. -/
def IsRun (arrowEnds : Bool) : (depth : Nat) → List Token → Prop
  | depth, [] => depth = 0
  | depth, token :: rest =>
    token.kind ≠ .finish ∧
      (depth = 0 → token.isOp "," = false ∧ token.isClosing = false ∧
        (arrowEnds = true → token.isArrow (rest.headD token) = false)) ∧
      IsRun arrowEnds (Cursor.depthAfter token depth) rest

/-- The text from the start of the first token to the end of the last one. -/
def spanned (source : List Char) : List Token → List Char
  | [] => []
  | first :: rest =>
    (source.drop (position (rows source) first.start)).take
      (position (rows source) (rest.getLastD first).stop - position (rows source) first.start)

end ByteRecord.Source

namespace ByteRecord.Phrase
open Source

variable (source : List Char)

/-- An expression is a run whose text compiles. -/
inductive IsExpression (arrowEnds : Bool) : List Token → Expression → Prop
  | run (closed : IsRun arrowEnds 0 (first :: rest))
      (compiled : Expr.compile (spanned source (first :: rest)) = .ok code) :
    IsExpression arrowEnds (first :: rest)
      ⟨.str (String.ofList (Text.trim (spanned source (first :: rest)))), code, some first.start⟩

/-- A path is a name, or a name and a path with a dot between them. -/
inductive IsPath : List Token → List String → Prop
  | name (word : token.kind = .name) : IsPath [token] [token.text]
  | dotted (word : token.kind = .name) (dot : point.isOp ".") (rest : IsPath tokens names) :
    IsPath (token :: point :: tokens) (token.text :: names)

/-- An element of a list display: a byte with at most one sign, `_` for any byte, or an expression
that is neither a literal nor looks like a range. -/
inductive IsElement (location : Location) : Expr.Element → Matcher → Prop
  | wildcard : IsElement location ⟨.name "_", text⟩ .wildcard
  | byte {n : Nat} (small : n ≤ 255) : IsElement location ⟨.const (.int n), text⟩ (.exact n)
  | positive {n : Nat} (small : n ≤ 255) (literal : operand.ungroup = .const (.int n)) :
    IsElement location ⟨.unary .plus operand, text⟩ (.exact n)
  | negative (literal : operand.ungroup = .const (.int 0)) :
    IsElement location ⟨.unary .minus operand, text⟩ (.exact 0)
  | computed (whole : ∀ inner, e ≠ .starred inner) (named : e ≠ .name "_")
      (range : Pattern.isRangeExpr e = false) (literal : Pattern.isLiteralExpr e = false)
      (compiled : Expr.compile text = .ok code) :
    IsElement location ⟨e, text⟩ (.deferred ⟨String.ofList text, .inl code, some location⟩)

/-- A pattern is a string literal that spells hex digits without a range, a literal of bytes, or a
list display. -/
inductive IsPattern : List Token → Pattern → Prop
  | hex (literal : token.kind = .string) (clear : '\x00' ∉ token.text.toList)
      (value : Expr.ofText? token.text.toList = some (.const (.str digits)))
      (lexed : Hex.tokenize digits.toList = .ok pieces) (fixed : .openRange ∉ pieces) :
    IsPattern [token] ⟨pieces.map Matcher.ofToken, .hex⟩
  | bytes (literal : token.kind = .string) (clear : '\x00' ∉ token.text.toList)
      (value : Expr.ofText? token.text.toList = some (.const (.bytes data))) :
    IsPattern [token] (Pattern.ofBytes data)
  | array (opening : first.isOp "[") (closed : IsRun true 0 (first :: rest))
      (clear : '\x00' ∉ Text.trim (spanned source (first :: rest)))
      (display : Expr.Display.ofText (Text.trim (spanned source (first :: rest))) =
        .list elements)
      (each : List.Forall₂ (IsElement first.start) elements matchers) :
    IsPattern (first :: rest) ⟨matchers, .array⟩

/-- A member is `_` for none, a free name, or a position in digits; digits beyond the longest number
are not read. -/
inductive IsMember : Token → Option Member → Prop
  | none (word : token.kind = .name) (blank : token.text = "_") : IsMember token none
  | name (word : token.kind = .name) (other : token.text ≠ "_")
      (free : Text.isFreeName token.text) : IsMember token (some (.name token.text))
  | position (number : token.kind = .number) (some_digit : token.text.toList ≠ [])
      (digits : ∀ c ∈ token.text.toList, Text.isAsciiDigit c)
      (short : token.text.toList.length ≤ Number.maxDecimalDigits) :
    IsMember token (some (.position (Number.ofDecimal token.text.toList)))

/-- A field is a member, a colon and a pattern. Where there is a member, an arrow with an expression
may follow the pattern, and must if a binding stands before it. -/
inductive IsField : List Token → Field → Prop
  | matched (named : IsMember name member) (separated : colon.isOp ":")
      (own : IsPattern source tokens pattern) :
    IsField (name :: colon :: tokens) ⟨member, pattern, none, none, some name.start⟩
  | transformed (named : IsMember name (some member)) (separated : colon.isOp ":")
      (own : IsPattern source tokens pattern) (arrow : first.isArrow second)
      (value : IsExpression source false run e) :
    IsField (name :: colon :: (tokens ++ first :: second :: run))
      ⟨some member, pattern, none, some (.expression e), some name.start⟩
  | bound (named : IsMember name (some member)) (separated : colon.isOp ":")
      (word : label.kind = .name) (free : Text.isFreeName label.text) (binds : sign.isOp "@")
      (own : IsPattern source tokens pattern) (arrow : first.isArrow second)
      (value : IsExpression source false run e) :
    IsField (name :: colon :: label :: sign :: (tokens ++ first :: second :: run))
      ⟨some member, pattern, some label.text, some (.expression e), some name.start⟩

/-- What stands between the braces: fields with commas between them, a comma behind the last one or
not, and a rest as the first entry or behind a comma. -/
inductive IsBody : List Token → List Field → Option Expression → Prop
  | empty : IsBody [] [] none
  | rest (dots : first.spells second "." ".") (value : IsExpression source false run e) :
    IsBody (first :: second :: run) [] (some e)
  | last (own : IsField source tokens field) : IsBody tokens [field] none
  | field (own : IsField source tokens field) (separated : comma.isOp ",")
      (more : IsBody later fields rest) :
    IsBody (tokens ++ comma :: later) (field :: fields) rest

/-- A whole specification: a reader with an arrow behind it or none, a path to something that can be
called, and fields in braces, up to the end of the text. -/
inductive IsDeclaration (scope : Scope) : List Token → Plan.Declaration → Prop
  | plain {stop : Token} (named : IsPath names path) (resolved : Plan.resolvePath scope path = .ok target)
      (opening : brace.isOp "\x7b") (own : IsBody source tokens fields rest)
      (closing : brace'.isOp "\x7d") (last : stop.kind = .finish) :
    IsDeclaration scope (names ++ brace :: (tokens ++ [brace', stop]))
      ⟨none, path, target, fields, rest⟩
  | reading (value : IsExpression source true run reader) (arrow : first.isArrow second)
      (own : IsDeclaration scope tokens ⟨none, path, target, fields, rest⟩) :
    IsDeclaration scope (run ++ first :: second :: tokens)
      ⟨some reader, path, target, fields, rest⟩

end ByteRecord.Phrase
