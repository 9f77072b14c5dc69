import ByteRecord.Hex.Lexer
import ByteRecord.Source.Tokenizer
import ByteRecord.Value.Text

/-! What can be wrong with a specification, and the words for it. -/
namespace ByteRecord

/-- What a text lacks at some place. -/
inductive Wanted where
  | op (text : String)
  | arrow
  | expression
  | pattern
  /-- A pattern; a name stands in its place. -/
  | patternAfterName
  | colon
  | arrowAndExpression
  | member
  | separator
  | fieldsOf (path : String)
  | closing
  | typePath
  | nameAfterDot
  | finish
  /-- Anything, in the words of the caller. -/
  | other (words : String)
deriving DecidableEq, Repr

/-- What stands in the place of what is wanted. -/
inductive Found where
  | finish
  | token (text : String)
deriving DecidableEq, Repr

def Found.words : Found → String
  | .finish => "end of input"
  | .token text => "`" ++ text ++ "`"

private def patternForms : String :=
  "expected a byte array pattern, a byte string, or a hex string"

private def missingArrow : String := "expected `=>` followed by an expression"

private def missingArrowHint : String := "remove the `@` binding to only match bytes"

def Wanted.words : Wanted → String
  | .op text => "expected `" ++ text ++ "`"
  | .arrow => "expected `=>`"
  | .expression => "expected an expression"
  | .pattern | .patternAfterName => patternForms
  | .colon => "expected `:` after the field name"
  | .arrowAndExpression => missingArrow
  | .member => "expected a field name, a position or `_`"
  | .separator => "expected `,` or `\x7d` after a field"
  | .fieldsOf path => "expected `\x7b` after `" ++ path ++ "`"
  | .closing => "expected `\x7d` to close the struct"
  | .typePath => "expected a type path"
  | .nameAfterDot => "expected a name after `.`"
  | .finish => "unexpected input after the struct"
  | .other words => words

def Wanted.hint? : Wanted → Option String
  | .patternAfterName => some "follow a binding name with `@` and the pattern"
  | .arrowAndExpression => some missingArrowHint
  | _ => none

/-- What is wrong with a specification. -/
inductive Cause where
  | hexLiteral (error : Hex.LexError)
  | tokens (error : Source.TokenizeError)
  | unexpected (wanted : Wanted) (found : Found)
  | invalidExpression (text : String)
  /-- An open range where the length must be fixed. -/
  | range
  | repeatedRange
  /-- An element whose expression fails, for a reason that is told in words. -/
  | elementFails (source reason : String)
  | elementNotWhole (source : String) (value : Value)
  | elementOutOfRange (source : String) (value : Int)
  /-- A pattern that stands for more than one byte string. -/
  | manyValues (pattern : String)
  | truthAsByte (value : Bool)
  /-- A literal that is no byte. -/
  | literalAsByte (source : String)
  | byteOutOfRange (value : Int)
  | invalidElement (value : Value)
  | notPattern (value : Value)
  | stringLiteral (text : String)
  | invalidArray (text : String)
  | notArray (text : String)
  | unpacking (source : String)
  | patternKeys (entries : Value)
  | skipWithTransform
  | invalidMember (member : Value)
  | negativeMember (position : Int)
  | memberNotName (name : String)
  | bindingNotName (name : String)
  | bindingWithoutTransform
  | boundWithoutMember
  | adjacentSkips
  | repeatedMember (member : Value)
  | positionGap (count : Nat) (positions : List Int)
  | undefinedType (path head : String)
  | missingAttribute (path part : String)
  | notCallable (path : String)

namespace Cause

private def locationPair (location : Source.Location) : String :=
  "(" ++ Number.natText location.line ++ ", " ++ Number.natText location.column ++ ")"

private def tokenizeMessage : Source.TokenizeError → String
  | .openStatement location =>
    "('EOF in multi-line statement', " ++ locationPair location ++ ")"
  | .openString location =>
    "('EOF in multi-line string', " ++ locationPair location ++ ")"
  | .strayIndent line =>
    "unindent does not match any outer indentation level (<tokenize>, line " ++
      Number.natText line ++ ")"

private def element (source : String) : String :=
  "byte array element `" ++ source ++ "`"

def message : Cause → String
  | .hexLiteral error => error.message
  | .tokens error => "cannot tokenize specification: " ++ tokenizeMessage error
  | .unexpected wanted found => wanted.words ++ ", found " ++ found.words
  | .invalidExpression text => "invalid expression `" ++ text ++ "`: <SyntaxError>"
  | .range => "ranges are not allowed in byte patterns"
  | .repeatedRange => "`..` can only be used once per pattern"
  | .elementFails source reason => "cannot evaluate " ++ element source ++ ": " ++ reason
  | .elementNotWhole source value =>
    element source ++ " evaluated to " ++ value.quotedText ++ ", expected an int"
  | .elementOutOfRange source value =>
    element source ++ " evaluated to " ++ Number.intText value ++ ", out of range 0..255"
  | .manyValues pattern =>
    "pattern " ++ pattern ++ " contains wildcards and has no single byte value"
  | .truthAsByte value => "invalid byte value " ++ (Value.bool value).quotedText
  | .literalAsByte source => "invalid byte value `" ++ source ++ "`"
  | .byteOutOfRange value =>
    "byte value " ++ Number.intText value ++ " out of range 0..255"
  | .invalidElement value => "invalid byte array element " ++ value.quotedText
  | .notPattern value => patternForms ++ ", got " ++ value.quotedText
  | .stringLiteral text => "unsupported string literal " ++ text
  | .invalidArray text => "invalid byte array `" ++ text ++ "`: <SyntaxError>"
  | .notArray text => patternForms ++ ", found `" ++ text ++ "`"
  | .unpacking source => "unpacking `" ++ source ++ "` would change the pattern length"
  | .patternKeys entries =>
    "pattern mapping needs a `bytes` or `hex` key, got " ++ entries.quotedText
  | .skipWithTransform => "binding/transform not allowed on a match-only field"
  | .invalidMember member => "invalid member " ++ member.quotedText
  | .negativeMember position =>
    "positional member " ++ Number.intText position ++ " is negative"
  | .memberNotName name => "member name " ++ Text.quoted name ++ " is not an identifier"
  | .bindingNotName name => "binding " ++ Text.quoted name ++ " is not an identifier"
  | .bindingWithoutTransform => missingArrow
  | .boundWithoutMember => "a bound field needs a member name or position"
  | .adjacentSkips => "consecutive match-only fields are not allowed"
  | .repeatedMember member => "member `" ++ member.plainText ++ "` specified more than once"
  | .positionGap count positions =>
    "positional members must be numbered 0 to " ++ Number.intText ((count : Int) - 1) ++
      " without gaps, got " ++ (Value.list (positions.map .int)).quotedText
  | .undefinedType path head =>
    "cannot resolve type `" ++ path ++ "`: `" ++ head ++ "` is not defined"
  | .missingAttribute path part =>
    "cannot resolve type `" ++ path ++ "`: no attribute `" ++ part ++ "`"
  | .notCallable path => "type `" ++ path ++ "` is not callable"

/-- What to do about it, where that is known. -/
def hint? : Cause → Option String
  | .range => some "try using `_` to specify the exact number of bytes to match"
  | .invalidElement _ => some "use an int between 0 and 255, `_`, or a callable"
  | .bindingWithoutTransform => some missingArrowHint
  | .adjacentSkips => some "merge them into one pattern"
  | .unexpected wanted _ => wanted.hint?
  | _ => none

/-- Whether the message can be written: a number in it may be too long. -/
def isWritable : Cause → Bool
  | .elementOutOfRange _ value | .byteOutOfRange value | .negativeMember value =>
    !Number.isOverlong value
  | .elementNotWhole _ value | .invalidElement value | .notPattern value | .patternKeys value
  | .invalidMember value | .repeatedMember value =>
    !value.hasOverlong
  | .positionGap _ positions => !positions.any Number.isOverlong
  | _ => true

end Cause
end ByteRecord
