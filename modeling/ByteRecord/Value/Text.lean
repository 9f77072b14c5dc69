import ByteRecord.Value.Basic
import ByteRecord.Number.Shortest
import ByteRecord.Text.Quoted

/-! The text of a value: quoted, as inside other values and in messages, or plain. -/
namespace ByteRecord.Value
open Number Text

/-- Texts between commas. -/
def commaSeparated (texts : List String) : String :=
  ", ".intercalate texts

mutual

/-- The quoted text of a value. -/
def quotedText : Value → String
  | .none => "None"
  | .ellipsis => "Ellipsis"
  | .bool value => if value then "True" else "False"
  | .int value => intText value
  | .float value => floatText value
  | .str text => quoted text
  | .bytes data => quotedBytes data
  | .buffer .array data => "bytearray(" ++ quotedBytes data ++ ")"
  | .buffer .view _ => "<memory>"
  | .list items => "[" ++ commaSeparated (quotedTexts items) ++ "]"
  | .tuple [item] => "(" ++ quotedText item ++ ",)"
  | .tuple items => "(" ++ commaSeparated (quotedTexts items) ++ ")"
  | .set [] => "set()"
  | .set items => "\x7b" ++ commaSeparated (quotedTexts items) ++ "\x7d"
  | .dict entries => "\x7b" ++ commaSeparated (entryTexts entries) ++ "\x7d"
  | .range start stop step =>
    "range(" ++ intText start ++ ", " ++ intText stop ++
      (if step == 1 then "" else ", " ++ intText step) ++ ")"
  | .slice start stop step =>
    "slice(" ++ quotedText start ++ ", " ++ quotedText stop ++ ", " ++ quotedText step ++ ")"
  | .record ⟨_, .loose, _⟩ fields => "namespace(" ++ commaSeparated (fieldTexts fields) ++ ")"
  | .record t fields => t.name ++ "(" ++ commaSeparated (fieldTexts fields) ++ ")"
  | .stream _ => "<_io.BytesIO object>"
  | .type t => "<class " ++ quoted t.name ++ ">"
  | .module m => "<module " ++ quoted m.name ++ ">"
  | .builtin function => "<built-in function " ++ function.name ++ ">"
  | .method receiver name =>
    "<built-in method " ++ name ++ " of " ++ receiver.typeName ++ " object>"
  | .external name _ => "<function " ++ name ++ ">"
  | .counter _ => "<function counter>"
  | .lambda => "<function <lambda>>"
  | .foreign _ text => text

def quotedTexts : List Value → List String
  | [] => []
  | item :: rest => quotedText item :: quotedTexts rest

def entryTexts : List (Value × Value) → List String
  | [] => []
  | (key, value) :: rest => (quotedText key ++ ": " ++ quotedText value) :: entryTexts rest

def fieldTexts : List (String × Value) → List String
  | [] => []
  | (name, value) :: rest => (name ++ "=" ++ quotedText value) :: fieldTexts rest

end

/-- The text of a value on its own: a text is not quoted. -/
def plainText : Value → String
  | .str text => text
  | value => value.quotedText

mutual

/-- Holds a whole number too long to be written. -/
def hasOverlong : Value → Bool
  | .int value => isOverlong value
  | .list items | .tuple items | .set items => anyOverlong items
  | .dict entries => anyEntryOverlong entries
  | .record _ fields => anyFieldOverlong fields
  | .range start stop step => isOverlong start || isOverlong stop || isOverlong step
  | .slice start stop step => hasOverlong start || hasOverlong stop || hasOverlong step
  | _ => false

def anyOverlong : List Value → Bool
  | [] => false
  | item :: rest => hasOverlong item || anyOverlong rest

def anyEntryOverlong : List (Value × Value) → Bool
  | [] => false
  | (key, value) :: rest => hasOverlong key || hasOverlong value || anyEntryOverlong rest

def anyFieldOverlong : List (String × Value) → Bool
  | [] => false
  | (_, value) :: rest => hasOverlong value || anyFieldOverlong rest

end

end ByteRecord.Value
