import ByteRecord.Plan.Basic

/-! Formats of a catalogue document: named records with their fields. What a document leaves open is
kept as it is given; only patterns are read at once. -/
namespace ByteRecord

structure FieldDefinition where
  pattern : Pattern
  member : Value
  binding : Value
  transform : Value
  description : Value

structure Format where
  name : Value
  extensions : Value
  fields : List FieldDefinition
  rest : Value
  description : Value
  metadata : Value

namespace Format

def size (format : Format) : Nat :=
  (format.fields.map (·.pattern.size)).foldr (· + ·) 0

end Format

namespace Catalogue

def required (document : Value) (key : String) : Except Fault Value :=
  match document with
  | .dict entries => match Value.lookup? entries (.str key) with
    | some value => .ok value
    | none => .error (.failure .key)
  | _ => .error (.failure .type)

def optional (document : Value) (key : String) (default : Value) : Except Fault Value :=
  match document with
  | .dict entries => .ok ((Value.lookup? entries (.str key)).getD default)
  | _ => .error (.failure .attribute)

def itemsOf (document : Value) : Except Fault (List Value) :=
  match document.items? with
  | some items => .ok items
  | none => .error (.failure .type)

/-- The bytes of a pattern: the characters of a text, each a byte, or what else yields bytes. -/
def patternBytes (content : Value) : Except Fault Pattern :=
  let data := match content with
    | .str text => Value.encode .latin1 text
    | content => Value.bytesOf content
  match data with
  | .ok data => .ok (Pattern.ofBytes data)
  | .error failure => .error (.failure failure)

/-- Whether a lexer looks the next piece up among the digits and blanks, which only works for what
can be a key. -/
def looksUp (lexer : Hex.Lexer) : Bool :=
  match lexer.pending with
  | none | some (.digit _) => true
  | some .underscore | some .dot => false

/-- What an index finds in a sequence of pieces: an item of a list, or what a mapping has under the
number as a key. -/
def pieceAt? (content : Value) (index : Int) : Option Value :=
  match content with
  | .dict entries => Value.lookup? entries (.int index)
  | content => content.items?.bind (·[index.toNat]?)

/-- The error about some of the pieces, which it shows. It shows the first half of an open pair as an
index finds it. -/
def refusePieces (content : Value) (shown : List Value) : Hex.LexFault → Fault
  | .error (.unpaired awaited _ start found) =>
    match pieceAt? content start with
    | none => .failure .key
    | some orphan =>
      if (orphan :: shown).any Value.hasOverlong then .failure .value
      else .ofHex (.error (.unpaired awaited orphan.plainText start found))
  | fault => if shown.any Value.hasOverlong then .failure .value else .ofHex fault

/-- Reads the pieces of a hex literal that is given as a sequence; a piece that is no text is no
character of a literal. -/
def lexPieces (content : Value) (lexer : Hex.Lexer) (position : Nat) :
    List Value → Except Fault Hex.Lexer
  | [] => .ok lexer
  | piece :: rest =>
    let fed := match piece with
      | .str text => lexer.feed text position
      | piece => lexer.feedPiece none piece.plainText position
    if looksUp lexer && !piece.isHashable then .error (.failure .type)
    else match fed with
      | .ok lexer => lexPieces content lexer (position + 1) rest
      | .error fault => .error (refusePieces content [piece] fault)

def patternHex (content : Value) : Except Fault Pattern :=
  match content with
  | .str text => Pattern.ofHex text.toList
  | content => do
    let pieces ← itemsOf content
    let lexer ← lexPieces content (.ofPieces (pieces.map Value.plainText)) 0 pieces
    Pattern.ofTokens (← lexer.finish.mapError (refusePieces content [])) false

/-- An element of a list: a text other than `_` and `..` is an expression. -/
def elementMatcher (element : Value) : Except Fault Matcher :=
  match element with
  | .str "_" | .str ".." => (Pattern.Element.value element).toMatcher
  | .str source => do
    let code ← Expression.codeOf none .pattern source.toList
    return .deferred ⟨source, .inl code, none⟩
  | element => (Pattern.Element.value element).toMatcher

/-- The pattern that a document part stands for: a hex literal, a list of elements, or a mapping
that says which. -/
def readPattern (document : Value) : Except Fault Pattern :=
  match document with
  | .dict entries =>
    match Value.lookup? entries (.str "bytes"), Value.lookup? entries (.str "hex") with
    | some content, _ => patternBytes content
    | none, some content => patternHex content
    | none, none => .error (.ofCause .pattern (.patternKeys document))
  | .list items => do return ⟨← items.mapM elementMatcher, .array⟩
  | document => (Pattern.Given.value document).toPattern

/-- The member of a field; `_` stands for none. -/
def memberOf : Value → Value
  | .str "_" => .none
  | member => member

def readField (document : Value) : Except Fault FieldDefinition := do
  let pattern ← readPattern (← required document "pattern")
  let member ← optional document "member" .none
  let binding ← optional document "binding" .none
  let transform ← optional document "transform" .none
  let description ← optional document "description" (.str "")
  return ⟨pattern, memberOf member, binding, transform, description⟩

/-- Says in an error of a specification which format it belongs to. -/
def inFormat (name : Value) (fault : Fault) : Fault :=
  match fault with
  | .specification error =>
    if name.hasOverlong then .failure .value
    else .specification { error with format := some name.quotedText }
  | fault => fault

def readFields (document : Value) : Except Fault (List FieldDefinition) := do
  (← itemsOf (← optional document "fields" (.list []))).mapM readField

def readFormat (document : Value) : Except Fault Format := do
  let name ← required document "name"
  let fields ← (readFields document).mapError (inFormat name)
  let extensions ← optional document "extensions" (.list [])
  let rest ← optional document "rest" .none
  let description ← optional document "description" (.str "")
  let metadata ← optional document "metadata" (.dict [])
  return ⟨name, extensions, fields, rest, description, metadata⟩

def readFormats (document : Value) : Except Fault (List Format) := do
  (← itemsOf (← optional document "formats" (.list []))).mapM readFormat

end Catalogue
end ByteRecord
