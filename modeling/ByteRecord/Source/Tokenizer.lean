import ByteRecord.Source.Token
import ByteRecord.Lexical.Number
import ByteRecord.Lexical.Operator
import ByteRecord.Lexical.StringForm

/-! The tokens of a specification text. Blanks, comments, line breaks and indentation are passed
over, but they count: inside brackets and after a protected line break a text may not end, and
outside brackets a line may only fall back to an indentation that is still open. -/
namespace ByteRecord.Source
open Text Lexical

/-- Why a text has no tokens. -/
inductive TokenizeError where
  /-- The text ends inside brackets or after a protected line break. -/
  | openStatement (location : Location)
  /-- The text ends inside a string literal. -/
  | openString (location : Location)
  /-- A line falls back to an indentation that no line before it has. -/
  | strayIndent (line : Nat)
deriving DecidableEq, Repr

/-- A string literal that goes on in the next row. -/
structure OpenString where
  start : Location
  text : List Char
  opening : Opening

/-- What one row leaves behind for the next. -/
structure Progress where
  /-- Brackets opened less brackets closed. -/
  depth : Int
  /-- The last row ended with a protected line break. -/
  continued : Bool
  /-- Widths of the indentations that are open, innermost first; the outermost is zero. -/
  indents : List Nat
  pending : Option OpenString

def Progress.initial : Progress := ⟨0, false, [], none⟩

def isBlankInRow (c : Char) : Bool :=
  c == ' ' || c == '\t' || c.toNat == 12

/-- What stands at a place in a row, with its width. -/
inductive Piece where
  | token (kind : TokenKind) (width : Nat)
  | trivia (width : Nat)
  /-- A protected line break. -/
  | continuation
  /-- A string literal that the row does not close. -/
  | openString (opening : Opening)

/-- The piece that a row begins with, if it begins with one. Comments end before a carriage
return; a literal in single quotes stays open only through a protected line break. -/
def piece? (row : List Char) : Option Piece :=
  match row with
  | '\\' :: '\n' :: _ => some .continuation
  | '\\' :: '\r' :: '\n' :: _ => some .continuation
  | '#' :: rest => some (.trivia ((rest.takeWhile fun c => c != '\r' && c != '\n').length + 1))
  | '\n' :: _ => some (.trivia 1)
  | '\r' :: '\n' :: _ => some (.trivia 2)
  | [] => none
  | first :: _ =>
    match opening? row with
    | some opening =>
      let body := row.drop opening.width
      match opening.closeWidth? body with
      | some close => some (.token .string (opening.width + close))
      | none =>
        if opening.triple || endsProtected body then some (.openString opening)
        else word? first row
    | none => word? first row
where
  word? (first : Char) (row : List Char) : Option Piece :=
    let number := numberWidth row
    let operator := operatorWidth row
    let word := (row.takeWhile isWord).length
    if number != 0 then some (.token .number number)
    else if operator != 0 then some (.token .op operator)
    else if word != 0 then
      some (.token (if isIdentifierStart first then .name else .op) word)
    else none

/-- A piece that ends in its row is no longer than the row. -/
def Piece.Fits (length : Nat) : Piece → Prop
  | .token _ width => width ≤ length
  | .trivia width => width ≤ length
  | _ => True

theorem piece?.fits_word? {row : List Char} (found : piece?.word? first row = some piece) :
    piece.Fits row.length := by
  dsimp only [piece?.word?] at found
  split at found
  · cases found
    exact numberWidth_le row
  · split at found
    · cases found
      exact operatorWidth_le row
    · split at found
      · cases found
        exact (List.takeWhile_sublist _).length_le
      · cases found

theorem fits_piece? {row : List Char} (found : piece? row = some piece) :
    piece.Fits row.length := by
  unfold piece? at found
  split at found
  · cases found
    trivial
  · cases found
    trivial
  · cases found
    exact Nat.succ_le_succ (List.takeWhile_sublist _).length_le
  · cases found
    exact Nat.succ_le_succ (Nat.zero_le _)
  · cases found
    exact Nat.succ_le_succ (Nat.succ_le_succ (Nat.zero_le _))
  · cases found
  · split at found
    · next opening opens =>
      have opening_le := width_opening? opens
      dsimp only at found
      split at found
      · next close closes =>
        have close_le := closeWidth?_le closes
        rw [List.length_drop] at close_le
        cases found
        dsimp only [Piece.Fits]
        omega
      · split at found
        · cases found
          trivial
        · exact piece?.fits_word? found
    · exact piece?.fits_word? found

def depthAfter (kind : TokenKind) (text : String) (depth : Int) : Int :=
  if kind == .op then
    if isOpening text then depth + 1 else if isClosing text then depth - 1 else depth
  else depth

/-- The tokens of the rest of a row from a column on; `skip` characters belong to the piece before.
Where no piece follows the blanks, the first of them is a token of its own. -/
def rowTokens (line : Nat) :
    (column skip : Nat) → List Char → Progress → List Token × Progress
  | _, _, [], progress => ([], progress)
  | column, skip + 1, _ :: rest, progress => rowTokens line (column + 1) skip rest progress
  | column, 0, c :: rest, progress =>
    let row := c :: rest
    let blanks := (row.takeWhile isBlankInRow).length
    let start : Location := ⟨line, column + blanks⟩
    let body := row.drop blanks
    if body.isEmpty then ([], progress) else
    match piece? body with
    | some (.token kind width) =>
      let text := String.ofList (body.take width)
      let token : Token := ⟨kind, text, start, ⟨line, column + blanks + width⟩⟩
      let (tokens, last) := rowTokens line (column + 1) (blanks + width - 1) rest
        { progress with depth := depthAfter kind text progress.depth }
      (token :: tokens, last)
    | some (.trivia width) => rowTokens line (column + 1) (blanks + width - 1) rest progress
    | some .continuation => ([], { progress with continued := true })
    | some (.openString opening) =>
      ([], { progress with pending := some ⟨start, body, opening⟩ })
    | none =>
      let token : Token := ⟨.error, c.toString, ⟨line, column⟩, ⟨line, column + 1⟩⟩
      let (tokens, last) := rowTokens line (column + 1) 0 rest progress
      (token :: tokens, last)

/-- The width of an indentation: a tab goes to the next multiple of eight, a form feed back to
zero. -/
def indentWidth (blanks : List Char) : Nat :=
  blanks.foldl (fun width c =>
    if c == ' ' then width + 1 else if c == '\t' then (width / 8 + 1) * 8 else 0) 0

/-- Opens an indentation or closes those that are wider; `none` if that leaves a narrower one. -/
def indentTo? (width : Nat) (indents : List Nat) : Option (List Nat) :=
  let kept := indents.dropWhile (width < ·)
  if kept.head?.getD 0 == width then some kept
  else if kept.length == indents.length then some (width :: indents)
  else none

/-- A row at which a statement may begin. -/
def statementRow (line : Nat) (row : List Char) (progress : Progress) :
    Except TokenizeError (List Token × Progress) :=
  let blanks := row.takeWhile isBlankInRow
  match row.drop blanks.length with
  | [] => .ok ([], progress)
  | '#' :: _ | '\r' :: _ | '\n' :: _ => .ok ([], progress)
  | _ =>
    match indentTo? (indentWidth blanks) progress.indents with
    | none => .error (.strayIndent line)
    | some indents =>
      .ok (rowTokens line blanks.length 0 (row.drop blanks.length)
        { progress with indents := indents })

def endsInContinuation (row : List Char) : Bool :=
  ['\\', '\n'].isSuffixOf row || ['\\', '\r', '\n'].isSuffixOf row

/-- A row that goes on with an open string literal. -/
def stringRow (line : Nat) (row : List Char) (pending : OpenString)
    (progress : Progress) : List Token × Progress :=
  let closed := { progress with pending := none }
  match pending.opening.closeWidth? row with
  | some width =>
    let text := String.ofList (pending.text ++ row.take width)
    let token : Token := ⟨.string, text, pending.start, ⟨line, width⟩⟩
    let (tokens, last) := rowTokens line width 0 (row.drop width) closed
    (token :: tokens, last)
  | none =>
    if !pending.opening.triple && !endsInContinuation row then
      let text := String.ofList (pending.text ++ row)
      ([⟨.error, text, pending.start, ⟨line, row.length⟩⟩], closed)
    else ([], { progress with pending := some { pending with text := pending.text ++ row } })

def rowStep (line : Nat) (row : List Char) (progress : Progress) :
    Except TokenizeError (List Token × Progress) :=
  match progress.pending with
  | some pending => .ok (stringRow line row pending progress)
  | none =>
    if progress.depth == 0 && !progress.continued then statementRow line row progress
    else .ok (rowTokens line 0 0 row { progress with continued := false })

/-- Cuts a text after each line feed. -/
def rows : List Char → List (List Char)
  | [] => []
  | c :: rest =>
    if c == '\n' then [c] :: rows rest
    else match rows rest with
      | [] => [[c]]
      | first :: more => (c :: first) :: more

def finish (line : Nat) (progress : Progress) : Except TokenizeError (List Token) :=
  match progress.pending with
  | some pending => .error (.openString pending.start)
  | none =>
    if progress.depth == 0 && !progress.continued then
      .ok [⟨.finish, "", ⟨line, 0⟩, ⟨line, 0⟩⟩]
    else .error (.openStatement ⟨line, 0⟩)

/-- The tokens of rows from a line on. A last row of blanks alone does not count as a line where a
statement might begin. -/
def tokensFrom (line : Nat) (progress : Progress) :
    List (List Char) → Except TokenizeError (List Token)
  | [] => finish line progress
  | row :: more => do
    let startsStatement :=
      progress.pending.isNone && progress.depth == 0 && !progress.continued
    if startsStatement && row.all isBlankInRow then finish line progress
    else
      let (tokens, progress) ← rowStep line row progress
      return tokens ++ (← tokensFrom (line + 1) progress more)

/-- The tokens of a text; the last one marks its end. -/
def tokenize (text : List Char) : Except TokenizeError (List Token) :=
  tokensFrom 1 .initial (rows text)

end ByteRecord.Source
