import ByteRecord.Expr.Compile

/-! The elements of a list display, each with the part of the text that it was read from. -/
namespace ByteRecord.Expr

/-- An element and its text, without redundant brackets around either. -/
structure Element where
  expr : Expr
  text : List Char

def trimGroups : Expr → List Lexeme → Expr × List Lexeme
  | .group inner, lexemes => trimGroups inner (lexemes.drop 1).dropLast
  | e, lexemes => (e, lexemes)

/-- The part of a text that lexemes cover. -/
def coveredText (text : List Char) (lexemes : List Lexeme) : List Char :=
  match lexemes.head?, lexemes.getLast? with
  | some first, some last =>
    let start := sourceOffset text first.start
    (text.drop start).take (sourceOffset text last.stop - start)
  | _, _ => []

def itemsFrom (fuel : Nat) : Nat → List Lexeme → List (Expr × List Lexeme)
  | 0, _ => []
  | count + 1, lexemes =>
    match displayItem fuel lexemes with
    | some (item, rest) =>
      (item, lexemes.take (lexemes.length - rest.length)) :: itemsFrom fuel count (rest.drop 1)
    | none => []

/-- What a text is if it is read as a list display. -/
inductive Display where
  | malformed
  | other
  | list (elements : List Element)

def Display.ofText (text : List Char) : Display :=
  match lexemes? (unifyLineBreaks text) with
  | none => .malformed
  | some lexemes =>
    match ofLexemes? lexemes with
    | none => .malformed
    | some (.list items) =>
      let found := itemsFrom (fuelFor lexemes) items.length (lexemes.drop 1)
      .list (found.map fun (item, own) =>
        let (expr, own) := trimGroups item own
        ⟨expr, coveredText text own⟩)
    | some _ => .other

end ByteRecord.Expr
