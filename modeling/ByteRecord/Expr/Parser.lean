import ByteRecord.Expr.Lexeme
import ByteRecord.Expr.Operator
import ByteRecord.Expr.Strings

/-! Reading expressions from lexemes. Every function reads from the front and returns the rest;
the fuel bounds the nesting of calls and is a multiple of the number of lexemes. -/
namespace ByteRecord.Expr
open Text

/-- Adjacent string literals are one; byte strings do not mix with texts. The embedded expressions of
formatted texts are read already. -/
def joinStrings? (embedded : List Expr) : List StringValue → Option Expr
  | [] => none
  | .bytes data :: rest => do
    let rest ← rest.mapM fun
      | .bytes more => some more
      | _ => none
    return .const (.bytes (data ++ rest.flatten))
  | values => do
    let texts ← values.mapM fun
      | .text chars | .formatted chars _ => some chars
      | .bytes _ => none
    let text := String.ofList texts.flatten
    return if values.any (·.isFormatted) then .formatted text embedded else .const (.str text)

private def beginsClause (lexemes : List Lexeme) : Bool :=
  isWord "for" lexemes || (isWord "async" lexemes && isWord "for" lexemes.tail)

/-- What a comprehension may bind: names, parts of objects, and displays of those. -/
def isTarget : Expr → Bool
  | .name _ | .attribute _ _ | .subscript _ _ => true
  | .group inner => isTarget inner
  | .tuple items | .list items => areTargets items
  | _ => false
where
  areTargets : List Expr → Bool
    | [] => true
    | .starred inner :: rest => isTarget inner && areTargets rest
    | item :: rest => isTarget item && areTargets rest

private def isAssign : Expr → Bool
  | .assign _ _ => true
  | _ => false

private def isStarred : Expr → Bool
  | .starred _ => true
  | _ => false

/-- How far a list of arguments or parameters has come. -/
private structure ParameterState where
  slash : Bool
  star : Bool
  sawDefault : Bool
  /-- A bare star has to be followed by a named parameter. -/
  needsName : Bool
  finished : Bool

mutual

/-- An expression, or an assignment in passing. -/
def namedExpr : Nat → List Lexeme → Option (Expr × Rest)
  | 0, _ => none
  | fuel + 1, lexemes =>
    match freeName? lexemes with
    | some (word, rest) =>
      if isOp ":=" rest then do
        let (value, rest) ← expression fuel rest.tail
        return (.assign word value, rest)
      else expression fuel lexemes
    | none => expression fuel lexemes

def expression : Nat → List Lexeme → Option (Expr × Rest)
  | 0, _ => none
  | fuel + 1, lexemes =>
    if isWord "lambda" lexemes then
      parameters fuel ⟨false, false, false, false, false⟩ [] [] lexemes.tail
    else do
      let (positive, rest) ← operand fuel .disjunction lexemes
      if isWord "if" rest then
        let (test, rest) ← operand fuel .disjunction rest.tail
        let rest ← skipWord? "else" rest
        let (negative, rest) ← expression fuel rest
        return (.conditional test positive negative, rest)
      else return (positive, rest)

/-- The parameters of an anonymous function, and its body. -/
def parameters : Nat → ParameterState → List Parameter → List Expr → List Lexeme →
    Option (Expr × Rest)
  | 0, _, _, _, _ => none
  | fuel + 1, state, found, defaults, lexemes =>
    if isOp ":" lexemes then
      if state.needsName then none
      else do
        let (body, rest) ← expression fuel lexemes.tail
        return (.lambda found.reverse defaults.reverse body, rest)
    else if state.finished then none
    else if isOp "/" lexemes then
      if state.slash || state.star || found.isEmpty then none
      else separator fuel { state with slash := true } found defaults lexemes.tail
    else if isOp "**" lexemes then
      if state.needsName then none
      else do
        let (word, rest) ← freeName? lexemes.tail
        separator fuel { state with finished := true }
          (⟨word, .keywordRest, false⟩ :: found) defaults rest
    else if isOp "*" lexemes then
      if state.star then none
      else match freeName? lexemes.tail with
        | some (word, rest) =>
          separator fuel { state with star := true } (⟨word, .rest, false⟩ :: found) defaults rest
        | none =>
          if isOp "," lexemes.tail then
            separator fuel { state with star := true, needsName := true } found defaults
              lexemes.tail
          else none
    else do
      let (word, rest) ← freeName? lexemes
      let kind : ParameterKind := if state.star then .keywordOnly else .positional
      if isOp "=" rest then
        let (value, rest) ← expression fuel rest.tail
        separator fuel { state with
          sawDefault := state.sawDefault || !state.star, needsName := false }
          (⟨word, kind, true⟩ :: found) (value :: defaults) rest
      else if state.sawDefault && !state.star then none
      else
        separator fuel { state with needsName := false }
          (⟨word, kind, false⟩ :: found) defaults rest

/-- A comma between parameters, or the colon that ends them. -/
def separator : Nat → ParameterState → List Parameter → List Expr → List Lexeme →
    Option (Expr × Rest)
  | 0, _, _, _, _ => none
  | fuel + 1, state, found, defaults, lexemes =>
    if isOp "," lexemes then parameters fuel state found defaults lexemes.tail
    else if isOp ":" lexemes then parameters fuel state found defaults lexemes
    else none

def operand : Nat → Level → List Lexeme → Option (Expr × Rest)
  | 0, _, _ => none
  | fuel + 1, level, lexemes =>
    match level with
    | .disjunction => do
      let (first, rest) ← operand fuel .conjunction lexemes
      let (more, rest) ← chain fuel "or" .conjunction rest
      return (if more.isEmpty then first else .any (first :: more), rest)
    | .conjunction => do
      let (first, rest) ← operand fuel .inversion lexemes
      let (more, rest) ← chain fuel "and" .inversion rest
      return (if more.isEmpty then first else .all (first :: more), rest)
    | .inversion =>
      if isWord "not" lexemes then do
        let (inner, rest) ← operand fuel .inversion lexemes.tail
        return (.unary .not inner, rest)
      else operand fuel .comparison lexemes
    | .comparison => do
      let (first, rest) ← operand fuel .bitOr lexemes
      let (more, rest) ← comparisons fuel rest
      return (if more.isEmpty then first
        else .compare first (more.map (·.1)) (more.map (·.2)), rest)
    | .factor =>
      match signOperator? lexemes with
      | some (op, rest) => do
        let (inner, rest) ← operand fuel .factor rest
        return (.unary op inner, rest)
      | none => operand fuel .power lexemes
    | .power => do
      let (base, rest) ← awaited fuel lexemes
      if isOp "**" rest then
        let (exponent, rest) ← operand fuel .factor rest.tail
        return (.binary .pow base exponent, rest)
      else return (base, rest)
    | level => do
      let (first, rest) ← operand fuel level.tighter lexemes
      leftChain fuel level first rest

/-- Further operands after a word. -/
def chain : Nat → String → Level → List Lexeme → Option (List Expr × Rest)
  | 0, _, _, _ => none
  | fuel + 1, word, level, lexemes =>
    if isWord word lexemes then do
      let (next, rest) ← operand fuel level lexemes.tail
      let (more, rest) ← chain fuel word level rest
      return (next :: more, rest)
    else some ([], lexemes)

def comparisons : Nat → List Lexeme → Option (List (Comparison × Expr) × Rest)
  | 0, _ => none
  | fuel + 1, lexemes =>
    match comparison? lexemes with
    | some (op, rest) => do
      let (next, rest) ← operand fuel .bitOr rest
      let (more, rest) ← comparisons fuel rest
      return ((op, next) :: more, rest)
    | none => some ([], lexemes)

def leftChain : Nat → Level → Expr → List Lexeme → Option (Expr × Rest)
  | 0, _, _, _ => none
  | fuel + 1, level, left, lexemes =>
    match leftOperator? level lexemes with
    | some (op, rest) => do
      let (right, rest) ← operand fuel level.tighter rest
      leftChain fuel level (.binary op left right) rest
    | none => some (left, lexemes)

def awaited : Nat → List Lexeme → Option (Expr × Rest)
  | 0, _ => none
  | fuel + 1, lexemes =>
    if isWord "await" lexemes then do
      let (inner, rest) ← primary fuel lexemes.tail
      return (.await inner, rest)
    else primary fuel lexemes

def primary : Nat → List Lexeme → Option (Expr × Rest)
  | 0, _ => none
  | fuel + 1, lexemes => do
    let (object, rest) ← atom fuel lexemes
    suffixes fuel object rest

/-- Attributes, calls and subscripts after an object. -/
def suffixes : Nat → Expr → List Lexeme → Option (Expr × Rest)
  | 0, _, _ => none
  | fuel + 1, object, lexemes =>
    if isOp "." lexemes then do
      let (word, rest) ← freeName? lexemes.tail
      suffixes fuel (.attribute object word) rest
    else if isOp "(" lexemes then do
      let (arguments, rest) ← arguments fuel 0 true lexemes.tail
      suffixes fuel (.call object arguments) rest
    else if isOp "[" lexemes then do
      let (index, rest) ← slices fuel lexemes.tail
      suffixes fuel (.subscript object index) rest
    else some (object, lexemes)

/-- The arguments of a call up to its closing bracket. In stage 0 they are positional, in stage 1
named or starred, in stage 2 named or spread. -/
def arguments : Nat → (stage : Nat) → (first : Bool) → List Lexeme → Option (List Expr × Rest)
  | 0, _, _, _ => none
  | fuel + 1, stage, first, lexemes =>
    if isOp ")" lexemes then some ([], lexemes.tail)
    else if isOp "**" lexemes then do
      let (inner, rest) ← expression fuel lexemes.tail
      moreArguments fuel 2 (.spread inner) rest
    else if isOp "*" lexemes then
      if stage == 2 then none
      else do
        let (inner, rest) ← expression fuel lexemes.tail
        moreArguments fuel stage (.starred inner) rest
    else
      let named := (freeName? lexemes).filter fun (_, rest) => isOp "=" rest
      match named with
      | some (word, rest) => do
        let (value, rest) ← expression fuel rest.tail
        moreArguments fuel (max stage 1) (.keyword word value) rest
      | none =>
        if stage != 0 then none
        else do
          let (value, rest) ← namedExpr fuel lexemes
          if first && beginsClause rest then
            let (clauses, rest) ← clauses fuel rest
            let rest ← skipOp? ")" rest
            return ([.comprehension .generator value clauses], rest)
          else moreArguments fuel 0 value rest

/-- An argument, then a comma and more of them, or the closing bracket. -/
def moreArguments : Nat → Nat → Expr → List Lexeme → Option (List Expr × Rest)
  | 0, _, _, _ => none
  | fuel + 1, stage, argument, lexemes =>
    if isOp "," lexemes then do
      let (more, rest) ← arguments fuel stage false lexemes.tail
      return (argument :: more, rest)
    else do
      let rest ← skipOp? ")" lexemes
      return ([argument], rest)

/-- The index of a subscript up to its closing bracket; more than one, or a starred one, is a
tuple. -/
def slices : Nat → List Lexeme → Option (Expr × Rest)
  | 0, _ => none
  | fuel + 1, lexemes => do
    let (first, rest) ← sliceItem fuel lexemes
    if isOp "]" rest then
      return (if isStarred first then .tuple [first] else first, rest.tail)
    else
      let rest ← skipOp? "," rest
      let (more, rest) ← sliceItems fuel rest
      return (.tuple (first :: more), rest)

def sliceItems : Nat → List Lexeme → Option (List Expr × Rest)
  | 0, _ => none
  | fuel + 1, lexemes =>
    if isOp "]" lexemes then some ([], lexemes.tail)
    else do
      let (item, rest) ← sliceItem fuel lexemes
      if isOp "]" rest then return ([item], rest.tail)
      else
        let rest ← skipOp? "," rest
        let (more, rest) ← sliceItems fuel rest
        return (item :: more, rest)

def sliceItem : Nat → List Lexeme → Option (Expr × Rest)
  | 0, _ => none
  | fuel + 1, lexemes =>
    if isOp "*" lexemes then do
      let (inner, rest) ← expression fuel lexemes.tail
      return (.starred inner, rest)
    else if isOp ":" lexemes then sliceBounds fuel (.const .none) lexemes
    else do
      let (start, rest) ← namedExpr fuel lexemes
      if isOp ":" rest then
        if isAssign start then none else sliceBounds fuel start rest
      else return (start, rest)

/-- The bounds after the first one, from its colon on. -/
def sliceBounds : Nat → Expr → List Lexeme → Option (Expr × Rest)
  | 0, _, _ => none
  | fuel + 1, start, lexemes => do
    let (stop, rest) ← bound fuel (← skipOp? ":" lexemes)
    if isOp ":" rest then
      let (step, rest) ← bound fuel rest.tail
      return (.slice start stop step, rest)
    else return (.slice start stop (.const .none), rest)

def bound : Nat → List Lexeme → Option (Expr × Rest)
  | 0, _ => none
  | fuel + 1, lexemes =>
    if isOp ":" lexemes || isOp "]" lexemes || isOp "," lexemes then
      some (.const .none, lexemes)
    else expression fuel lexemes

def atom : Nat → List Lexeme → Option (Expr × Rest)
  | 0, _ => none
  | fuel + 1, lexemes =>
    match lexemes with
    | [] => none
    | ⟨.name, found, _⟩ :: rest =>
      match String.ofList found with
      | "True" => some (.const (.bool true), rest)
      | "False" => some (.const (.bool false), rest)
      | "None" => some (.const .none, rest)
      | word => if reservedWords.contains word then none else some (.name word, rest)
    | ⟨.number, found, _⟩ :: rest => do
      return (.const (← numberValue? found), rest)
    | ⟨.string, _, _⟩ :: _ => do
      let strings := lexemes.takeWhile (·.kind == .string)
      let values ← strings.mapM fun lexeme => stringValue? lexeme.text
      let embedded ← (values.flatMap StringValue.fields).mapM fun text => do
        let (inner, rest) ← atom fuel (← lexemes? ('(' :: text ++ [')']))
        if rest.isEmpty then some inner else none
      return (← joinStrings? embedded values, lexemes.drop strings.length)
    | ⟨.lineEnd, _, _⟩ :: _ => none
    | ⟨.op, found, _⟩ :: rest =>
      match String.ofList found with
      | "..." => some (.const .ellipsis, rest)
      | "(" => bracketed fuel rest
      | "[" => listDisplay fuel rest
      | "\x7b" => braced fuel rest
      | _ => none

/-- After an opening round bracket: a tuple, a generator, or an expression in brackets. -/
def bracketed : Nat → List Lexeme → Option (Expr × Rest)
  | 0, _ => none
  | fuel + 1, lexemes =>
    if isOp ")" lexemes then some (.tuple [], lexemes.tail)
    else if isWord "yield" lexemes then do
      let (inner, rest) ← yielded fuel lexemes.tail
      return (.group inner, ← skipOp? ")" rest)
    else do
      let (first, rest) ← displayItem fuel lexemes
      if isOp "," rest then
        let (more, rest) ← displayItems fuel ")" rest
        return (.tuple (first :: more), rest)
      else if isStarred first then none
      else if beginsClause rest then
        let (clauses, rest) ← clauses fuel rest
        return (.comprehension .generator first clauses, ← skipOp? ")" rest)
      else return (.group first, ← skipOp? ")" rest)

def yielded : Nat → List Lexeme → Option (Expr × Rest)
  | 0, _ => none
  | fuel + 1, lexemes =>
    if isWord "from" lexemes then do
      let (inner, rest) ← expression fuel lexemes.tail
      return (.yieldFrom inner, rest)
    else if isOp ")" lexemes then some (.yield (.const .none), lexemes)
    else do
      let (first, rest) ← plainItem fuel lexemes
      if isOp "," rest then
        let (more, rest) ← plainItems fuel rest
        return (.yield (.tuple (first :: more)), rest)
      else if isStarred first then none
      else return (.yield first, rest)

def plainItem : Nat → List Lexeme → Option (Expr × Rest)
  | 0, _ => none
  | fuel + 1, lexemes =>
    if isOp "*" lexemes then do
      let (inner, rest) ← operand fuel .bitOr lexemes.tail
      return (.starred inner, rest)
    else expression fuel lexemes

def plainItems : Nat → List Lexeme → Option (List Expr × Rest)
  | 0, _ => none
  | fuel + 1, lexemes =>
    if isOp "," lexemes then
      if isOp ")" lexemes.tail then some ([], lexemes.tail)
      else do
        let (item, rest) ← plainItem fuel lexemes.tail
        let (more, rest) ← plainItems fuel rest
        return (item :: more, rest)
    else some ([], lexemes)

/-- An item of a display: a named expression or a starred operand. -/
def displayItem : Nat → List Lexeme → Option (Expr × Rest)
  | 0, _ => none
  | fuel + 1, lexemes =>
    if isOp "*" lexemes then do
      let (inner, rest) ← operand fuel .bitOr lexemes.tail
      return (.starred inner, rest)
    else namedExpr fuel lexemes

/-- Further items up to the closing bracket, from the comma before them on. -/
def displayItems : Nat → String → List Lexeme → Option (List Expr × Rest)
  | 0, _, _ => none
  | fuel + 1, closing, lexemes =>
    if isOp closing lexemes then some ([], lexemes.tail)
    else do
      let rest ← skipOp? "," lexemes
      if isOp closing rest then return ([], rest.tail)
      else
        let (item, rest) ← displayItem fuel rest
        let (more, rest) ← displayItems fuel closing rest
        return (item :: more, rest)

def listDisplay : Nat → List Lexeme → Option (Expr × Rest)
  | 0, _ => none
  | fuel + 1, lexemes =>
    if isOp "]" lexemes then some (.list [], lexemes.tail)
    else do
      let (first, rest) ← displayItem fuel lexemes
      if beginsClause rest then
        if isStarred first then none
        else
          let (clauses, rest) ← clauses fuel rest
          return (.comprehension .list first clauses, ← skipOp? "]" rest)
      else
        let (more, rest) ← displayItems fuel "]" rest
        return (.list (first :: more), rest)

/-- After an opening brace: a mapping or a set, displayed or comprehended. -/
def braced : Nat → List Lexeme → Option (Expr × Rest)
  | 0, _ => none
  | fuel + 1, lexemes =>
    if isOp "\x7d" lexemes then some (.dict [], lexemes.tail)
    else if isOp "**" lexemes then do
      let (items, rest) ← dictItems fuel lexemes
      return (.dict items, rest)
    else do
      let (first, rest) ← displayItem fuel lexemes
      if isOp ":" rest then
        if isStarred first || isAssign first then none
        else
          let (value, rest) ← expression fuel rest.tail
          if beginsClause rest then
            let (clauses, rest) ← clauses fuel rest
            return (.comprehension .dict (.entry first value) clauses, ← skipOp? "\x7d" rest)
          else if isOp "," rest then
            let (more, rest) ← dictItems fuel rest.tail
            return (.dict (.entry first value :: more), rest)
          else return (.dict [.entry first value], ← skipOp? "\x7d" rest)
      else if beginsClause rest then
        if isStarred first then none
        else
          let (clauses, rest) ← clauses fuel rest
          return (.comprehension .set first clauses, ← skipOp? "\x7d" rest)
      else
        let (more, rest) ← displayItems fuel "\x7d" rest
        return (.set (first :: more), rest)

def dictItems : Nat → List Lexeme → Option (List Expr × Rest)
  | 0, _ => none
  | fuel + 1, lexemes =>
    if isOp "\x7d" lexemes then some ([], lexemes.tail)
    else do
      let (item, rest) ← dictItem fuel lexemes
      if isOp "," rest then
        let (more, rest) ← dictItems fuel rest.tail
        return (item :: more, rest)
      else return ([item], ← skipOp? "\x7d" rest)

def dictItem : Nat → List Lexeme → Option (Expr × Rest)
  | 0, _ => none
  | fuel + 1, lexemes =>
    if isOp "**" lexemes then do
      let (inner, rest) ← operand fuel .bitOr lexemes.tail
      return (.spread inner, rest)
    else do
      let (key, rest) ← expression fuel lexemes
      let (value, rest) ← expression fuel (← skipOp? ":" rest)
      return (.entry key value, rest)

/-- One or more clauses of a comprehension. -/
def clauses : Nat → List Lexeme → Option (List Expr × Rest)
  | 0, _ => none
  | fuel + 1, lexemes => do
    let isAsync := isWord "async" lexemes
    let rest ← skipWord? "for" (if isAsync then lexemes.tail else lexemes)
    let (target, rest) ← targets fuel rest
    let rest ← skipWord? "in" rest
    let (iterable, rest) ← operand fuel .disjunction rest
    let (conditions, rest) ← chain fuel "if" .disjunction rest
    let clause : Expr := .clause isAsync target iterable conditions
    if beginsClause rest then
      let (more, rest) ← clauses fuel rest
      return (clause :: more, rest)
    else return ([clause], rest)

def targets : Nat → List Lexeme → Option (Expr × Rest)
  | 0, _ => none
  | fuel + 1, lexemes => do
    let (first, rest) ← target fuel lexemes
    if isOp "," rest then
      let (more, rest) ← moreTargets fuel rest
      return (.tuple (first :: more), rest)
    else return (first, rest)

def moreTargets : Nat → List Lexeme → Option (List Expr × Rest)
  | 0, _ => none
  | fuel + 1, lexemes =>
    if isOp "," lexemes then
      if isWord "in" lexemes.tail then some ([], lexemes.tail)
      else do
        let (item, rest) ← target fuel lexemes.tail
        let (more, rest) ← moreTargets fuel rest
        return (item :: more, rest)
    else some ([], lexemes)

def target : Nat → List Lexeme → Option (Expr × Rest)
  | 0, _ => none
  | fuel + 1, lexemes => do
    let starred := isOp "*" lexemes
    let (item, rest) ← primary fuel (if starred then lexemes.tail else lexemes)
    if isTarget item then return (if starred then .starred item else item, rest) else none

end

/-- Enough fuel for any expression of these lexemes and for the expressions that its texts embed. -/
def fuelFor (lexemes : List Lexeme) : Nat :=
  20 * (lexemes.length + (lexemes.flatMap (·.text)).length) + 20

def isFinished (lexemes : List Lexeme) : Bool :=
  lexemes.all (·.kind == .lineEnd)

/-- Reads expressions separated by commas to the end, as a tuple if there is a comma. -/
def ofLexemes? (lexemes : List Lexeme) : Option Expr := do
  let fuel := fuelFor lexemes
  let (first, rest) ← expression fuel lexemes
  if isOp "," rest then
    let (more, rest) ← trailing fuel rest.tail
    if isFinished rest then return .tuple (first :: more) else none
  else if isFinished rest then return first
  else none
where
  trailing : Nat → List Lexeme → Option (List Expr × Rest)
    | 0, _ => none
    | fuel + 1, lexemes =>
      if isFinished lexemes then some ([], lexemes)
      else do
        let (item, rest) ← expression (fuelFor lexemes) lexemes
        if isOp "," rest then
          let (more, rest) ← trailing fuel rest.tail
          return (item :: more, rest)
        else return ([item], rest)

end ByteRecord.Expr
