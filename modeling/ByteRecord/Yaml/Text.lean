import ByteRecord.Yaml.Place
import ByteRecord.Hex.Digit

/-! Scalars in a document text: quoted ones with their escapes, and plain ones. A line break within
a scalar stands for a blank, further ones for themselves. -/
namespace ByteRecord.Yaml

/-- What a run of blanks and line breaks inside a scalar stands for. -/
def folded (run : List Char) : List Char :=
  let run := run.filter fun c => c != '\r' || !run.contains '\n'
  match (run.filter isBreak).length with
  | 0 => run
  | 1 => [' ']
  | count + 2 => List.replicate (count + 1) '\n'

/-- A run of blanks and line breaks at the start of a text. -/
private def spaceRun (text : List Char) : List Char :=
  text.takeWhile isSpace

/-- A scalar in single quotes, after its opening quote. -/
def singleQuoted : (fuel : Nat) → Place → Option (List Char × Place)
  | 0, _ => none
  | fuel + 1, place =>
    match place.rest with
    | [] => none
    | '\'' :: '\'' :: _ => do
      let (text, place) ← singleQuoted fuel (place.moved 2)
      return ('\'' :: text, place)
    | '\'' :: _ => some ([], place.advanced)
    | c :: _ =>
      let run := spaceRun place.rest
      let (own, width) := if run.isEmpty then ([c], 1) else (folded run, run.length)
      do
        let (text, place) ← singleQuoted fuel (place.moved width)
        return (own ++ text, place)

private def plainEscape? : Char → Option Nat
  | '0' => some 0
  | 'a' => some 7
  | 'b' => some 8
  | 't' | '\t' => some 9
  | 'n' => some 10
  | 'v' => some 11
  | 'f' => some 12
  | 'r' => some 13
  | 'e' => some 27
  | ' ' => some 32
  | '"' => some 34
  | '/' => some 47
  | '\\' => some 92
  | 'N' => some 0x85
  | '_' => some 0xa0
  | 'L' => some 0x2028
  | 'P' => some 0x2029
  | _ => none

private def codeWidth? : Char → Option Nat
  | 'x' => some 2
  | 'u' => some 4
  | 'U' => some 8
  | _ => none

private def codeValue? (digits : List Char) : Option Nat :=
  digits.foldlM (fun value c => (Hex.digitValue? c).map (value * 16 + ·)) 0

/-- What an escape stands for, and how many characters it takes after the backslash. -/
private def escape? (text : List Char) : Option (List Char × Nat) :=
  match text with
  | [] => none
  | c :: rest =>
    match plainEscape? c, codeWidth? c with
    | some code, _ => some ([Char.ofNat code], 1)
    | _, some width => do
      guard (width ≤ rest.length)
      return ([Char.ofNat (← codeValue? (rest.take width))], width + 1)
    | _, _ =>
      if isBreak c then some ([], (spaceRun text).length) else none

/-- A scalar in double quotes, after its opening quote. -/
def doubleQuoted : (fuel : Nat) → Place → Option (List Char × Place)
  | 0, _ => none
  | fuel + 1, place =>
    match place.rest with
    | [] => none
    | '"' :: _ => some ([], place.advanced)
    | '\\' :: rest => do
      let (own, width) ← escape? rest
      let (text, place) ← doubleQuoted fuel (place.moved (width + 1))
      return (own ++ text, place)
    | c :: _ =>
      let run := spaceRun place.rest
      let (own, width) := if run.isEmpty then ([c], 1) else (folded run, run.length)
      do
        let (text, place) ← doubleQuoted fuel (place.moved width)
        return (own ++ text, place)

private def isFlowIndicator (c : Char) : Bool :=
  c == ',' || c == '[' || c == ']' || c == '\x7b' || c == '\x7d'

/-- Whether a colon before this text ends a plain scalar. -/
def endsAtColon (inFlow : Bool) (rest : List Char) : Bool :=
  match rest with
  | [] => true
  | c :: _ => isSpace c || (inFlow && isFlowIndicator c)

/-- The part of a plain scalar up to the next blank. -/
def plainWord (inFlow : Bool) : List Char → List Char
  | [] => []
  | c :: rest =>
    if isSpace c || (c == ':' && endsAtColon inFlow rest) ||
        (inFlow && (isFlowIndicator c || c == '?')) then []
    else c :: plainWord inFlow rest

/-- A plain scalar. It goes on over blanks, and in the next line if that is indented by at least
`indent`. -/
def plain (inFlow : Bool) (indent : Nat) : (fuel : Nat) → Place → List Char × Place
  | 0, place => ([], place)
  | fuel + 1, place =>
    let word := plainWord inFlow place.rest
    let after := place.moved word.length
    let run := spaceRun after.rest
    let next := after.moved run.length
    let stops := word.isEmpty || run.isEmpty || (plainWord inFlow next.rest).isEmpty ||
      next.head? == some '#' ||
      (next.line != after.line && !inFlow && next.column < indent)
    if stops then (word, after)
    else
      let (text, place) := plain inFlow indent fuel next
      (word ++ folded run ++ text, place)

/-- Whether a plain scalar can begin here. -/
def beginsPlain (inFlow : Bool) (place : Place) : Bool :=
  match place.rest with
  | [] => false
  | c :: _ =>
    if isSpace c then false
    else if c == '-' then !place.isSeparated
    else if c == '?' || c == ':' then !inFlow && !place.isSeparated
    else !isFlowIndicator c && !"#&*!|>'\"%@`".toList.contains c

end ByteRecord.Yaml
