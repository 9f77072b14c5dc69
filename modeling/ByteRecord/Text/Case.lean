import ByteRecord.Text.CharClass
import ByteRecord.Text.CaseRuns
import ByteRecord.Text.CasedRanges

/-! Lower and upper case of texts. -/
namespace ByteRecord.Text

private def mapped? (runs : Array CaseRun) (c : Char) : Option Char :=
  runs.findSome? fun run => run.apply? c.toNat

/-- The lower case of a character on its own; one character has two as its lower case. -/
def lowerChars (c : Char) : List Char :=
  if isAscii c then [c.toLower]
  else if c.toNat == 0x130 then ['i', Char.ofNat 0x307]
  else [(mapped? lowerRuns c).getD c]

def upperChars (c : Char) : List Char :=
  if isAscii c then [c.toUpper]
  else match upperExpansions.find? (·.1 == c.toNat) with
    | some (_, expansion) => expansion.map Char.ofNat
    | none => [(mapped? upperRuns c).getD c]

/-- Letters that are capital or small. -/
def isCased (c : Char) : Bool :=
  if isAscii c then isAsciiLetter c else casedRanges.contains c.toNat

/-- Characters that a word may hold between its letters without ending. -/
def isCaseIgnorable (c : Char) : Bool :=
  if isAscii c then [0x27, 0x2e, 0x3a, 0x5e, 0x60].contains c.toNat
  else caseIgnorableRanges.contains c.toNat

/-- A capital sigma is final where a letter precedes it and none follows. -/
private def lowerFrom (before : List Char) : List Char → List Char
  | [] => []
  | c :: rest =>
    let small :=
      if c.toNat == 0x3a3 then
        let letterBefore := ((before.dropWhile isCaseIgnorable).head?.map isCased).getD false
        let letterAfter := ((rest.dropWhile isCaseIgnorable).head?.map isCased).getD false
        [Char.ofNat (if letterBefore && !letterAfter then 0x3c2 else 0x3c3)]
      else lowerChars c
    small ++ lowerFrom (c :: before) rest

def lower (text : String) : String :=
  String.ofList (lowerFrom [] text.toList)

def upper (text : String) : String :=
  String.ofList (text.toList.flatMap upperChars)

end ByteRecord.Text
