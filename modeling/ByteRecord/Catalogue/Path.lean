import ByteRecord.Text.Case

/-! File names. -/
namespace ByteRecord.Catalogue

/-- The parts of a path between slashes; empty parts and single dots do not count. -/
def pathParts (path : List Char) : List (List Char) :=
  (path.splitOn '/').filter fun part => part != [] && part != ['.']

/-- The end of a name from its last dot on, unless that is its first or last character. -/
def suffixOf (name : List Char) : List Char :=
  let behind := name.reverse.takeWhile (· != '.')
  if behind.isEmpty || name.length ≤ behind.length + 1 then []
  else '.' :: behind.reverse

def suffix (path : String) : String :=
  Text.lower (String.ofList (suffixOf ((pathParts path.toList).getLast?.getD [])))

end ByteRecord.Catalogue
