import ByteRecord.Catalogue.Path
import ByteRecord.Catalogue.Standard
import ByteRecord.Catalogue.Format
import ByteRecord.Value.Method
import ByteRecord.Yaml.Reader

/-! The files that commands see. -/
namespace ByteRecord.CommandLine

structure File where
  data : List UInt8
  /-- What the file says if it is read as a document. -/
  document : Except Fault Value

namespace File

/-- The document of a text in UTF-8. -/
def documentOf (data : List UInt8) : Except Fault Value := do
  let text ← (Value.decode .utf8 data).mapError .failure
  match Yaml.read? text with
  | some document => .ok document
  | none => .error (.failure .value)

def ofBytes (data : List UInt8) : File :=
  ⟨data, documentOf data⟩

end File

/-- Where commands find files. -/
structure Directory where
  open? : String → Except Fault File

namespace Directory

/-- A directory that holds named files and nothing else. -/
def ofFiles (files : List (String × File)) : Directory where
  open? path :=
    let parts := Catalogue.pathParts path.toList
    let climbs := parts.all (· == ['.', '.'])
    if climbs then .error .directory
    else if path.toList.head? == some '/' then .error .missingFile
    else
      let name := "/".intercalate (parts.map String.ofList)
      match files.find? (·.1 == name) with
      | some (_, file) => .ok file
      | none => .error .missingFile

/-- The formats of the catalogue in a file, or of the standard catalogue. -/
def formats (directory : Directory) (config : Option String) : Except Fault (List Format) := do
  match config with
  | none => Catalogue.readFormats Catalogue.standard
  | some path => Catalogue.readFormats (← (← directory.open? path).document)

end Directory
end ByteRecord.CommandLine
