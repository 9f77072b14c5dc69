import ByteRecord.CommandLine.Run
import ByteRecord.Plan.Library

/-! The program: reads the files that its arguments name, runs the command, and writes its
report. -/
namespace ByteRecord.CommandLine

/-- The paths that a command reads. -/
def Command.paths : Command → List String
  | .hex _ _ => []
  | .check config => config.toList
  | .parse file _ config _ | .identify file config => file :: config.toList

private def usage : String :=
  "usage: [-h] [-v] \x7bhex,check,parse,identify\x7d ..."

private def openFile (path : String) : IO (String × Except Fault File) := do
  try
    let data ← IO.FS.readBinFile path
    return (path, .ok (.ofBytes data.toList))
  catch _ => return (path, .error .missingFile)

/-- The words for a fault that is not part of a report. -/
private def faultText : Fault → String
  | .specification error => error.message
  | .parse error => error.message
  | fault => fault.usage?.getD fault.className

private def runIn (verbose : Bool) (command : Command) : IO UInt32 := do
  let opened ← command.paths.mapM openFile
  let directory : Directory := ⟨fun path =>
    ((opened.find? (·.1 == path)).map (·.2)).getD (.error .missingFile)⟩
  match ((run (Library.interpreter Expr.callValue) directory command).run ⟨fun _ => 0, []⟩).1 with
  | .ok report =>
    IO.print (linesText report.output)
    IO.eprint (report.errorText verbose)
    return UInt32.ofNat report.code
  | .error fault =>
    IO.eprintln (faultText fault)
    return 1

end ByteRecord.CommandLine

open ByteRecord.CommandLine in
def main (args : List String) : IO UInt32 := do
  match Invocation.ofArguments args with
  | .error .help =>
    IO.println usage
    return 0
  | .error _ =>
    IO.eprintln usage
    return 2
  | .ok invocation => match invocation.command with
    | none =>
      IO.println usage
      return 0
    | some command => runIn invocation.verbose command
