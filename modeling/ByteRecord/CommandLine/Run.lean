import ByteRecord.Catalogue.Identify
import ByteRecord.CommandLine.Files
import ByteRecord.CommandLine.Invocation
import ByteRecord.CommandLine.Json

/-! What the commands do. A command answers with an exit code and with the lines that it writes to
the output and to the error output; what it does on the way goes to a log. -/
namespace ByteRecord.CommandLine

structure Report where
  code : Nat
  output : List String
  log : List String
  errors : List String

/-- The text of lines. -/
def linesText (lines : List String) : String :=
  String.join (lines.map (· ++ "\n"))

namespace Report

def success (output : List String) : Report := ⟨0, output, [], []⟩

def failure (message : String) : Report := ⟨1, [], [], ["Error: " ++ message]⟩

/-- The text of the error output; only a verbose run shows its log. -/
def errorText (report : Report) (verbose : Bool) : String :=
  linesText ((if verbose then report.log else []) ++ report.errors)

end Report

private def planLine (text : String) : String := "DEBUG hexstruct.plan: " ++ text

private def identifierLine (text : String) : String := "DEBUG hexstruct.identifier: " ++ text

/-- A report in place of an error in a specification. -/
def reported (result : Except Fault Report) : Except Fault Report :=
  match result with
  | .error (.specification error) => .ok (.failure error.message)
  | result => result

/-- Writes the bytes of a hex literal, or the pattern that it stands for. -/
def runHex (literal : String) (asPattern : Bool) : Except Fault Report :=
  reported do
    let pattern ← Pattern.ofFreeHex literal.toList
    if asPattern then return .success [pattern.text]
    else return .success [Hex.lowerText " " (← pattern.toBytes)]

/-- The result of a computation, or the error in a specification that it ends in. -/
def caught (action : Action σ α) : Action σ (Except SpecificationError α) := ExceptT.mk do
  match ← action.run with
  | .ok value => return .ok (.ok value)
  | .error (.specification error) => return .ok (.error error)
  | .error fault => return .error fault

/-- What checking one format came to: its line and the report of its plan. -/
def checkFormat (interpreter : Interpreter σ) (format : Format) :
    Action σ (Bool × String × List String) := do
  match ← caught (format.compile interpreter .empty) with
  | .ok plan =>
    return (true, "  ok   " ++ format.name.plainText ++ " (" ++
      Number.natText plan.fields.length ++ " fields, " ++ Number.natText plan.size ++ " bytes)",
      [planLine plan.report])
  | .error error =>
    return (false, "  FAIL " ++ format.name.plainText ++ ": " ++ error.message, [])

/-- Compiles every format of a catalogue. -/
def runCheck (interpreter : Interpreter σ) (directory : Directory) (config : Option String) :
    Action σ Report :=
  match directory.formats config with
  | .error fault => reported (.error fault)
  | .ok formats => do
    let checks ← formats.mapM (checkFormat interpreter)
    return ⟨if checks.all (·.1) then 0 else 1, checks.map (·.2.1), checks.flatMap (·.2.2), []⟩

/-- The format of a name, in any case of letters. -/
def findFormat (formats : List Format) (name : String) : Except Fault (Option Format) :=
  match formats with
  | [] => .ok none
  | format :: rest => match format.name with
    | .str other =>
      if Text.lower other == Text.lower name then .ok (some format) else findFormat rest name
    | _ => .error (.failure .attribute)

/-- A value as one line shows it: bytes as pairs of digits. -/
private def shown (value : Value) : Except Failure String :=
  match value with
  | .bytes data | .buffer .array data => .ok (Hex.lowerText " " data)
  | value => Value.written Value.plainText value

private def entryLines (entries : List (Value × Value)) : Except Failure (List String) :=
  entries.mapM fun (key, value) => do
    let name ← Value.written Value.plainText key
    return "  " ++ name ++ ": " ++ (← shown value)

def recordLines (format : Format) (consumed : Nat) (asJson : Bool) (value : Value) :
    Except Failure (List String) := do
  if asJson then return [← jsonText 0 value]
  else match value with
    | .dict entries =>
      return ("Parsed as: " ++ format.name.plainText ++ " (" ++ Number.natText consumed ++
        " bytes)") :: (← entryLines entries)
    | _ => .error .attribute

/-- Parses the start of a file with one format. -/
def runParse (interpreter : Interpreter σ) (directory : Directory) (file name : String)
    (config : Option String) (asJson : Bool) : Action σ Report := do
  let formats ← directory.formats config
  match ← findFormat formats name with
  | none => return .failure ("unknown format " ++ Text.quoted name)
  | some format =>
    match directory.open? file with
    | .error _ => return .failure (file ++ " is not a valid file")
    | .ok content =>
      let plan ← format.compile interpreter .empty
      let outcome ← plan.parseFile interpreter .empty (.ok content.data)
      let log := planLine plan.report :: ((plan.failureReport outcome).map planLine).toList
      match outcome.value with
      | .error error => return { Report.failure error.message with log }
      | .ok value =>
        let output ← Effect.ofResult (recordLines format outcome.consumed asJson value)
        return { Report.success output with log }

private def outcomeLines (plan : Plan) (format : Format) (outcome : Outcome) : List String :=
  ((plan.failureReport outcome).map planLine).toList ++
    ((Catalogue.mismatchReport format outcome).map identifierLine).toList

/-- The lines for the formats that a file could be by its content, or else by its name. -/
def candidateLines (identifier : Catalogue.Identifier) (file : String) (found : List Format) :
    Except Fault (List String) :=
  match found with
  | [] => do
    match ← identifier.byExtension file with
    | [] => return ["Unknown format"]
    | found =>
      return "No header match.  Extension matches:" ::
        found.map fun format => "  " ++ format.name.plainText
  | found =>
    return found.map fun format => "  " ++ format.name.plainText ++ " (" ++
      Number.natText format.size ++ " byte header)"

/-- Says which formats a file could be. -/
def runIdentify (interpreter : Interpreter σ) (directory : Directory) (file : String)
    (config : Option String) : Action σ Report := do
  let formats ← directory.formats config
  let identifier ← Catalogue.Identifier.build interpreter formats .empty
  let content ← directory.open? file
  let outcomes ← identifier.outcomes interpreter (content.data.take identifier.reach)
  let log := identifier.plans.map (fun (_, plan) => planLine plan.report) ++
    (identifier.plans.zip outcomes).flatMap fun ((_, plan), (format, outcome)) =>
      outcomeLines plan format outcome
  let output ← candidateLines identifier file (Catalogue.Identifier.parsed outcomes)
  return { Report.success output with log }

/-- Runs a command. -/
def run (interpreter : Interpreter σ) (directory : Directory) : Command → Action σ Report
  | .hex literal asPattern => runHex literal asPattern
  | .check config => runCheck interpreter directory config
  | .parse file format config asJson => runParse interpreter directory file format config asJson
  | .identify file config => runIdentify interpreter directory file config

end ByteRecord.CommandLine
