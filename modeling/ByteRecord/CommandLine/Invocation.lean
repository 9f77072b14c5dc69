import ByteRecord.CommandLine.Options

/-! The commands and their arguments. -/
namespace ByteRecord.CommandLine

inductive Command where
  | hex (literal : String) (asPattern : Bool)
  | check (config : Option String)
  | parse (file format : String) (config : Option String) (asJson : Bool)
  | identify (file : String) (config : Option String)
deriving DecidableEq, Repr

structure Invocation where
  verbose : Bool
  /-- Without a command there is nothing to do. -/
  command : Option Command
deriving DecidableEq, Repr

private def flag (key : String) (names : List String) : OptionSpec := ⟨names, false, key⟩

private def valued (key : String) (names : List String) : OptionSpec := ⟨names, true, key⟩

private def help : OptionSpec := flag "help" ["-h", "--help"]

private def config : OptionSpec := valued "config" ["-c", "--config"]

private def mainGrammar : Grammar :=
  ⟨[help, flag "verbose" ["-v", "--verbose"]], .command⟩

private def hexGrammar : Grammar :=
  ⟨[help, flag "pattern" ["--pattern"]], .value "literal"⟩

private def checkGrammar : Grammar :=
  ⟨[help, config], .none⟩

private def parseGrammar : Grammar :=
  ⟨[help, valued "format" ["-f", "--format"], config, flag "json" ["--json"]], .value "file"⟩

private def identifyGrammar : Grammar :=
  ⟨[help, config], .value "file"⟩

/-- Reads the arguments of a command; also answers whether some of them mean nothing. -/
private def readCommand (name : String) (args : List String) : Except Ending (Command × Bool) := do
  match name with
  | "hex" =>
    let reading ← Reading.ofArguments hexGrammar args
    return (.hex ((reading.value? "literal").getD "") (reading.has "pattern"), reading.hasExtras)
  | "check" =>
    let reading ← Reading.ofArguments checkGrammar args
    return (.check (reading.value? "config"), reading.hasExtras)
  | "parse" =>
    let reading ← Reading.ofArguments parseGrammar args
    match reading.value? "format" with
    | some format =>
      return (.parse ((reading.value? "file").getD "") format (reading.value? "config")
        (reading.has "json"), reading.hasExtras)
    | none => .error .misuse
  | "identify" =>
    let reading ← Reading.ofArguments identifyGrammar args
    return (.identify ((reading.value? "file").getD "") (reading.value? "config"),
      reading.hasExtras)
  | _ => .error .misuse

/-- The invocation that arguments spell. -/
def Invocation.ofArguments (args : List String) : Except Ending Invocation := do
  let reading ← Reading.ofArguments mainGrammar args
  let (command, hasExtras) ← match reading.command with
    | [] => .ok (none, false)
    | name :: args => do
      let (command, hasExtras) ← readCommand name args
      .ok (some command, hasExtras)
  if reading.hasExtras || hasExtras then .error .misuse
  else return ⟨reading.has "verbose", command⟩

/-- A literal that does not look like an option is given as it is. -/
theorem Invocation.ofArguments_hex {literal : String} (plain : literal.toList.head? ≠ some '-') :
    Invocation.ofArguments ["hex", literal] = .ok ⟨false, some (.hex literal false)⟩ := by
  have main : Reading.ofArguments mainGrammar ["hex", literal] =
      .ok ⟨[], ["hex", literal], false⟩ :=
    Reading.ofArguments_command _ (by decide) plain
  have own : Reading.ofArguments hexGrammar [literal] =
      .ok ⟨[("literal", literal)], [], false⟩ :=
    Reading.ofArguments_value _ _ plain
  have read : readCommand "hex" [literal] = .ok (.hex literal false, false) := by
    rw [readCommand, own]
    rfl
  rw [ofArguments, main]
  change (readCommand "hex" [literal] >>= _) = _
  rw [read]
  rfl

end ByteRecord.CommandLine
