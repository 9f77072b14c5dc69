import ByteRecord.Text.Digits

/-! Command line arguments: options with or without a value, in long or short form, abbreviated or
joined, and arguments by position. -/
namespace ByteRecord.CommandLine

structure OptionSpec where
  names : List String
  takesValue : Bool
  key : String
deriving DecidableEq, Repr

/-- What the arguments by position are. -/
inductive Positional where
  | none
  /-- One argument. -/
  | value (key : String)
  /-- A command with everything that follows it. -/
  | command
deriving DecidableEq, Repr

structure Grammar where
  options : List OptionSpec
  positional : Positional

/-- Why no command can be run. -/
inductive Ending where
  /-- Help is asked for. -/
  | help
  | misuse
deriving DecidableEq, Repr

structure Joined where
  text : String
  /-- An equals sign stands between the option and the value. -/
  isMarked : Bool

/-- What an argument is taken for. -/
inductive Mark where
  | plain
  /-- The argument after which there are no more options. -/
  | dashes
  /-- An option, possibly unknown, with the value joined to it. -/
  | option (spec : Option OptionSpec) (name : String) (joined : Option Joined)

namespace Grammar

def find? (grammar : Grammar) (name : String) : Option OptionSpec :=
  grammar.options.find? (·.names.contains name)

private def names (grammar : Grammar) : List (OptionSpec × String) :=
  grammar.options.flatMap fun spec => spec.names.map fun name => (spec, name)

/-- Cuts a text at its first equals sign. -/
private def cutAtEquals? (text : List Char) : Option (String × String) :=
  let name := text.takeWhile (· != '=')
  if name.length < text.length then
    some (String.ofList name, String.ofList (text.drop (name.length + 1)))
  else none

private def isDigits (text : List Char) : Bool :=
  text.all fun c => (Text.digitValue? c).isSome

/-- Looks like a number below zero. -/
private def isNegativeNumber (text : List Char) : Bool :=
  let text := if text.getLast? == some '\n' then text.dropLast else text
  match text with
  | '-' :: number =>
    let (whole, fraction) := number.span (· != '.')
    match fraction with
    | [] => isDigits whole && !whole.isEmpty
    | _ :: digits => isDigits whole && isDigits digits && !digits.isEmpty
  | _ => false

/-- The options that an argument may abbreviate. -/
private def abbreviated (grammar : Grammar) (text : List Char) :
    List (OptionSpec × String × Option Joined) :=
  let arg := String.ofList text
  match text with
  | '-' :: '-' :: _ =>
    let (start, joined) : String × Option Joined := match cutAtEquals? text with
      | some (name, value) => (name, some ⟨value, true⟩)
      | none => (arg, none)
    grammar.names.filterMap fun (spec, name) =>
      if start.isPrefixOf name then some (spec, name, joined) else none
  | '-' :: letter :: rest =>
    let short := String.ofList ['-', letter]
    grammar.names.filterMap fun (spec, name) =>
      if name == short then some (spec, name, some ⟨String.ofList rest, false⟩)
      else if arg.isPrefixOf name then some (spec, name, none)
      else none
  | _ => []

/-- What an argument is taken for, unless it abbreviates several options. -/
def mark? (grammar : Grammar) (arg : String) : Option Mark :=
  let text := arg.toList
  if text.head? != some '-' || text.length == 1 then some .plain
  else match grammar.find? arg with
    | some spec => some (.option (some spec) arg none)
    | none =>
      let joined := do
        let (name, value) ← cutAtEquals? text
        let spec ← grammar.find? name
        return Mark.option (some spec) name (some ⟨value, true⟩)
      match joined, grammar.abbreviated text with
      | some mark, _ => some mark
      | none, [(spec, name, value)] => some (.option (some spec) name value)
      | none, _ :: _ => none
      | none, [] =>
        if isNegativeNumber text || text.contains ' ' then some .plain
        else some (.option none arg none)

/-- The arguments with what they are taken for; after `--` all are plain. -/
def marks? (grammar : Grammar) : List String → Option (List (String × Mark))
  | [] => some []
  | "--" :: rest => some (("--", .dashes) :: rest.map (·, .plain))
  | arg :: rest => do
    let mark ← grammar.mark? arg
    return (arg, mark) :: (← grammar.marks? rest)

theorem mark?_plain (grammar : Grammar) {arg : String} (plain : arg.toList.head? ≠ some '-') :
    grammar.mark? arg = some .plain := by
  have first : (arg.toList.head? != some '-') = true := bne_iff_ne.mpr plain
  simp only [mark?, first, Bool.true_or, if_true]

theorem marks?_cons_plain (grammar : Grammar) {arg : String} {rest : List String}
    (plain : arg.toList.head? ≠ some '-') :
    grammar.marks? (arg :: rest) = (grammar.marks? rest).map ((arg, .plain) :: ·) := by
  rw [marks?]
  · rw [grammar.mark?_plain plain]
    cases grammar.marks? rest <;> rfl
  · rintro rfl
    exact plain rfl

end Grammar

abbrev Given := OptionSpec × Option String

/-- What one argument gives. -/
structure Share where
  given : List Given
  /-- How many of the arguments behind it serve as values. -/
  taken : Nat
  /-- It ends in a letter that is no option. -/
  hasExtras : Bool

/-- The value joined to a short option, from what follows its letter. -/
private def joinedAfter? : List Char → Option Joined
  | [] => none
  | '=' :: value => some ⟨String.ofList value, true⟩
  | value => some ⟨String.ofList value, false⟩

/-- What an option gives with the arguments behind it. Short options without a value may be
joined. -/
def share (grammar : Grammar) (spec : OptionSpec) (name : String)
    (following : List (String × Mark)) :
    (fuel : Nat) → (joined : Option Joined) → Except Ending Share
  | 0, _ => .error .misuse
  | fuel + 1, some joined =>
    if spec.takesValue then .ok ⟨[(spec, some joined.text)], 0, false⟩
    else match joined.text.toList, name.toList with
      | letter :: rest, [_, _] =>
        if joined.isMarked || letter == '-' then .error .misuse
        else
          let next := String.ofList ['-', letter]
          match grammar.find? next with
          | some other => do
            let share ← share grammar other next following fuel (joinedAfter? rest)
            return { share with given := (spec, none) :: share.given }
          | none => .ok ⟨[(spec, none)], 0, true⟩
      | _, _ => .error .misuse
  | _, none =>
    if spec.takesValue then
      match following with
      | (value, .plain) :: _ => .ok ⟨[(spec, some value)], 1, false⟩
      | _ => .error .misuse
    else .ok ⟨[(spec, none)], 0, false⟩

structure Reading where
  /-- Values by key; options without a value have an empty one. Later ones come first. -/
  values : List (String × String)
  /-- The command and its own arguments. -/
  command : List String
  /-- There are arguments that mean nothing. -/
  hasExtras : Bool

namespace Reading

def value? (reading : Reading) (key : String) : Option String :=
  (reading.values.find? (·.1 == key)).map (·.2)

def has (reading : Reading) (key : String) : Bool :=
  (reading.value? key).isSome

private def add (reading : Reading) (key value : String) : Reading :=
  { reading with values := (key, value) :: reading.values }

/-- Takes note of options; help ends everything. -/
private def addGiven (reading : Reading) : List Given → Except Ending Reading
  | [] => .ok reading
  | (spec, value) :: rest =>
    if spec.key == "help" then .error .help
    else (reading.add spec.key (value.getD "")).addGiven rest

private def isDashes : String × Mark → Bool
  | (_, .dashes) => true
  | _ => false

/-- The number of arguments that a single argument by position takes with the dashes around it. -/
private def singleWidth (args : List (String × Mark)) : Nat :=
  let before := (args.takeWhile isDashes).length
  match args.drop before with
  | (_, .plain) :: rest => before + 1 + (rest.takeWhile isDashes).length
  | _ => 0

/-- Reads the argument by position that comes next, if there is one to read; answers how many
arguments it takes. -/
private def takePositional (positional : Positional) (reading : Reading)
    (args : List (String × Mark)) : Reading × Nat :=
  let width := singleWidth args
  if width == 0 then (reading, 0)
  else match positional with
    | .none => (reading, 0)
    | .command =>
      if reading.command.isEmpty then ({ reading with command := args.map (·.1) }, args.length)
      else (reading, 0)
    | .value key =>
      if reading.has key then (reading, 0)
      else (reading.add key ((((args.take width).map (·.1)).erase "--").headD ""), width)

private def isOption : String × Mark → Bool
  | (_, .option _ _ _) => true
  | _ => false

/-- Reads arguments from left to right. -/
private def readFrom (grammar : Grammar) :
    (fuel : Nat) → Reading → List (String × Mark) → Except Ending Reading
  | 0, reading, _ => .ok reading
  | _, reading, [] => .ok reading
  | fuel + 1, reading, (_, .option (some spec) name joined) :: rest => do
    let share ← share grammar spec name rest ((joined.elim 0 (·.text.length)) + 1) joined
    let reading ← reading.addGiven share.given
    readFrom grammar fuel { reading with hasExtras := reading.hasExtras || share.hasExtras }
      (rest.drop share.taken)
  | fuel + 1, reading, (_, .option none _ _) :: rest =>
    readFrom grammar fuel { reading with hasExtras := true } rest
  | fuel + 1, reading, args =>
    let (reading, width) := takePositional grammar.positional reading args
    if width == 0 then
      readFrom grammar fuel { reading with hasExtras := true }
        (args.dropWhile fun arg => !isOption arg)
    else readFrom grammar fuel reading (args.drop width)

/-- Reads arguments by a grammar; an argument by position must be there unless it is a command. -/
def ofArguments (grammar : Grammar) (args : List String) : Except Ending Reading :=
  match grammar.marks? args with
  | none => .error .misuse
  | some marked => do
    let reading ← readFrom grammar (marked.length + 1) ⟨[], [], false⟩ marked
    match grammar.positional with
    | .value key => if reading.has key then return reading else .error .misuse
    | _ => return reading

/-- An argument that does not look like an option is the argument by position. -/
theorem ofArguments_value (options : List OptionSpec) (key : String) {arg : String}
    (plain : arg.toList.head? ≠ some '-') :
    ofArguments ⟨options, .value key⟩ [arg] = .ok ⟨[(key, arg)], [], false⟩ := by
  have marked : (Grammar.mk options (.value key)).marks? [arg] = some [(arg, .plain)] := by
    rw [Grammar.marks?_cons_plain _ plain]
    rfl
  have other : (arg == "--") = false := by
    apply beq_eq_false_iff_ne.mpr
    rintro rfl
    exact plain rfl
  have kept : [arg].erase "--" = [arg] := by
    rw [List.erase_cons, other]
    rfl
  have taken : takePositional (.value key) ⟨[], [], false⟩ [(arg, .plain)] =
      (⟨[(key, arg)], [], false⟩, 1) := by
    simp [takePositional, singleWidth, isDashes, has, value?, add, kept]
  have found : has ⟨[(key, arg)], [], false⟩ key = true := by simp [has, value?]
  simp only [ofArguments, marked, List.length_singleton, readFrom, taken]
  change (if has ⟨[(key, arg)], [], false⟩ key then _ else _) = _
  rw [found]
  rfl

/-- A command by position takes the argument behind it. -/
theorem ofArguments_command (options : List OptionSpec) {name arg : String}
    (command : name.toList.head? ≠ some '-') (plain : arg.toList.head? ≠ some '-') :
    ofArguments ⟨options, .command⟩ [name, arg] = .ok ⟨[], [name, arg], false⟩ := by
  have marked : (Grammar.mk options .command).marks? [name, arg] =
      some [(name, .plain), (arg, .plain)] := by
    rw [Grammar.marks?_cons_plain _ command, Grammar.marks?_cons_plain _ plain]
    rfl
  simp only [ofArguments, marked]
  rfl

end Reading
end ByteRecord.CommandLine
