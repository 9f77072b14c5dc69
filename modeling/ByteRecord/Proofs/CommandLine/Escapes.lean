import ByteRecord.CommandLine.Run
import ByteRecord.Proofs.Plan.Symbols

/-! What becomes of errors in specifications that a command comes upon: `hex` and `check` report
them, `parse` and `identify` end in them. -/
namespace ByteRecord.CommandLine

/-- The catalogue that a command reads. -/
def Command.catalogue? : Command → Option (Option String)
  | .hex _ _ => none
  | .check config | .parse _ _ config _ | .identify _ config => some config

/-- The commands that report what is wrong with a specification. -/
def Command.reportsErrors : Command → Bool
  | .hex _ _ | .check _ => true
  | .parse _ _ _ _ | .identify _ _ => false

/-- What becomes of formats that are compiled one after another, each in the state that the one before
it leaves. -/
def compilations (interpreter : Interpreter σ) :
    List Format → σ → List (Format × Except Fault Plan)
  | [], _ => []
  | format :: formats, state =>
    let compiled := (format.compile interpreter .empty).run state
    (format, compiled.1) :: compilations interpreter formats compiled.2

/-- A command comes upon an error in a specification: in the hex literal that it is given, in the
catalogue, or in a format when it is compiled or run. -/
inductive Meets (interpreter : Interpreter σ) (directory : Directory) (state : σ) :
    Command → SpecificationError → Prop
  | literal (refused : Pattern.ofFreeHex literal.toList = .error (.specification error)) :
    Meets interpreter directory state (.hex literal asPattern) error
  | bytes (read : Pattern.ofFreeHex literal.toList = .ok pattern)
    (refused : pattern.toBytes = .error (.specification error)) :
    Meets interpreter directory state (.hex literal false) error
  | catalogue (reads : command.catalogue? = some given)
    (refused : directory.formats given = .error (.specification error)) :
    Meets interpreter directory state command error
  | checked (loaded : directory.formats given = .ok formats)
    (refused : (format, .error (.specification error)) ∈ compilations interpreter formats state) :
    Meets interpreter directory state (.check given) error
  | chosen (loaded : directory.formats given = .ok formats)
    (found : findFormat formats name = .ok (some format)) (opened : directory.open? path = .ok file)
    (refused : ((format.compile interpreter .empty).run state).1 = .error (.specification error)) :
    Meets interpreter directory state (.parse path name given asJson) error
  | parsed (loaded : directory.formats given = .ok formats)
    (found : findFormat formats name = .ok (some format)) (opened : directory.open? path = .ok file)
    (compiled : (format.compile interpreter .empty).run state = (.ok plan, later))
    (refused : ((plan.parseFile interpreter .empty (.ok file.data)).run later).1 =
      .error (.specification error)) :
    Meets interpreter directory state (.parse path name given asJson) error
  | identifier (loaded : directory.formats given = .ok formats)
    (refused : ((Catalogue.Identifier.build interpreter formats .empty).run state).1 =
      .error (.specification error)) :
    Meets interpreter directory state (.identify path given) error
  | identified (loaded : directory.formats given = .ok formats)
    (built : (Catalogue.Identifier.build interpreter formats .empty).run state =
      (.ok identifier, later))
    (opened : directory.open? path = .ok file)
    (refused : ((identifier.outcomes interpreter (file.data.take identifier.reach)).run later).1 =
      .error (.specification error)) :
    Meets interpreter directory state (.identify path given) error

/-- A line ends with the message of an error. -/
def Report.Tells (report : Report) (error : SpecificationError) : Prop :=
  ∃ line ∈ report.output ++ report.errors, error.message.toList <:+ line.toList

/-- A format of the catalogue does not compile, for another reason than an error in its
specification. -/
def Breaks (interpreter : Interpreter σ) (directory : Directory) (state : σ) (command : Command)
    (fault : Fault) : Prop :=
  ∃ given formats format, command.catalogue? = some given ∧
    directory.formats given = .ok formats ∧
    (format, .error fault) ∈ compilations interpreter formats state ∧ ¬fault.IsSpecification

theorem Report.failure_tells (error : SpecificationError) : (failure error.message).Tells error := by
  refine ⟨_, List.mem_cons_self, ?_⟩
  rw [String.toList_append]
  exact List.suffix_append _ _

/-- What `check` comes to for a format, by what the format compiles to. -/
inductive Checked (format : Format) : Except Fault Plan → Bool × String × List String → Prop
  | ok (log : List String) : Checked format (.ok plan) (true,
      "  ok   " ++ format.name.plainText ++ " (" ++ Number.natText plan.fields.length ++ " fields, " ++
        Number.natText plan.size ++ " bytes)", log)
  | fail : Checked format (.error (.specification error))
      (false, "  FAIL " ++ format.name.plainText ++ ": " ++ error.message, [])

variable {interpreter : Interpreter σ} {directory : Directory} {state : σ}
  {error : SpecificationError}

theorem reported_ne (result : Except Fault Report) :
    reported result ≠ .error (.specification error) := by
  unfold reported
  split
  · exact nofun
  · next other => exact other error

theorem run_caught (action : Action σ α) (state : σ) : (caught action).run state =
    ((match (action.run state).1 with
      | .ok value => .ok (.ok value)
      | .error (.specification error) => .ok (.error error)
      | .error fault => .error fault), (action.run state).2) := by
  cases ran : action.run state with
  | mk result later =>
    simp only [caught, ExceptT.run_mk, Bind.bind, StateT.bind, ran]
    cases result with
    | ok value => rfl
    | error fault => cases fault <;> rfl

/-- A format is checked in the state that it finds, and leaves the one in which it is compiled. -/
theorem run_checkFormat (format : Format) (state : σ) :
    let compiled := (format.compile interpreter .empty).run state
    (∃ check, Checked format compiled.1 check ∧
      (checkFormat interpreter format).run state = (.ok check, compiled.2)) ∨
    ∃ fault, compiled.1 = .error fault ∧ ¬fault.IsSpecification ∧
      (checkFormat interpreter format).run state = (.error fault, compiled.2) := by
  rw [checkFormat, run_bind, run_caught]
  generalize (format.compile interpreter .empty).run state = compiled
  obtain ⟨result, later⟩ := compiled
  cases result with
  | ok plan => exact .inl ⟨_, .ok _, rfl⟩
  | error fault =>
    cases fault with
    | specification error => exact .inl ⟨_, .fail, rfl⟩
    | _ => exact .inr ⟨_, rfl, id, rfl⟩

/-- Either all formats are checked, or one of them does not compile, for another reason than an error
in its specification, and that is the end. -/
theorem run_checks (interpreter : Interpreter σ) (formats : List Format) (state : σ) :
    (∃ checks later, List.Forall₂ (fun entry check => Checked entry.1 entry.2 check)
        (compilations interpreter formats state) checks ∧
      (formats.mapM (checkFormat interpreter)).run state = (.ok checks, later)) ∨
    ∃ fault format, (format, .error fault) ∈ compilations interpreter formats state ∧
      ¬fault.IsSpecification ∧
      ((formats.mapM (checkFormat interpreter)).run state).1 = .error fault := by
  induction formats generalizing state with
  | nil => exact .inl ⟨[], state, .nil, rfl⟩
  | cons format formats ih =>
    rw [List.mapM_cons, compilations]
    rcases run_checkFormat format state with ⟨check, own, ran⟩ | ⟨fault, failed, other, ran⟩
    · rcases ih ((format.compile interpreter .empty).run state).2 with
        ⟨checks, later, each, more⟩ | ⟨fault, broken, present, other, failed⟩
      · exact .inl ⟨check :: checks, later, .cons own each, run_bind_ok_iff.mpr
          ⟨check, _, ran, run_bind_ok_iff.mpr ⟨checks, later, more, rfl⟩⟩⟩
      · exact .inr ⟨fault, broken, List.mem_cons_of_mem _ present, other, run_bind_error_iff.mpr
          (.inr ⟨check, _, ran, run_bind_error_iff.mpr (.inl failed)⟩)⟩
    · refine .inr ⟨fault, format, ?_, other, run_bind_error_iff.mpr (.inl (congrArg Prod.fst ran))⟩
      rw [failed]
      exact List.mem_cons_self

theorem runHex_reported (literal : String) (asPattern : Bool)
    (met : Meets interpreter directory state (.hex literal asPattern) error) :
    runHex literal asPattern = .ok (.failure error.message) := by
  cases met with
  | literal refused =>
    rw [runHex, refused]
    rfl
  | @bytes pattern _ _ read refused =>
    rw [runHex, read]
    change reported (pattern.toBytes >>= _) = _
    rw [refused]
    rfl
  | catalogue reads => cases reads

/-- What `check` says once it has checked all formats. -/
def Report.ofChecks (checks : List (Bool × String × List String)) : Report :=
  ⟨if checks.all (·.1) then 0 else 1, checks.map (·.2.1), checks.flatMap (·.2.2), []⟩

theorem run_runCheck {config : Option String} {formats : List Format}
    (loaded : directory.formats config = .ok formats) :
    (∃ checks later, List.Forall₂ (fun entry check => Checked entry.1 entry.2 check)
        (compilations interpreter formats state) checks ∧
      (runCheck interpreter directory config).run state = (.ok (.ofChecks checks), later)) ∨
    ∃ fault, Breaks interpreter directory state (.check config) fault ∧
      ((runCheck interpreter directory config).run state).1 = .error fault := by
  rw [runCheck, loaded]
  rcases run_checks interpreter formats state with
    ⟨checks, later, each, ran⟩ | ⟨fault, format, present, other, failed⟩
  · exact .inl ⟨checks, later, each, run_bind_ok_iff.mpr ⟨checks, later, ran, rfl⟩⟩
  · exact .inr ⟨fault, ⟨config, formats, format, rfl, loaded, present, other⟩,
      run_bind_error_iff.mpr (.inl failed)⟩

theorem runCheck_ne (config : Option String) :
    ((runCheck interpreter directory config).run state).1 ≠ .error (.specification error) := by
  cases loaded : directory.formats config with
  | error fault =>
    rw [runCheck, loaded, run_lift]
    exact reported_ne _
  | ok formats =>
    rcases run_runCheck loaded with ⟨checks, later, -, ran⟩ | ⟨fault, ⟨_, _, _, -, -, -, other⟩, failed⟩
    · rw [ran]
      exact nofun
    · rw [failed]
      rintro ⟨⟩
      exact other trivial

/-- A catalogue with an error in it is reported by `check`, unless a format of it breaks for another
reason. -/
theorem runCheck_reported (config : Option String)
    (met : Meets interpreter directory state (.check config) error) :
    (∃ report, ((runCheck interpreter directory config).run state).1 = .ok report ∧
      report.code = 1 ∧ report.Tells error) ∨
      ∃ fault, ((runCheck interpreter directory config).run state).1 = .error fault ∧
        Breaks interpreter directory state (.check config) fault := by
  cases met with
  | catalogue reads refused =>
    cases reads
    refine .inl ⟨.failure error.message, ?_, rfl, Report.failure_tells error⟩
    rw [runCheck, refused, run_lift]
    rfl
  | checked loaded refused =>
    rcases run_runCheck loaded with ⟨checks, later, each, ran⟩ | ⟨fault, broken, failed⟩
    · refine .inl ⟨.ofChecks checks, congrArg Prod.fst ran, ?_⟩
      obtain ⟨check, listed, own⟩ := exists_of_forall₂ each.flip refused
      cases own with
      | fail =>
        have some_failed : checks.all (·.1) = false :=
          List.all_eq_false.mpr ⟨_, listed, Bool.false_ne_true⟩
        refine ⟨by rw [Report.ofChecks, some_failed]; rfl, _,
          List.mem_append_left _ (List.mem_map.mpr ⟨_, listed, rfl⟩), ?_⟩
        rw [String.toList_append]
        exact List.suffix_append _ _
    · exact .inr ⟨fault, failed, broken⟩

theorem findFormat_ne {formats : List Format} {name : String} :
    findFormat formats name ≠ .error (.specification error) := by
  induction formats with
  | nil => exact nofun
  | cons format rest ih =>
    rw [findFormat]
    split
    · split
      · exact nofun
      · exact ih
    · exact nofun

theorem ofResult_ne (result : Except Failure α) :
    Effect.ofResult result ≠ .error (.specification error) := by
  intro failed
  obtain ⟨_, -, same⟩ := mapError_error_iff.mp failed
  cases same

/-- What follows on a result as such ends in a fault if the result does, or else what follows on its
value. -/
theorem run_lift_bind_error_iff {result : Except Fault α} {next : α → Action σ β} :
    (((liftM result : Action σ α) >>= next).run state).1 = .error fault ↔
      result = .error fault ∨ ∃ value, result = .ok value ∧ ((next value).run state).1 = .error fault := by
  rw [run_bind_error_iff, run_lift]
  refine or_congr_right ⟨?_, ?_⟩
  · rintro ⟨value, _, ran, failed⟩
    obtain ⟨rfl, rfl⟩ := Prod.mk.inj ran
    exact ⟨value, rfl, failed⟩
  · rintro ⟨value, rfl, failed⟩
    exact ⟨value, state, rfl, failed⟩

theorem runParse_iff (path name : String) (config : Option String) (asJson : Bool) :
    ((runParse interpreter directory path name config asJson).run state).1 =
        .error (.specification error) ↔
      Meets interpreter directory state (.parse path name config asJson) error := by
  constructor
  · intro ended
    rcases run_lift_bind_error_iff.mp ended with refused | ⟨formats, loaded, searched⟩
    · exact .catalogue rfl refused
    rcases run_lift_bind_error_iff.mp searched with failed | ⟨format?, found, chosen⟩
    · exact absurd failed findFormat_ne
    split at chosen
    · cases chosen
    split at chosen
    · cases chosen
    · next opened =>
      rcases run_bind_error_iff.mp chosen with refused | ⟨plan, later, compiled, ran⟩
      · exact .chosen loaded found opened refused
      rcases run_bind_error_iff.mp ran with refused | ⟨outcome, last, -, shown⟩
      · exact .parsed loaded found opened compiled refused
      extract_lets log at shown
      split at shown
      · cases shown
      · rcases run_lift_bind_error_iff.mp shown with failed | ⟨output, -, made⟩
        · exact absurd failed (ofResult_ne _)
        · cases made
  · intro met
    cases met with
    | catalogue reads refused =>
      cases reads
      exact run_lift_bind_error_iff.mpr (.inl refused)
    | chosen loaded found opened refused =>
      refine run_lift_bind_error_iff.mpr (.inr ⟨_, loaded,
        run_lift_bind_error_iff.mpr (.inr ⟨_, found, ?_⟩)⟩)
      simp only [opened]
      exact run_bind_error_iff.mpr (.inl refused)
    | parsed loaded found opened compiled refused =>
      refine run_lift_bind_error_iff.mpr (.inr ⟨_, loaded,
        run_lift_bind_error_iff.mpr (.inr ⟨_, found, ?_⟩)⟩)
      simp only [opened]
      exact run_bind_error_iff.mpr (.inr ⟨_, _, compiled, run_bind_error_iff.mpr (.inl refused)⟩)

theorem exists_of_filterM_error {fault : ε} {f : α → Except ε Bool} {list : List α}
    (failed : list.filterM f = .error fault) : ∃ value ∈ list, f value = .error fault := by
  have of_rest {list kept : List α} (failed : list.filterAuxM f kept = .error fault) :
      ∃ value ∈ list, f value = .error fault := by
    induction list generalizing kept with
    | nil => cases failed
    | cons first rest ih =>
      rcases bind_error_iff.mp failed with own | ⟨_, -, later⟩
      · exact ⟨first, List.mem_cons_self, own⟩
      · obtain ⟨value, among, own⟩ := ih later
        exact ⟨value, List.mem_cons_of_mem _ among, own⟩
  rcases bind_error_iff.mp failed with own | ⟨_, -, made⟩
  · exact of_rest own
  · cases made

theorem candidateLines_ne (identifier : Catalogue.Identifier) (path : String)
    (found : List Format) : candidateLines identifier path found ≠ .error (.specification error) := by
  unfold candidateLines
  split
  · intro failed
    rcases bind_error_iff.mp failed with failed | ⟨named, -, made⟩
    · obtain ⟨format, -, own⟩ := exists_of_filterM_error failed
      obtain ⟨_, -, same⟩ := mapError_error_iff.mp own
      cases same
    · split at made <;> cases made
  · exact nofun

theorem runIdentify_iff (plain : ∀ path error, directory.open? path ≠ .error (.specification error))
    (path : String) (config : Option String) :
    ((runIdentify interpreter directory path config).run state).1 =
        .error (.specification error) ↔
      Meets interpreter directory state (.identify path config) error := by
  constructor
  · intro ended
    rcases run_lift_bind_error_iff.mp ended with refused | ⟨formats, loaded, building⟩
    · exact .catalogue rfl refused
    rcases run_bind_error_iff.mp building with refused | ⟨identifier, later, built, opening⟩
    · exact .identifier loaded refused
    rcases run_lift_bind_error_iff.mp opening with failed | ⟨file, opened, ran⟩
    · exact absurd failed (plain path error)
    rcases run_bind_error_iff.mp ran with refused | ⟨outcomes, last, -, shown⟩
    · exact .identified loaded built opened refused
    extract_lets log at shown
    rcases run_lift_bind_error_iff.mp shown with failed | ⟨output, -, made⟩
    · exact absurd failed (candidateLines_ne identifier path _)
    · cases made
  · intro met
    cases met with
    | catalogue reads refused =>
      cases reads
      exact run_lift_bind_error_iff.mpr (.inl refused)
    | identifier loaded refused =>
      exact run_lift_bind_error_iff.mpr (.inr ⟨_, loaded, run_bind_error_iff.mpr (.inl refused)⟩)
    | identified loaded built opened refused =>
      refine run_lift_bind_error_iff.mpr (.inr ⟨_, loaded,
        run_bind_error_iff.mpr (.inr ⟨_, _, built, ?_⟩)⟩)
      exact run_lift_bind_error_iff.mpr (.inr ⟨_, opened, run_bind_error_iff.mpr (.inl refused)⟩)

/-- Where files are opened, `hex` and `check` report the errors in specifications that they come upon
and answer with one; `parse` and `identify` end in them, and in no others. -/
theorem run_specification_errors (interpreter : Interpreter σ) (state : σ)
    (plain : ∀ path error, directory.open? path ≠ .error (.specification error))
    (command : Command) (error : SpecificationError) :
    (command.reportsErrors = true →
      ((run interpreter directory command).run state).1 ≠ .error (.specification error) ∧
      (Meets interpreter directory state command error →
        (∃ report, ((run interpreter directory command).run state).1 = .ok report ∧
          report.code = 1 ∧ report.Tells error) ∨
          ∃ fault, ((run interpreter directory command).run state).1 = .error fault ∧
            Breaks interpreter directory state command fault)) ∧
    (command.reportsErrors = false →
      (((run interpreter directory command).run state).1 = .error (.specification error) ↔
        Meets interpreter directory state command error)) := by
  cases command with
  | hex literal asPattern =>
    rw [run, run_lift]
    refine ⟨fun _ => ⟨reported_ne _, fun met => .inl ?_⟩, nofun⟩
    exact ⟨_, runHex_reported literal asPattern met, rfl, Report.failure_tells error⟩
  | check config => exact ⟨fun _ => ⟨runCheck_ne config, runCheck_reported config⟩, nofun⟩
  | parse path name config asJson => exact ⟨nofun, fun _ => runParse_iff path name config asJson⟩
  | identify path config => exact ⟨nofun, fun _ => runIdentify_iff plain path config⟩

theorem ofFiles_plain (files : List (String × File)) (path : String) :
    (Directory.ofFiles files).open? path ≠ .error (.specification error) := by
  simp only [Directory.ofFiles]
  split
  · exact nofun
  · split
    · exact nofun
    · split
      · exact nofun
      · exact nofun

/-- A file of one byte, and a catalogue with a format whose pattern is no hex literal. -/
def faulty : Directory :=
  let format : Value := .dict [(.str "name", .str "X"),
    (.str "fields", .list [.dict [(.str "pattern", .str "0G")]])]
  .ofFiles [("f.bin", ⟨[0x00], .error (.failure .value)⟩),
    ("c.yaml", ⟨[], .ok (.dict [(.str "formats", .list [format])])⟩)]

/-- What is wrong with the format. -/
def misspelt : SpecificationError :=
  ⟨.hexLiteral, .hexLiteral (.unpaired (.digit 0) "0" 0 (some ("G", 1))), none, some "'X'"⟩

/-- The general statement for a catalogue that cannot be loaded. -/
theorem run_specification_errors_faulty :
    (∀ path error, faulty.open? path ≠ .error (.specification error)) ∧
      ((run .standard faulty (.identify "f.bin" (some "c.yaml"))).run fun _ => 0).1 =
        .error (.specification misspelt) := by
  have plain (path : String) (error : SpecificationError) :
      faulty.open? path ≠ .error (.specification error) := ofFiles_plain _ path
  have loads : faulty.formats (some "c.yaml") = .error (.specification misspelt) := by
    with_unfolding_all rfl
  exact ⟨plain, ((run_specification_errors .standard _ plain _ misspelt).2 rfl).mpr
    (.catalogue rfl loads)⟩

/-- The error that `check` reports is the end of `parse`. -/
theorem parse_ends_in_error :
    ((run .standard faulty (.check (some "c.yaml"))).run fun _ => 0).1 =
        .ok (.failure misspelt.message) ∧
      ((run .standard faulty (.parse "f.bin" "X" (some "c.yaml") false)).run fun _ => 0).1 =
        .error (.specification misspelt) := by
  constructor <;> with_unfolding_all rfl

end ByteRecord.CommandLine
