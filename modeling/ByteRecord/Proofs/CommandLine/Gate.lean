import ByteRecord.Proofs.Catalogue.Compiled
import ByteRecord.Proofs.CommandLine.Escapes

/-! The command `check` decides whether a catalogue can be used. It has one entry for each format,
whatever became of those before it; and once it answers with zero, neither `parse` nor `identify` ends
in an error in a specification, whatever the files hold, unless an expression raises one itself. -/
namespace ByteRecord

namespace SpecificationError

/-- Where and what is wrong. -/
def headline (error : SpecificationError) : String :=
  (match error.location with
    | some location =>
      "line " ++ Number.natText location.line ++ ", column " ++
        Number.natText location.column ++ ": "
    | none => "") ++ error.summary

/-- What to do about it, on a line of its own. -/
def advice (error : SpecificationError) : String :=
  match error.hint? with
  | some hint => "\nhelp: " ++ hint
  | none => ""

theorem message_eq (error : SpecificationError) :
    error.message = error.headline ++ error.advice := rfl

end SpecificationError

/-- Every parse that succeeds takes this many bytes. -/
structure Plan.Takes (interpreter : Interpreter σ) (plan : Plan) (size : Nat) : Prop where
  stream : ∀ {ρ : Type} [Reader ρ] (names : Scope) (reader : ρ) (state : σ) (value : Value)
    (consumed : Nat),
    (plan.parseStream interpreter names reader state).1.1 = .ok ⟨.ok value, consumed⟩ →
    consumed = size
  source : ∀ (names : Scope) (source : Value) (state : σ) (value : Value) (consumed : Nat),
    ((plan.parse interpreter names source).run state).1 = .ok ⟨.ok value, consumed⟩ →
    consumed = size

namespace CommandLine

/-- What `check` has to say of a format: how many fields and bytes it has, or else what is wrong with
it. -/
inductive Entry (format : Format) : Except Fault Plan → String → Prop
  | ok : Entry format (.ok plan) ("  ok   " ++ format.name.plainText ++ " (" ++
      Number.natText format.fields.length ++ " fields, " ++ Number.natText format.size ++ " bytes)")
  | fail : Entry format (.error (.specification error))
      ("  FAIL " ++ format.name.plainText ++ ": " ++ error.headline ++ error.advice)

variable {interpreter : Interpreter σ} {directory : Directory} {formats : List Format}
  {format : Format} {state : σ}

/-- The entry of a format tells by its first word whether it compiles. -/
theorem Entry.ok_iff (entry : Entry format compiled line) :
    "  ok   ".toList <+: line.toList ↔ compiled.isOk := by
  cases entry with
  | ok =>
    refine ⟨fun _ => rfl, fun _ => ?_⟩
    simp only [String.toList_append, List.append_assoc]
    exact List.prefix_append _ _
  | fail =>
    refine ⟨fun front => ?_, nofun⟩
    simp [String.toList_append, List.append_assoc] at front

theorem mem_of_findFormat (found : findFormat formats name = .ok (some format)) :
    format ∈ formats := by
  induction formats with
  | nil => cases found
  | cons first rest ih =>
    rw [findFormat] at found
    split at found
    · split at found
      · cases found
        exact List.mem_cons_self
      · exact List.mem_cons_of_mem _ (ih found)
    · cases found

theorem compilations_formats (interpreter : Interpreter σ) (formats : List Format) (state : σ) :
    (compilations interpreter formats state).map (·.1) = formats := by
  induction formats generalizing state with
  | nil => rfl
  | cons format formats ih => exact congrArg (format :: ·) (ih _)

/-- Each format is compiled in some state. -/
theorem exists_of_mem_compilations (listed : entry ∈ compilations interpreter formats state) :
    ∃ here, ((entry.1.compile interpreter .empty).run here).1 = entry.2 := by
  induction formats generalizing state with
  | nil => cases listed
  | cons format formats ih =>
    rcases List.mem_cons.mp listed with rfl | later
    · exact ⟨state, rfl⟩
    · exact ih later

/-- Formats that all compile, without side effects, one after the other, do so from the start. -/
theorem compile_of_compilations
    (passed : ∀ entry ∈ compilations interpreter formats state, entry.2.isOk)
    (free : ∀ format ∈ formats, format.SideEffectFree interpreter .empty state) :
    ∀ format ∈ formats, ∃ plan, ((format.compile interpreter .empty).run state).1 = .ok plan := by
  induction formats with
  | nil => exact List.forall_mem_nil _
  | cons format formats ih =>
    obtain ⟨own, others⟩ := List.forall_mem_cons.mp passed
    obtain ⟨plan, compiled⟩ : ∃ plan,
        ((format.compile interpreter .empty).run state).1 = .ok plan := by
      cases same : ((format.compile interpreter .empty).run state).1 with
      | ok plan => exact ⟨plan, rfl⟩
      | error fault =>
        rw [same] at own
        cases own
    obtain ⟨first, free⟩ := List.forall_mem_cons.mp free
    have kept : ((format.compile interpreter .empty).run state).2 = state :=
      Format.compile_keeps compiled first
    rw [kept] at others
    exact List.forall_mem_cons.mpr ⟨⟨plan, compiled⟩, ih others free⟩

/-- If all that keeps formats from compiling is errors in their specifications, `check` has an entry
for each of them, and its code says whether all compile. -/
theorem runCheck_entries (config : Option String) (loaded : directory.formats config = .ok formats)
    (specified : ∀ format fault, (format, .error fault) ∈ compilations interpreter formats state →
      fault.IsSpecification) :
    ∃ report, ((runCheck interpreter directory config).run state).1 = .ok report ∧
      report.errors = [] ∧
      List.Forall₂ (fun entry line => Entry entry.1 entry.2 line)
        (compilations interpreter formats state) report.output ∧ report.code ≤ 1 ∧
      (report.code = 0 ↔ ∀ entry ∈ compilations interpreter formats state, entry.2.isOk) := by
  rcases run_runCheck loaded with
    ⟨checks, later, each, ran⟩ | ⟨fault, ⟨_, _, format, same, loaded', present, other⟩, -⟩
  · refine ⟨.ofChecks checks, congrArg Prod.fst ran, rfl, ?_, ?_, ?_⟩
    · have each := (List.forall₂_and_left _ _).mpr
        ⟨fun entry listed => exists_of_mem_compilations listed, each⟩
      refine List.forall₂_map_right_iff.mpr (each.imp ?_)
      rintro ⟨format, result⟩ check ⟨⟨here, compiled⟩, own⟩
      cases own with
      | ok log =>
        obtain ⟨fields, size⟩ := Format.of_compile (Prod.ext compiled rfl)
        rw [fields, size]
        exact .ok
      | fail =>
        rw [SpecificationError.message_eq, ← String.append_assoc]
        exact .fail
    · dsimp only [Report.ofChecks]
      split <;> omega
    · have zero : (if checks.all (·.1) then 0 else 1) = 0 ↔ ∀ check ∈ checks, check.1 = true := by
        rw [← List.all_eq_true]
        split <;> simp_all
      have told {format : Format} {result : Except Fault Plan} {check : Bool × String × List String}
          (own : Checked format result check) : check.1 = true ↔ result.isOk := by
        cases own with
        | ok log => exact ⟨fun _ => rfl, fun _ => rfl⟩
        | fail => exact ⟨nofun, nofun⟩
      refine zero.trans ⟨fun passed entry listed => ?_, fun compile check listed => ?_⟩
      · obtain ⟨check, among, own⟩ := exists_of_forall₂ each.flip listed
        exact (told own).mp (passed check among)
      · obtain ⟨entry, among, own⟩ := exists_of_forall₂ each listed
        exact (told own).mpr (compile entry among)
  · cases same
    cases loaded.symm.trans loaded'
    exact absurd (specified format fault present) other

/-- Where all formats compile without side effects, and nothing but an element can end in an error in
a specification, `parse` and `identify` do not. -/
theorem run_faultless {config : Option String} (loaded : directory.formats config = .ok formats)
    (plain : ∀ path error, directory.open? path ≠ .error (.specification error))
    (compile : ∀ format ∈ formats, ∃ plan,
      ((format.compile interpreter .empty).run state).1 = .ok plan)
    (free : ∀ format ∈ formats, format.SideEffectFree interpreter .empty state)
    (spares : ∀ format ∈ formats, format.Spares Fault.IsSpecification interpreter .empty state)
    (path : String) (error : SpecificationError) :
    (∀ name asJson, ((run interpreter directory (.parse path name config asJson)).run state).1 ≠
      .error (.specification error)) ∧
    ((run interpreter directory (.identify path config)).run state).1 ≠
      .error (.specification error) := by
  constructor
  · intro name asJson ended
    cases (runParse_iff path name config asJson).mp ended with
    | catalogue reads refused =>
      cases reads
      cases loaded.symm.trans refused
    | chosen loaded' found opened refused =>
      cases loaded.symm.trans loaded'
      obtain ⟨plan, compiled⟩ := compile _ (mem_of_findFormat found)
      cases compiled.symm.trans refused
    | parsed loaded' found opened compiled refused =>
      cases loaded.symm.trans loaded'
      have present := mem_of_findFormat found
      have compiles := congrArg Prod.fst compiled
      have kept := Format.compile_keeps compiles (free _ present)
      rw [Keeps, compiled] at kept
      subst kept
      exact Format.faultless compiles (free _ present) (spares _ present) _ error refused
  · intro ended
    obtain ⟨identifier, built, plans⟩ := Catalogue.Identifier.build_ok compile free
    cases (runIdentify_iff plain path config).mp ended with
    | catalogue reads refused =>
      cases reads
      cases loaded.symm.trans refused
    | identifier loaded' refused =>
      cases loaded.symm.trans loaded'
      cases (congrArg Prod.fst built).symm.trans refused
    | identified loaded' built' opened refused =>
      cases loaded.symm.trans loaded'
      cases built.symm.trans built'
      exact Catalogue.Identifier.outcomes_faultless (fun entry listed => (plans entry listed).2)
        (fun entry listed => free _ (plans entry listed).1)
        (fun entry listed => spares _ (plans entry listed).1) _ error refused

theorem takes_size {plan : Plan}
    (compiled : ((format.compile interpreter .empty).run state).1 = .ok plan) :
    plan.Takes interpreter format.size := by
  obtain ⟨-, size⟩ := Format.of_compile (Prod.ext compiled rfl)
  rw [← size]
  exact ⟨fun _ _ _ _ _ parsed => Plan.run_consumed parsed,
    fun _ _ _ _ _ parsed => Plan.parse_consumed parsed⟩

/-- The command `check` decides whether a catalogue can be used. It has one entry for each format, in
their order, and answers with zero if and only if all of them compile. Then, if their expressions have
no side effects and do not raise errors in specifications themselves, no command that uses the catalogue
ends in one, whatever the files hold; and the sizes in the entries are those of the records. -/
theorem check_gate (interpreter : Interpreter σ) (state : σ) (config : Option String)
    (loaded : directory.formats config = .ok formats)
    (specified : ∀ format fault, (format, .error fault) ∈ compilations interpreter formats state →
      fault.IsSpecification) :
    ∃ report, ((run interpreter directory (.check config)).run state).1 = .ok report ∧
      report.errors = [] ∧
      (compilations interpreter formats state).map (·.1) = formats ∧
      List.Forall₂ (fun entry line => Entry entry.1 entry.2 line ∧
        ("  ok   ".toList <+: line.toList ↔ entry.2.isOk))
          (compilations interpreter formats state) report.output ∧
      report.code ≤ 1 ∧
      (report.code = 0 ↔ ∀ entry ∈ compilations interpreter formats state, entry.2.isOk) ∧
      (report.code = 0 →
        (∀ format ∈ formats, format.SideEffectFree interpreter .empty state) →
        (∀ format ∈ formats, format.Spares Fault.IsSpecification interpreter .empty state) →
        ∀ (there : Directory) (config' : Option String), there.formats config' = .ok formats →
        (∀ path error, there.open? path ≠ .error (.specification error)) →
        ∀ (path : String) (error : SpecificationError),
          (∀ name asJson,
            ((run interpreter there (.parse path name config' asJson)).run state).1 ≠
              .error (.specification error)) ∧
          ((run interpreter there (.identify path config')).run state).1 ≠
            .error (.specification error)) ∧
      ∀ format ∈ formats, ∀ plan here,
        ((format.compile interpreter .empty).run here).1 = .ok plan →
        plan.size = format.size ∧ plan.Takes interpreter format.size := by
  obtain ⟨report, ran, quiet, entries, code, zero⟩ := runCheck_entries config loaded specified
  refine ⟨report, ran, quiet, compilations_formats interpreter formats state,
    entries.imp fun _ _ entry => ⟨entry, entry.ok_iff⟩, code, zero, ?_, ?_⟩
  · intro passed free spares there config' loaded plain path error
    exact run_faultless loaded plain (compile_of_compilations (zero.mp passed) free) free spares path
      error
  · intro format present plan here compiled
    exact ⟨(Format.of_compile (Prod.ext compiled rfl)).2, takes_size compiled⟩

/-- Two catalogues beside a file: one of a format with an element that is computed and an expression that
makes the value, and one where this format stands behind another that does not compile. -/
def pinned (content : List UInt8) : Directory :=
  let mark : Value := .dict [(.str "pattern", .str "4A")]
  let field : Value := .dict [(.str "pattern", .list [.str "7", .str "_"]), (.str "member", .str "a"),
    (.str "binding", .str "raw"), (.str "transform", .str "raw")]
  let format (name : String) (fields : List Value) : Value :=
    .dict [(.str "name", .str name), (.str "fields", .list fields)]
  let catalogue (formats : List Value) : File := ⟨[], .ok (.dict [(.str "formats", .list formats)])⟩
  .ofFiles [("f.bin", .ofBytes content), ("one.yaml", catalogue [format "A" [mark, field]]),
    ("two.yaml", catalogue [format "B" [mark, mark], format "A" [mark, field]])]

def pinnedMark : FieldDefinition :=
  ⟨⟨[.exact 0x4A], .hex⟩, .none, .none, .none, .str ""⟩

def pinnedFormat : Format where
  name := .str "A"
  extensions := .list []
  fields := [pinnedMark,
    ⟨⟨[.deferred ⟨"7", .inl (.group (.const (.int 7))), none⟩, .wildcard], .array⟩, .str "a",
      .str "raw", .str "raw", .str ""⟩]
  rest := .none
  description := .str ""
  metadata := .dict []

/-- Two marks that should be one. -/
def unmergedFormat : Format :=
  { pinnedFormat with name := .str "B", fields := [pinnedMark, pinnedMark] }

def pinnedPlan : Plan where
  target := .entries
  fields := [⟨none, ⟨[.exact 0x4A], .hex⟩, none, none, none⟩,
    ⟨some (.name "a"),
      ⟨[.deferred ⟨"7", .inl (.group (.const (.int 7))), none⟩, .wildcard], .array⟩, some "raw",
      some (.expression ⟨.str "raw", .group (.name "raw"), none⟩), none⟩]
  rest := none
  scope := Format.scope .empty
  reader := none
  name := .str "A"

theorem pinned_formats (content : List UInt8) :
    (pinned content).formats (some "one.yaml") = .ok [pinnedFormat] ∧
      (pinned content).formats (some "two.yaml") = .ok [unmergedFormat, pinnedFormat] := by
  constructor <;> with_unfolding_all rfl

theorem pinned_compiled :
    (pinnedFormat.compile .standard .empty).run (fun _ => 0) = (.ok pinnedPlan, fun _ => 0) := by
  with_unfolding_all rfl

theorem unmerged_refused : (unmergedFormat.compile .standard .empty).run (fun _ => 0) =
    (.error (.specification ⟨.layout, .adjacentSkips, none, none⟩), fun _ => 0) := by
  with_unfolding_all rfl

theorem pinned_compilations :
    compilations .standard [pinnedFormat] (fun _ => 0) = [(pinnedFormat, .ok pinnedPlan)] := by
  rw [compilations, pinned_compiled]
  rfl

theorem unmerged_compilations :
    compilations .standard [unmergedFormat, pinnedFormat] (fun _ => 0) =
      [(unmergedFormat, .error (.specification ⟨.layout, .adjacentSkips, none, none⟩)),
        (pinnedFormat, .ok pinnedPlan)] := by
  rw [compilations, unmerged_refused]
  exact congrArg (_ :: ·) pinned_compilations

theorem pinned_plan {plan : Plan}
    (compiled : ((pinnedFormat.compile .standard .empty).run fun _ => 0).1 = .ok plan) :
    pinnedPlan = plan := by
  rw [pinned_compiled] at compiled
  exact Except.ok.inj compiled

/-- The transform gives the bytes that it is given, and changes nothing. -/
theorem pinned_evaluate {field : Field} (present : field ∈ pinnedPlan.fields) (raw : List UInt8)
    (counts : Expr.Counts) : (field.evaluate .standard raw).run (pinnedPlan.world .empty counts) =
      (.ok (.bytes raw), pinnedPlan.world .empty counts) := by
  rcases List.mem_cons.mp present with rfl | present
  · rfl
  · obtain rfl := List.mem_singleton.mp present
    with_unfolding_all rfl

theorem pinned_free : pinnedFormat.SideEffectFree .standard .empty fun _ => 0 := by
  intro plan compiled
  obtain rfl := pinned_plan compiled
  refine ⟨fun field present => ⟨fun element member => ?_, fun raw =>
    congrArg Prod.snd (pinned_evaluate present raw _)⟩, nofun, nofun, nofun⟩
  rcases List.mem_cons.mp present with rfl | present
  · cases member
  · obtain rfl := List.mem_singleton.mp present
    obtain rfl := List.mem_singleton.mp member
    with_unfolding_all rfl

theorem pinned_spares : pinnedFormat.Spares Fault.IsSpecification .standard .empty fun _ => 0 := by
  intro plan compiled
  obtain rfl := pinned_plan compiled
  refine ⟨fun field present raw fault failed => ?_, nofun, nofun, nofun⟩
  rw [pinned_evaluate present] at failed
  cases failed

theorem Entry.pinned (entry : Entry pinnedFormat (.ok pinnedPlan) line) :
    line = "  ok   A (2 fields, 3 bytes)" := by
  cases entry
  rfl

theorem Entry.unmerged (entry : Entry unmergedFormat
      (.error (.specification ⟨.layout, .adjacentSkips, none, none⟩)) line) :
    line = "  FAIL B: consecutive match-only fields are not allowed\n" ++
      "help: merge them into one pattern" := by
  cases entry
  rfl

/-- One catalogue passes the check, and then no file makes a command end in an error in a specification.
The other does not, in its first format. -/
theorem check_gate_pinned :
    let result (directory : Directory) (command : Command) : Except Fault Report :=
      ((run .standard directory command).run fun _ => 0).1
    (∃ report, result (pinned []) (.check (some "one.yaml")) = .ok report ∧ report.code = 0 ∧
      report.output = ["  ok   A (2 fields, 3 bytes)"]) ∧
    (∀ content path error,
      (∀ name asJson, result (pinned content) (.parse path name (some "one.yaml") asJson) ≠
        .error (.specification error)) ∧
      result (pinned content) (.identify path (some "one.yaml")) ≠ .error (.specification error)) ∧
    ∃ report, result (pinned []) (.check (some "two.yaml")) = .ok report ∧ report.code = 1 ∧
      report.output = ["  FAIL B: consecutive match-only fields are not allowed\n" ++
        "help: merge them into one pattern", "  ok   A (2 fields, 3 bytes)"] := by
  intro result
  obtain ⟨report, ran, -, -, entries, -, zero, gate, -⟩ := check_gate .standard (fun _ => 0)
    (some "one.yaml") (pinned_formats []).1 fun format fault failed => by
      rw [pinned_compilations] at failed
      cases List.mem_singleton.mp failed
  obtain ⟨second, ran', -, -, entries', code, zero', -⟩ := check_gate .standard (fun _ => 0)
    (some "two.yaml") (pinned_formats []).2 fun format fault failed => by
      rw [unmerged_compilations] at failed
      rcases List.mem_cons.mp failed with same | failed
      · cases same
        trivial
      · cases List.mem_singleton.mp failed
  rw [pinned_compilations] at entries zero
  rw [unmerged_compilations] at entries' zero'
  have passed : report.code = 0 := zero.mpr (List.forall_mem_singleton.mpr rfl)
  have failed : second.code ≠ 0 := by
    intro none_failed
    cases zero'.mp none_failed _ List.mem_cons_self
  refine ⟨⟨report, ran, passed, ?_⟩, fun content path error => ?_, second, ran', by omega, ?_⟩
  · obtain ⟨line, _, ⟨entry, -⟩, none_left, same⟩ := List.forall₂_cons_left_iff.mp entries
    rw [List.forall₂_nil_left_iff] at none_left
    rw [same, entry.pinned, none_left]
  · exact gate passed (List.forall_mem_singleton.mpr pinned_free)
      (List.forall_mem_singleton.mpr pinned_spares) (pinned content) _ (pinned_formats content).1
      (fun path error => ofFiles_plain _ path) path error
  · obtain ⟨line, _, ⟨entry, -⟩, others, same⟩ := List.forall₂_cons_left_iff.mp entries'
    obtain ⟨line', _, ⟨entry', -⟩, none_left, rfl⟩ := List.forall₂_cons_left_iff.mp others
    rw [List.forall₂_nil_left_iff] at none_left
    rw [same, entry.unmerged, entry'.pinned, none_left]

/-- A format that stores what another reading of a hex literal gives. -/
def rereadFormat : Format where
  name := .str "X"
  extensions := .list []
  fields := [⟨⟨[.wildcard], .hex⟩, .str "a", .none,
    .str "__import__('hexstruct').hex_literal('__')", .str ""⟩]
  rest := .none
  description := .str ""
  metadata := .dict []

/-- A file of one byte, and a catalogue with this format. -/
def rereadDirectory : Directory :=
  let field : Value := .dict [(.str "pattern", .str "__"), (.str "member", .str "a"),
    (.str "transform", .str "__import__('hexstruct').hex_literal('__')")]
  let format : Value := .dict [(.str "name", .str "X"), (.str "fields", .list [field])]
  .ofFiles [("f.bin", ⟨[0x00], .error (.failure .value)⟩),
    ("c.yaml", ⟨[], .ok (.dict [(.str "formats", .list [format])])⟩)]

def rereadPlan (source : Value) (location : Option Source.Location) : Plan where
  target := .entries
  fields := [⟨some (.name "a"), ⟨[.wildcard], .hex⟩, none,
    some (.expression ⟨source, .group Plan.rereading, location⟩), none⟩]
  rest := none
  scope := Format.scope .empty
  reader := none
  name := .str "X"

def isRereading : Expr → Bool
  | .group (.call (.attribute (.call (.name "__import__") [.const (.str "hexstruct")])
      "hex_literal") [.const (.str "__")]) => true
  | _ => false

theorem eq_of_isRereading (same : isRereading code = true) : code = .group Plan.rereading := by
  unfold isRereading at same
  split at same
  · rfl
  · cases same

theorem reread_code : ∃ source location,
    Expression.ofValue (.str "__import__('hexstruct').hex_literal('__')") =
      .ok ⟨source, .group Plan.rereading, location⟩ := by
  have checked : (Expression.ofValue
      (.str "__import__('hexstruct').hex_literal('__')")).toOption.map (isRereading ·.code) =
        some true := by
    decide +kernel
  cases made : Expression.ofValue (.str "__import__('hexstruct').hex_literal('__')") with
  | error fault =>
    rw [made] at checked
    cases checked
  | ok e =>
    rw [made] at checked
    obtain ⟨source, code, location⟩ := e
    obtain rfl : code = .group Plan.rereading := eq_of_isRereading (Option.some.inj checked)
    exact ⟨source, location, rfl⟩

theorem reread_compiled (interpreter : Interpreter σ) (state : σ) : ∃ source location,
    (rereadFormat.compile interpreter .empty).run state =
      (.ok (rereadPlan source location), state) := by
  obtain ⟨source, location, made⟩ := reread_code
  have named : ¬rereadFormat.name.hasOverlong = true := by decide
  have plain : ¬(Value.str "X").plainText.toList.contains '\x00' = true := by decide
  have own : rereadFormat.planFields = .ok (rereadPlan source location).fields := by
    rw [Format.planFields, if_neg named]
    simp only [rereadFormat, List.mapM_cons, List.mapM_nil, Format.fieldIn, if_neg plain,
      Format.fieldOf, made]
    rfl
  refine ⟨source, location, ?_⟩
  rw [Format.compile, own]
  rfl

theorem reread_free (source : Value) (location : Option Source.Location)
    (memory : Library.Memory Expr.Counts) :
    (rereadPlan source location).SideEffectFree (Library.interpreter Expr.callValue)
      ((rereadPlan source location).world .empty memory) := by
  refine ⟨List.forall_mem_singleton.mpr ⟨List.forall_mem_nil _, fun raw => ?_⟩, ?_, ?_, ?_⟩
  · with_unfolding_all rfl
  · intro e given
    cases given
  · intro function arguments called
    cases called
  · intro t parts arguments possible
    cases possible

theorem reread_raises (source : Value) (location : Option Source.Location)
    (memory : Library.Memory Expr.Counts) :
    ∃ error, ((rereadPlan source location).parseBytes (Library.interpreter Expr.callValue) .empty
      [0x00]).run memory = (.error (.specification error), memory) :=
  ⟨_, by with_unfolding_all rfl⟩

/-- A transform that reads a hex literal has no side effect and passes the check, but raises the error in
that literal. -/
theorem checked_transform_raises_specification :
    let interpreter := Library.interpreter Expr.callValue
    let memory : Library.Memory Expr.Counts := ⟨fun _ => 0, []⟩
    let result (command : Command) := ((run interpreter rereadDirectory command).run memory).1
    rereadDirectory.formats (some "c.yaml") = .ok [rereadFormat] ∧
    rereadFormat.SideEffectFree interpreter .empty memory ∧
    (∃ report, result (.check (some "c.yaml")) = .ok report ∧ report.code = 0) ∧
    (∃ error, result (.parse "f.bin" "X" (some "c.yaml") false) = .error (.specification error)) ∧
    ∃ error, result (.identify "f.bin" (some "c.yaml")) = .error (.specification error) := by
  intro interpreter memory result
  have loaded : rereadDirectory.formats (some "c.yaml") = .ok [rereadFormat] := by
    with_unfolding_all rfl
  have opened : rereadDirectory.open? "f.bin" = .ok ⟨[0x00], .error (.failure .value)⟩ := by
    with_unfolding_all rfl
  obtain ⟨source, location, compiled⟩ := reread_compiled interpreter memory
  have entries : compilations interpreter [rereadFormat] memory =
      [(rereadFormat, .ok (rereadPlan source location))] := by
    rw [compilations, compiled]
    rfl
  obtain ⟨error, raises⟩ := reread_raises source location memory
  refine ⟨loaded, fun plan compiled' => ?_, ?_, ?_, ?_⟩
  · rw [compiled] at compiled'
    obtain rfl := Except.ok.inj compiled'
    exact reread_free source location memory
  · have clean (format : Format) (fault : Fault)
        (failed : (format, .error fault) ∈ compilations interpreter [rereadFormat] memory) :
        fault.IsSpecification := by
      rw [entries] at failed
      cases List.mem_singleton.mp failed
    obtain ⟨report, ran, -, -, -, zero⟩ := runCheck_entries (some "c.yaml") loaded clean
    rw [entries] at zero
    exact ⟨report, ran, zero.mpr (List.forall_mem_singleton.mpr rfl)⟩
  · have found : findFormat [rereadFormat] "X" = .ok (some rereadFormat) := by
      simp [findFormat, rereadFormat]
    exact ⟨error, (runParse_iff "f.bin" "X" (some "c.yaml") false).mpr
      (.parsed loaded found opened compiled (congrArg Prod.fst raises))⟩
  · have built : (Catalogue.Identifier.build interpreter [rereadFormat] .empty).run memory =
        (.ok ⟨[(rereadFormat, rereadPlan source location)]⟩, memory) := by
      rw [Catalogue.Identifier.build, List.mapM_cons]
      exact run_bind_ok_iff.mpr ⟨_, _, run_bind_ok_iff.mpr ⟨_, _,
        run_bind_ok_iff.mpr ⟨_, _, compiled, rfl⟩, rfl⟩, rfl⟩
    refine ⟨error, (runIdentify_iff (fun _ _ => ofFiles_plain _ _) "f.bin" (some "c.yaml")).mpr
      (.identified loaded built opened ?_)⟩
    rw [Catalogue.Identifier.outcomes, List.mapM_cons]
    exact run_bind_error_iff.mpr (.inl (run_bind_error_iff.mpr (.inl (congrArg Prod.fst raises))))

end CommandLine
end ByteRecord
