import ByteRecord.Proofs.Effect.Log
import ByteRecord.Proofs.Plan.WellFormed

/-! The order in which the fields of a plan evaluate. Relations say which requests are made to an
interpreter and what comes of the answers: one relation for each function that evaluates, with a
constructor for each way in which it can end. The log of an interpreter that keeps one is related to
every result. -/
namespace ByteRecord

namespace Deferred

def request (element : Deferred) : Request :=
  match element.origin with
  | .inl e => .evaluate e
  | .inr function => .call function ⟨[], []⟩

/-- What an answer means for an element. -/
def reading (element : Deferred) : Except Fault Value → Except Fault Nat
  | .ok value => element.byteOf value
  | .error fault => .error (element.refusal fault)

def Asked (element : Deferred) (own : List Exchange) (result : Except Fault Nat) : Prop :=
  ∃ answer, own = [⟨element.request, answer⟩] ∧ result = element.reading answer

theorem resolve_logs (interpreter : Interpreter σ) (element : Deferred) (scope : Scope) (state : σ) :
    Logs Logged.mk state (element.resolve interpreter scope)
      (element.resolve interpreter.logged scope) element.Asked := by
  have plain : (element.resolve interpreter scope).run state =
      (element.reading ((element.outcome interpreter scope).run state).1,
        ((element.outcome interpreter scope).run state).2) := by
    rw [run_resolve]
    cases (element.outcome interpreter scope).run state with
    | mk result later => cases result <;> rfl
  have logged (log : List Exchange) :
      (element.outcome interpreter.logged scope).run ⟨state, log⟩ =
        (((element.outcome interpreter scope).run state).1,
          ⟨((element.outcome interpreter scope).run state).2,
            log ++ [⟨element.request, ((element.outcome interpreter scope).run state).1⟩]⟩) := by
    unfold outcome request
    cases element.origin <;> rfl
  refine ⟨_, ⟨_, rfl, congrArg Prod.fst plain⟩, fun log => ?_⟩
  rw [run_resolve, logged, plain]
  cases ((element.outcome interpreter scope).run state).1 <;> rfl

end Deferred

def Matcher.takes? : Matcher → UInt8 → Option Bool
  | .exact value, byte => some (value == byte.toNat)
  | .wildcard, _ | .openRange, _ => some true
  | .deferred _, _ => none

/-- One position is tried with a byte: a computed element is asked for once, any other is known. -/
inductive Matcher.Tried (byte : UInt8) : Matcher → List Exchange → Except Fault Bool → Prop
  | known (takes : matcher.takes? byte = some accepted) : Tried byte matcher [] (.ok accepted)
  | computed (read : element.reading answer = .ok value) :
    Tried byte (.deferred element) [⟨element.request, answer⟩] (.ok (value == byte.toNat))
  | failed (read : element.reading answer = .error fault) :
    Tried byte (.deferred element) [⟨element.request, answer⟩] (.error fault)

/-- Positions are compared from left to right, up to and including the first one that rejects its
byte or cannot be computed. -/
inductive Compared : List Matcher → List UInt8 → List Exchange → Except Fault Bool → Prop
  | done : Compared [] [] [] (.ok true)
  | accepted (tried : matcher.Tried byte own (.ok true))
      (later : Compared matchers data more result) :
    Compared (matcher :: matchers) (byte :: data) (own ++ more) result
  | rejected (tried : matcher.Tried byte own (.ok false)) :
    Compared (matcher :: matchers) (byte :: data) own (.ok false)
  | failed (tried : matcher.Tried byte own (.error fault)) :
    Compared (matcher :: matchers) (byte :: data) own (.error fault)

section
variable (interpreter : Interpreter σ) (scope : Scope)

theorem Matcher.accepts_logs (matcher : Matcher) (byte : UInt8) (state : σ) :
    Logs Logged.mk state (matcher.accepts interpreter byte scope)
      (matcher.accepts interpreter.logged byte scope) (matcher.Tried byte) := by
  cases matcher with
  | exact value => exact .pure (.known rfl)
  | wildcard => exact .pure (.known rfl)
  | openRange => exact .pure (.known rfl)
  | deferred element =>
    apply Logs.bind (element.resolve_logs interpreter scope state)
    · intro value after _
      apply Logs.pure
      rintro before ⟨answer, rfl, read⟩
      exact .computed read.symm
    · rintro own fault ⟨answer, rfl, read⟩
      exact .failed read.symm

theorem Pattern.acceptsAll_logs {matchers : List Matcher} {data : List UInt8}
    (size : data.length = matchers.length) (state : σ) :
    Logs Logged.mk state (acceptsAll interpreter scope matchers data)
      (acceptsAll interpreter.logged scope matchers data) (Compared matchers data) := by
  induction matchers generalizing data state with
  | nil =>
    obtain rfl := List.eq_nil_of_length_eq_zero size
    exact .pure .done
  | cons matcher matchers ih =>
    cases data with
    | nil => cases size
    | cons byte data =>
      apply Logs.bind (matcher.accepts_logs interpreter scope byte state)
      · intro accepted after _
        cases accepted with
        | false =>
          apply Logs.pure
          intro before tried
          rw [List.append_nil]
          exact .rejected tried
        | true =>
          apply (ih (Nat.succ.inj size) after).mono
          intro own result compared before tried
          exact .accepted tried compared
      · intro own fault tried
        exact .failed tried

/-- A pattern of fixed length is compared with as many bytes position by position. -/
theorem Pattern.accepts_logs {pattern : Pattern} (fixed : .openRange ∉ pattern.matchers)
    (size : data.length = pattern.size) (state : σ) :
    Logs Logged.mk state (pattern.accepts interpreter data scope)
      (pattern.accepts interpreter.logged data scope) (Compared pattern.matchers data) := by
  rw [accepts_fixed _ fixed, accepts_fixed _ fixed, size, beq_self_eq_true, if_pos rfl, if_pos rfl]
  exact acceptsAll_logs interpreter scope size state

end

def Transform.request (raw : List UInt8) : Transform → Request
  | .expression e => .evaluate e.code
  | .function f => .call f ⟨[.bytes raw], []⟩

/-- The value of a field: a transform is asked for once, and without one nothing is. -/
inductive Valued (field : Field) (raw : List UInt8) :
    List Exchange → Except Fault Value → Prop
  | plain (absent : field.transform = none) : Valued field raw [] (.ok (.bytes raw))
  | transformed (present : field.transform = some transform) :
    Valued field raw [⟨transform.request raw, answer⟩] answer

theorem Field.evaluate_logs (interpreter : Interpreter σ) (field : Field) (raw : List UInt8)
    (world : World σ) :
    Logs World.logged world (field.evaluate interpreter raw)
      (field.evaluate interpreter.logged raw) (Valued field raw) := by
  have once {transform : Transform} (present : field.transform = some transform)
      (own : List Exchange) (result : Except Fault Value)
      (asked : Logs.Once (transform.request raw) own result) : Valued field raw own result := by
    obtain rfl := asked
    exact .transformed present
  unfold evaluate
  cases transform : field.transform with
  | none => exact .pure (.plain transform)
  | some value =>
    cases value with
    | expression e =>
      cases field.binding with
      | none => exact (Logs.evaluate interpreter e.code world).mono (once transform)
      | some binding =>
        exact (Logs.evaluateApart interpreter _ e.code world).mono (once transform)
    | function f => exact (Logs.call interpreter f _ world).mono (once transform)

inductive Stored (field : Field) (raw : List UInt8) :
    List Exchange → Except Fault Plan.Members → Prop
  | skipped (unbound : field.member = none) : Stored field raw [] (.ok [])
  | bound (bound : field.member = some member) (valued : Valued field raw own result) :
    Stored field raw own (result.map fun value => [(member, value)])

theorem Plan.memberValue_logs (interpreter : Interpreter σ) (field : Field) (raw : List UInt8)
    (world : World σ) :
    Logs World.logged world (memberValue interpreter field raw)
      (memberValue interpreter.logged field raw) (Stored field raw) := by
  unfold memberValue
  cases member : field.member with
  | none => exact .pure (.skipped member)
  | some name =>
    apply Logs.bind (field.evaluate_logs interpreter raw world)
    · intro value after _
      apply Logs.pure
      intro before valued
      rw [List.append_nil]
      exact .bound member valued
    · intro own fault valued
      exact .bound member valued

/-- The bytes of a field are matched, and its value is computed only if they all are accepted. -/
inductive Matched (field : Field) (raw : List UInt8) :
    List Exchange → Except Fault (Except ParseError Plan.Members) → Prop
  | failed (compared : Compared field.pattern.matchers raw own (.error fault)) :
    Matched field raw own (.error fault)
  | rejected (compared : Compared field.pattern.matchers raw own (.ok false)) :
    Matched field raw own (.ok (.error (.mismatch field raw)))
  | accepted (compared : Compared field.pattern.matchers raw own (.ok true))
      (stored : Stored field raw more result) :
    Matched field raw (own ++ more) (result.map .ok)

theorem Plan.matchField_logs (interpreter : Interpreter σ) {field : Field}
    (fixed : .openRange ∉ field.pattern.matchers) (size : raw.length = field.size)
    (world : World σ) :
    Logs World.logged world (matchField interpreter field raw)
      (matchField interpreter.logged field raw) (Matched field raw) := by
  apply Logs.bind (Logs.apart (Pattern.accepts_logs interpreter world.scope fixed size world.state))
  · intro accepted after _
    cases accepted with
    | false =>
      apply Logs.pure
      intro before compared
      rw [List.append_nil]
      exact .rejected compared
    | true =>
      apply Logs.bind (memberValue_logs interpreter field raw after)
      · intro members later _
        apply Logs.pure
        intro own stored before compared
        rw [List.append_nil]
        exact .accepted compared stored
      · intro own fault stored before compared
        exact .accepted compared stored
  · intro own fault compared
    exact .failed compared

/-- One field is read into the buffer, and only bytes that are all there are matched. -/
inductive Visited [Reader ρ] (field : Field) (reader : ρ) (buffer : List UInt8) :
    ρ → List UInt8 → List Exchange → Except Fault (Except ParseError Plan.Members) → Prop
  | failed (read : Filling.fill (buffer.take field.size) reader = (.failed fault, view, left)) :
    Visited field reader buffer left (view ++ buffer.drop field.size) []
      ((Plan.passedOn fault).map (·.1))
  | short (read : Filling.fill (buffer.take field.size) reader =
      (.short received cause, view, left)) :
    Visited field reader buffer left (view ++ buffer.drop field.size) []
      (.ok (.error (.read field received cause)))
  | full (read : Filling.fill (buffer.take field.size) reader = (.full, view, left))
      (matched : Matched field ((view ++ buffer.drop field.size).take field.size) own result) :
    Visited field reader buffer left (view ++ buffer.drop field.size) own result

/-- Fields are visited in order. The first that cannot be read, does not match or fails is the last
for which anything is asked. -/
inductive Traversed [Reader ρ] : List Field → ρ → List UInt8 → List Exchange →
    Except Fault (Except ParseError Plan.Members) → Prop
  | done : Traversed [] reader buffer [] (.ok (.ok []))
  | failed (visited : Visited field reader buffer left buffer' own (.error fault)) :
    Traversed (field :: fields) reader buffer own (.error fault)
  | stopped (visited : Visited field reader buffer left buffer' own (.ok (.error error))) :
    Traversed (field :: fields) reader buffer own (.ok (.error error))
  | further (visited : Visited field reader buffer left buffer' own (.ok (.ok members)))
      (later : Traversed fields left buffer' more result) :
    Traversed (field :: fields) reader buffer (own ++ more) (result.map (·.map (members ++ ·)))

namespace Plan
section
variable [Reader ρ] (interpreter : Interpreter σ)

theorem length_le_runField (field : Field) (run : Run σ ρ) :
    run.buffer.length ≤ ((runField interpreter field).run run).2.buffer.length := by
  have grows := Filling.length_le_of_fill run.buffer field.size run.reader
  rw [runField_eq]
  cases read : Filling.fill (run.buffer.take field.size) run.reader with
  | mk filling rest =>
    rw [read] at grows
    cases filling <;> exact grows

theorem runField_logs {field : Field} {run : Run σ ρ}
    (fixed : .openRange ∉ field.pattern.matchers) (fits : field.size ≤ run.buffer.length) :
    let after := ((runField interpreter field).run run).2
    Logs Run.logged run (runField interpreter field) (runField interpreter.logged field)
      fun own result => Visited field run.reader run.buffer after.reader after.buffer own
        (result.map (·.1)) := by
  have plain := runField_eq interpreter field run
  have logged (log : List Exchange) := runField_eq interpreter.logged field (run.logged log)
  have grows := Filling.length_le_of_fill run.buffer field.size run.reader
  simp only [Run.logged] at plain logged
  cases read : Filling.fill (run.buffer.take field.size) run.reader with
  | mk filling rest =>
    obtain ⟨view, left⟩ := rest
    simp only [read] at plain logged grows
    cases filling with
    | failed failure =>
      refine ⟨[], ?_, fun log => ?_⟩
      · rw [plain]
        exact .failed read
      · rw [List.append_nil, plain]
        exact logged log
    | short received cause =>
      refine ⟨[], ?_, fun log => ?_⟩
      · rw [plain]
        exact .short read
      · rw [List.append_nil, plain]
        exact logged log
    | full =>
      dsimp only at plain logged
      have size : ((view ++ run.buffer.drop field.size).take field.size).length = field.size := by
        rw [List.length_take]
        omega
      obtain ⟨own, matched, ran⟩ := matchField_logs interpreter fixed size run.world
      cases match_run : (matchField interpreter field
        ((view ++ run.buffer.drop field.size).take field.size)).run run.world with
      | mk result world =>
        rw [match_run] at plain matched ran
        have same : (result.map (·, field.size)).map (·.1) = result := by cases result <;> rfl
        refine ⟨own, ?_, fun log => ?_⟩
        · rw [plain]
          dsimp only
          rw [same]
          exact .full read matched
        · rw [plain]
          refine (logged log).trans ?_
          rw [ran log]
          rfl

/-- Fields are traversed with a log as they are without. -/
theorem runFields_logs (fields : List Field) (consumed : Nat) (run : Run σ ρ)
    (fixed : ∀ field ∈ fields, .openRange ∉ field.pattern.matchers)
    (fits : ∀ field ∈ fields, field.size ≤ run.buffer.length) :
    Logs Run.logged run (runFields interpreter consumed fields)
      (runFields interpreter.logged consumed fields)
      fun own result => Traversed fields run.reader run.buffer own (result.map (·.1)) := by
  induction fields generalizing consumed run with
  | nil => exact .pure .done
  | cons field fields ih =>
    obtain ⟨own_fixed, fixed⟩ := List.forall_mem_cons.mp fixed
    obtain ⟨own_fits, fits⟩ := List.forall_mem_cons.mp fits
    have grows := length_le_runField interpreter field run
    apply Logs.bind (runField_logs interpreter own_fixed own_fits)
    · rintro ⟨answer, taken⟩ after ran
      rw [ran] at grows ⊢
      cases answer with
      | error error =>
        apply Logs.pure
        intro before visited
        rw [List.append_nil]
        exact .stopped visited
      | ok members =>
        apply Logs.bind (ih (consumed + taken) after fixed fun field present =>
          Nat.le_trans (fits field present) grows)
        · intro answer later _
          apply Logs.pure
          intro own traversed before visited
          rw [List.append_nil]
          exact .further visited traversed
        · intro own fault traversed before visited
          exact .further visited traversed
    · intro own fault visited
      exact .failed visited

end
end Plan

end ByteRecord
