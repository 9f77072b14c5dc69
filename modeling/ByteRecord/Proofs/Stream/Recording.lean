import ByteRecord.Proofs.Stream.Simulation

/-! Readers that record how they are called. A recording reader is run by the very same code, and it
cannot be told from the reader in it. What one fill records follows a simple pattern: calls that
hand out bytes, each asking for all that is still missing, and at most one other call, which is the
last. -/
namespace ByteRecord

/-- One call of a reader: how many bytes it was asked for, and what it answered. -/
structure Call where
  asked : Nat
  answer : Answer

def Call.handed (call : Call) : Nat :=
  match call.answer with
  | .handed data => data.length
  | _ => 0

def Call.data (call : Call) : List UInt8 :=
  match call.answer with
  | .handed data => data
  | _ => []

/-- The bytes that calls handed out, one after the other. -/
def delivered (calls : List Call) : List UInt8 :=
  calls.flatMap Call.data

/-- How many bytes calls handed out. -/
def handed (calls : List Call) : Nat :=
  (calls.map Call.handed).foldr (· + ·) 0

@[simp] theorem handed_nil : handed [] = 0 :=
  rfl

@[simp] theorem handed_cons (call : Call) (calls : List Call) :
    handed (call :: calls) = call.handed + handed calls :=
  rfl

@[simp] theorem handed_append (first second : List Call) :
    handed (first ++ second) = handed first + handed second := by
  induction first with
  | nil => rw [List.nil_append, handed_nil, Nat.zero_add]
  | cons call calls ih => rw [List.cons_append, handed_cons, handed_cons, ih, Nat.add_assoc]

/-- A reader together with the calls it has answered. -/
structure Recorded (ρ : Type) where
  reader : ρ
  calls : List Call

instance [Reader ρ] : Reader (Recorded ρ) where
  protocol recorded := Reader.protocol recorded.reader
  ask count recorded :=
    let (answer, reader) := Reader.ask count recorded.reader
    (answer, ⟨reader, recorded.calls ++ [⟨count, answer⟩]⟩)

namespace Recorded
variable [Reader ρ]

theorem ask_eq {reader : ρ} {calls : List Call}
    (asked : Reader.ask count reader = (answer, reader')) :
    Reader.ask count (⟨reader, calls⟩ : Recorded ρ) =
      (answer, ⟨reader', calls ++ [⟨count, answer⟩]⟩) := by
  change (match Reader.ask count reader with
    | (answer, reader) => (answer, Recorded.mk reader (calls ++ [Call.mk count answer]))) = _
  rw [asked]

theorem fillFrom_transparent (protocol : Protocol) (requested filled : Nat) (view : List UInt8)
    (recorded : Recorded ρ) :
    ∃ filling view' recorded',
      Filling.fillFrom protocol requested filled view recorded = (filling, view', recorded') ∧
      Filling.fillFrom protocol requested filled view recorded.reader =
        (filling, view', recorded'.reader) := by
  induction missing : requested - filled using Nat.strongRecOn
    generalizing filled view recorded with
  | ind missing ih =>
    obtain ⟨reader, calls⟩ := recorded
    by_cases lacking : filled < requested
    · obtain ⟨answer, reader', asked⟩ :
          ∃ answer reader', Reader.ask (requested - filled) reader = (answer, reader') :=
        ⟨_, _, rfl⟩
      rw [Filling.fillFrom_step protocol view lacking (ask_eq asked),
        Filling.fillFrom_step protocol view lacking asked]
      cases Filling.receive protocol view filled answer with
      | error filling => exact ⟨_, _, _, rfl, rfl⟩
      | ok received =>
        obtain ⟨count, view'⟩ := received
        cases count with
        | zero => exact ⟨_, _, _, rfl, rfl⟩
        | succ count => exact ih _ (by omega) _ _ _ rfl
    · have enough : requested ≤ filled := Nat.le_of_not_lt lacking
      exact ⟨_, _, _, Filling.fillFrom_of_le protocol view enough,
        Filling.fillFrom_of_le protocol view enough⟩

theorem fillsAlike : FillsAlike fun (recorded : Recorded ρ) reader => recorded.reader = reader where
  fill := by
    rintro recorded _ rfl view
    obtain ⟨filling, view', recorded', first, second⟩ :=
      fillFrom_transparent (Reader.protocol recorded) view.length 0 view recorded
    exact ⟨filling, view', view', recorded', recorded'.reader, first, second, rfl, fun _ => rfl⟩

end Recorded

/-- How an answer ends a fill that has room for so many bytes more; `none` if it brings the fill
further on. -/
def Answer.ending (protocol : Protocol) (room received : Nat) : Answer → Option Filling
  | .handed data =>
    if data = [] then some (.short received none)
    else if room < data.length then some (.failed (.failure .value))
    else none
  | .nothing => match protocol with
    | .fills => some (.short received none)
    | .returns => some (.failed (.failure .type))
  | .interrupted cause => some (.short received (some cause))
  | .failed fault => some (.failed fault)

theorem Answer.ending_ne_full (answer : Answer) :
    answer.ending protocol room received ≠ some .full := by
  cases answer with
  | handed data =>
    rw [ending]
    split
    · nofun
    · split <;> nofun
  | nothing => cases protocol <;> nofun
  | interrupted cause => nofun
  | failed fault => nofun

/-- Where a fill ends short, nothing more is received. -/
theorem Answer.short_of_ending {answer : Answer}
    (ends : answer.ending protocol room received = some (.short count cause)) :
    count = received ∧ (Call.mk asked answer).handed = 0 := by
  cases answer with
  | handed data =>
    rw [ending] at ends
    split at ends
    · next none_handed =>
      cases ends
      subst none_handed
      exact ⟨rfl, rfl⟩
    · split at ends <;> cases ends
  | nothing =>
    cases protocol with
    | fills =>
      cases ends
      exact ⟨rfl, rfl⟩
    | returns => cases ends
  | interrupted cause =>
    cases ends
    exact ⟨rfl, rfl⟩
  | failed fault => cases ends

/-- The calls of a fill from `filled` bytes on, and what comes of it. What a call fails with is no error
of the library. -/
inductive Fills (protocol : Protocol) (requested : Nat) : Nat → List Call → Filling → Prop
  | full : Fills protocol requested requested [] .full
  | further (some_handed : data ≠ []) (fits : filled + data.length ≤ requested)
      (rest : Fills protocol requested (filled + data.length) calls filling) :
      Fills protocol requested filled (⟨requested - filled, .handed data⟩ :: calls) filling
  | last (lacking : filled < requested)
      (ends : answer.ending protocol (requested - filled) filled = some filling)
      (plain : ∀ fault, answer = .failed fault → ∃ failure, fault = .failure failure) :
      Fills protocol requested filled [⟨requested - filled, answer⟩] filling

namespace Fills

/-- Each call asks for all that is missing, and a call that ends the fill is the last one. -/
theorem asks_missing (fills : Fills protocol requested filled calls filling)
    (at_index : calls[k]? = some call) :
    filled + handed (calls.take k) + call.asked = requested ∧ 0 < call.asked ∧
      ∀ ending, call.answer.ending protocol call.asked (filled + handed (calls.take k)) =
        some ending → k + 1 = calls.length ∧ filling = ending := by
  induction fills generalizing k with
  | full => cases at_index
  | @further data filled calls filling some_handed fits rest ih =>
    have positive : 0 < data.length := List.length_pos_iff.mpr some_handed
    cases k with
    | zero =>
      cases at_index
      simp only [List.take_zero, handed_nil, Nat.add_zero]
      refine ⟨by omega, by omega, ?_⟩
      intro ending ends
      rw [Answer.ending, if_neg some_handed, if_neg (by omega)] at ends
      cases ends
    | succ k =>
      obtain ⟨asked, lacking, last⟩ := ih at_index
      have stand :
          filled + handed ((⟨requested - filled, .handed data⟩ :: calls : List Call).take (k + 1)) =
            filled + data.length + handed (calls.take k) := by
        rw [List.take_succ_cons, handed_cons, Nat.add_assoc]
        rfl
      rw [stand]
      exact ⟨asked, lacking, fun ending ends =>
        ⟨congrArg (· + 1) (last ending ends).1, (last ending ends).2⟩⟩
  | last lacking ends _ =>
    cases k with
    | zero =>
      cases at_index
      simp only [List.take_zero, handed_nil, Nat.add_zero]
      exact ⟨by omega, by omega, fun ending same => ⟨rfl, Option.some.inj (ends.symm.trans same)⟩⟩
    | succ k => cases at_index

theorem handed_full (fills : Fills protocol requested filled calls filling)
    (full : filling = .full) : filled + handed calls = requested := by
  induction fills with
  | full => rfl
  | further some_handed fits rest ih =>
    rw [handed_cons, ← Nat.add_assoc]
    exact ih full
  | last lacking ends _ => exact absurd (full ▸ ends) (Answer.ending_ne_full _)

/-- A view that is filled from its start on receives as many bytes as it has. -/
theorem handed_whole (fills : Fills protocol requested 0 calls .full) :
    handed calls = requested :=
  (Nat.zero_add _).symm.trans (fills.handed_full rfl)

/-- A fill that fails or falls short does so by the answer to its last call. -/
theorem exists_last (fills : Fills protocol requested filled calls filling)
    (other : filling ≠ .full) :
    ∃ earlier call, calls = earlier ++ [call] ∧
      call.answer.ending protocol call.asked (filled + handed earlier) = some filling := by
  induction fills with
  | full => exact absurd rfl other
  | @further data filled calls filling some_handed fits rest ih =>
    obtain ⟨earlier, call, rfl, ends⟩ := ih other
    refine ⟨⟨requested - filled, .handed data⟩ :: earlier, call, rfl, ?_⟩
    rw [handed_cons, ← Nat.add_assoc]
    exact ends
  | last lacking ends _ => exact ⟨[], _, rfl, ends⟩

end Fills

namespace Stream

end Stream

namespace Filling

end Filling

end ByteRecord
