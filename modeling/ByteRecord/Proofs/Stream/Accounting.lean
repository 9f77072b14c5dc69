import ByteRecord.Plan.Library
import ByteRecord.Proofs.Effect.Spared
import ByteRecord.Proofs.Plan.WellFormed
import ByteRecord.Proofs.Record.Slices
import ByteRecord.Proofs.Stream.Recording

/-! The account of a parse. Whatever its reader does, the calls that a parse makes and its outcome
agree: each call asks for the rest of one field, the first call that hands out nothing is the last
one and decides, and the bytes that count as consumed are those that were handed out. What else ends
a parse is a field that rejects these bytes, or an expression or a function that raises. -/
namespace ByteRecord

/-- What comes of all fields if none is read after one that was filled in some way, with some
bytes. -/
inductive Stops (interpreter : Interpreter σ) (field : Field) (consumed : Nat) (raw : List UInt8) :
    Filling → Except Fault (Except ParseError Unit × Nat) → Prop
  | mismatch {world : World σ} (rejected : field.verdict interpreter world raw = .ok false) :
      Stops interpreter field consumed raw .full
        (.ok (.error (.mismatch field raw), consumed + field.size))
  | raised {world : World σ}
      (raises : ((Plan.matchField interpreter field raw).run world).1 = .error fault) :
      Stops interpreter field consumed raw .full (.error fault)
  | short : Stops interpreter field consumed raw (.short received cause)
      (.ok (.error (.read field received cause), consumed + received))
  | failed : Stops interpreter field consumed raw (.failed fault) (.error fault)

/-- The calls that fields make from `consumed` bytes on, and what comes of them. -/
inductive Reads (interpreter : Interpreter σ) (protocol : Protocol) :
    Nat → List Field → List Call → Except Fault (Except ParseError Unit × Nat) → Prop
  | done : Reads interpreter protocol consumed [] [] (.ok (.ok (), consumed))
  | next (own : Fills protocol field.size 0 first .full)
      (rest : Reads interpreter protocol (consumed + field.size) fields later result) :
      Reads interpreter protocol consumed (field :: fields) (first ++ later) result
  | stop (own : Fills protocol field.size 0 calls filling)
      (stops : Stops interpreter field consumed (delivered calls) filling result) :
      Reads interpreter protocol consumed (field :: fields) calls result

theorem Fills.first_asks {field : Field} (own : Fills protocol field.size 0 calls filling)
    (fields : List Field) (at_index : calls[k]? = some call) :
    offset (field :: fields) 0 ≤ handed (calls.take k) ∧
      handed (calls.take k) + call.asked = offset (field :: fields) 1 ∧ 0 < call.asked ∧
      ∀ ending, call.answer.ending protocol call.asked
          (handed (calls.take k) - offset (field :: fields) 0) = some ending →
        k + 1 = calls.length ∧ filling = ending := by
  have asks := own.asks_missing at_index
  rw [Nat.zero_add] at asks
  exact ⟨Nat.zero_le _, asks.1, asks.2⟩

namespace Reads

/-- Each call asks for what one field still lacks. A call that ends the fill of that field is the
last one, and its answer is what comes of all. -/
theorem asks_missing (reads : Reads interpreter protocol consumed fields calls result)
    (at_index : calls[k]? = some call) :
    ∃ i field, fields[i]? = some field ∧ offset fields i ≤ handed (calls.take k) ∧
      handed (calls.take k) + call.asked = offset fields (i + 1) ∧ 0 < call.asked ∧
      ∀ ending, call.answer.ending protocol call.asked
          (handed (calls.take k) - offset fields i) = some ending →
        k + 1 = calls.length ∧
        (∀ received cause, ending = .short received cause →
          result = .ok (.error (.read field received cause), consumed + handed (calls.take k))) ∧
        ∀ fault, ending = .failed fault → result = .error fault := by
  induction reads generalizing k with
  | done => cases at_index
  | @next first consumed fields later result field own rest ih =>
    rcases Nat.lt_or_ge k first.length with early | late
    · rw [List.getElem?_append_left early] at at_index
      obtain ⟨least, asked, positive, ends⟩ := own.first_asks fields at_index
      rw [List.take_append_of_le_length (Nat.le_of_lt early)]
      refine ⟨0, field, rfl, least, asked, positive, fun ending same => ?_⟩
      obtain ⟨-, rfl⟩ := ends ending same
      exact absurd same (Answer.ending_ne_full _)
    · rw [List.getElem?_append_right late] at at_index
      obtain ⟨i, other, at_i, least, asked, positive, ends⟩ := ih at_index
      have whole := own.handed_whole
      have stand : handed ((first ++ later).take k) =
          field.size + handed (later.take (k - first.length)) := by
        rw [List.take_append, List.take_of_length_le late, handed_append, whole]
      rw [stand]
      refine ⟨i + 1, other, at_i, ?_, ?_, positive, fun ending same => ?_⟩
      · rw [offset_cons]
        omega
      · rw [offset_cons]
        omega
      · rw [offset_cons, Nat.add_sub_add_left] at same
        obtain ⟨last, short, failed⟩ := ends ending same
        refine ⟨by rw [List.length_append]; omega, ?_, failed⟩
        intro received cause ended
        rw [short received cause ended, Nat.add_assoc]
  | @stop calls filling field consumed result fields own stops =>
    obtain ⟨least, asked, positive, ends⟩ := own.first_asks fields at_index
    refine ⟨0, field, rfl, least, asked, positive, fun ending same => ?_⟩
    obtain ⟨last, rfl⟩ := ends ending same
    refine ⟨last, ?_, ?_⟩
    · rintro received cause rfl
      obtain ⟨rfl, -⟩ : received = _ ∧ (Call.mk call.asked call.answer).handed = 0 :=
        Answer.short_of_ending same
      cases stops
      rfl
    · rintro fault rfl
      cases stops
      rfl

end Reads

namespace Plan
variable {buffer : List UInt8}

end Plan

namespace Reads
variable {interpreter : Interpreter σ} {plan : Plan} {calls : List Call} {k : Nat} {call : Call}
  {fault : Fault} {result : Except Fault Outcome}

end Reads

namespace Plan

end Plan
end ByteRecord
