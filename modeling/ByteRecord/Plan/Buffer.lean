import ByteRecord.Plan.Stream

/-! The buffer that the fields of a parse share. A field reads into a view of its first bytes; what
a longer field left behind them stays there. -/
namespace ByteRecord

/-- Bytes of which some are replaced from an offset on. -/
def overwrite (bytes : List UInt8) (offset : Nat) (data : List UInt8) : List UInt8 :=
  bytes.take offset ++ data ++ bytes.drop (offset + data.length)

theorem length_overwrite (h : offset + data.length ≤ bytes.length) :
    (overwrite bytes offset data).length = bytes.length := by
  simp only [overwrite, List.length_append, List.length_take, List.length_drop]
  omega

theorem length_le_overwrite (bytes : List UInt8) (offset : Nat) (data : List UInt8) :
    bytes.length ≤ (overwrite bytes offset data).length := by
  simp only [overwrite, List.length_append, List.length_take, List.length_drop]
  omega

theorem take_overwrite (h : offset ≤ bytes.length) :
    (overwrite bytes offset data).take (offset + data.length) = bytes.take offset ++ data := by
  have width : (bytes.take offset ++ data).length = offset + data.length := by
    rw [List.length_append, List.length_take, Nat.min_eq_left h]
  rw [overwrite, ← width, List.take_left]

inductive Filling where
  | full
  /-- The stream ended, or was interrupted, when so many bytes were there. -/
  | short (received : Nat) (cause : Option Interruption)
  | failed (fault : Fault)

namespace Filling

/-- Takes an answer into a view of which the first `filled` bytes are there: how many bytes are
added, and the view with them. A reader that fills has written its bytes itself, and nothing counts
as none. Bytes that are returned are copied: they must fit the room that is left, and nothing at all
cannot be copied. -/
def receive (protocol : Protocol) (view : List UInt8) (filled : Nat) :
    Answer → Except Filling (Nat × List UInt8)
  | .handed data =>
    if protocol = .returns ∧ view.length - filled < data.length then .error (.failed (.failure .value))
    else .ok (data.length, overwrite view filled data)
  | .nothing => match protocol with
    | .fills => .ok (0, view)
    | .returns => .error (.failed (.failure .type))
  | .interrupted cause => .error (.short filled (some cause))
  | .failed fault => .error (.failed fault)

/-- Asks for the bytes that are still missing until they are there or a call adds none. -/
def fillFrom [Reader ρ] (protocol : Protocol) (requested filled : Nat) (view : List UInt8)
    (reader : ρ) : Filling × List UInt8 × ρ :=
  if filled < requested then
    let (answer, reader) := Reader.ask (requested - filled) reader
    match receive protocol view filled answer with
    | .error filling => (filling, view, reader)
    | .ok (0, view) => (.short filled none, view, reader)
    | .ok (count + 1, view) => fillFrom protocol requested (filled + (count + 1)) view reader
  else (.full, view, reader)
termination_by requested - filled

/-- Bytes that fit the room that is left are taken as they are, however the reader is called. -/
theorem receive_handed (protocol : Protocol) (data : List UInt8)
    (h : filled + data.length ≤ view.length) :
    receive protocol view filled (.handed data) =
      .ok (data.length, overwrite view filled data) := by
  rw [receive, if_neg (by omega)]

theorem length_le_of_receive {view later : List UInt8}
    (received : receive protocol view filled answer = .ok (count, later)) :
    view.length ≤ later.length := by
  cases answer with
  | handed data =>
    rw [receive] at received
    split at received
    · cases received
    · cases received
      exact length_le_overwrite view filled data
  | nothing =>
    cases protocol with
    | fills =>
      cases received
      exact Nat.le_refl _
    | returns => cases received
  | interrupted cause => cases received
  | failed fault => cases received

/-- Reading fails as the reader does, or because its bytes do not fit or cannot be copied. -/
theorem receive_failed (failed : receive protocol view filled answer = .error (.failed fault)) :
    (∃ failure, fault = .failure failure) ∨ answer = .failed fault := by
  cases answer with
  | handed data =>
    rw [receive] at failed
    split at failed
    · cases failed
      exact .inl ⟨_, rfl⟩
    · cases failed
  | nothing =>
    cases protocol with
    | fills => cases failed
    | returns =>
      cases failed
      exact .inl ⟨_, rfl⟩
  | interrupted cause => cases failed
  | failed raised =>
    cases failed
    exact .inr rfl

section
variable [Reader ρ] {reader reader' : ρ}

theorem fillFrom_of_le (protocol : Protocol) (view : List UInt8) (h : requested ≤ filled) :
    fillFrom protocol requested filled view reader = (.full, view, reader) := by
  rw [fillFrom, if_neg (by omega)]

theorem fillFrom_step (protocol : Protocol) (view : List UInt8) (lacking : filled < requested)
    (asked : Reader.ask (requested - filled) reader = (answer, reader')) :
    fillFrom protocol requested filled view reader =
      match receive protocol view filled answer with
      | .error filling => (filling, view, reader')
      | .ok (0, view) => (.short filled none, view, reader')
      | .ok (count + 1, view) =>
        fillFrom protocol requested (filled + (count + 1)) view reader' := by
  rw [fillFrom, if_pos lacking, asked]

theorem fillFrom_handed (protocol : Protocol) (lacking : filled < requested)
    (fits : filled + (piece.length + 1) ≤ view.length)
    (asked : Reader.ask (requested - filled) reader = (.handed (byte :: piece), reader')) :
    fillFrom protocol requested filled view reader =
      fillFrom protocol requested (filled + (piece.length + 1))
        (overwrite view filled (byte :: piece)) reader' := by
  rw [fillFrom_step protocol view lacking asked, receive_handed protocol (byte :: piece) fits]
  rfl

theorem fillFrom_ended (protocol : Protocol) (lacking : filled < requested)
    (fits : filled ≤ view.length)
    (asked : Reader.ask (requested - filled) reader = (.handed [], reader')) :
    fillFrom protocol requested filled view reader =
      (.short filled none, overwrite view filled [], reader') := by
  rw [fillFrom_step protocol view lacking asked, receive_handed protocol [] fits]
  rfl

/-- Filling shortens no view, whatever the reader hands out. -/
theorem length_le_of_fillFrom (protocol : Protocol) (requested filled : Nat) (view : List UInt8)
    (reader : ρ) :
    view.length ≤ (fillFrom protocol requested filled view reader).2.1.length := by
  induction missing : requested - filled using Nat.strongRecOn generalizing filled view reader with
  | ind missing ih =>
    by_cases lacking : filled < requested
    · cases asked : Reader.ask (requested - filled) reader with
      | mk answer reader' =>
        rw [fillFrom_step protocol view lacking asked]
        cases received : receive protocol view filled answer with
        | error filling => exact Nat.le_refl _
        | ok added =>
          obtain ⟨count, view'⟩ := added
          have grows := length_le_of_receive received
          cases count with
          | zero => exact grows
          | succ count =>
            exact Nat.le_trans grows (ih _ (by omega) _ _ _ rfl)
    · apply Nat.le_of_eq
      rw [fillFrom_of_le protocol view (Nat.le_of_not_lt lacking)]

end

/-- Fills a whole view. An empty one is full without any call. -/
def fill [Reader ρ] (view : List UInt8) (reader : ρ) : Filling × List UInt8 × ρ :=
  fillFrom (Reader.protocol reader) view.length 0 view reader

theorem length_le_of_fill [Reader ρ] (buffer : List UInt8) (count : Nat) (reader : ρ) :
    buffer.length ≤ ((fill (buffer.take count) reader).2.1 ++ buffer.drop count).length := by
  have grows := length_le_of_fillFrom (Reader.protocol reader) (buffer.take count).length 0
    (buffer.take count) reader
  rw [← fill, List.length_take] at grows
  rw [List.length_append, List.length_drop]
  omega

end Filling
end ByteRecord
