import ByteRecord.Proofs.Stream.Simulation
import ByteRecord.Proofs.Stream.HeldBytes

/-! Byte strings and scripts of chunks hold bytes. Since readers that hold the same bytes fill every
view alike, neither the cuts between the chunks nor the way a reader is called can be seen in the
outcome of a parse, nor in the bytes that it leaves. -/
namespace ByteRecord

/-- Readers that hold the same bytes fill every view alike, and hold the same bytes afterwards. -/
theorem Delivers.fillsAlike [Reader ρ] [Reader τ] {Holds : ρ → List UInt8 → Prop}
    {Holds' : τ → List UInt8 → Prop} (first : Delivers Holds) (second : Delivers Holds') :
    FillsAlike fun reader reader' => ∃ data, Holds reader data ∧ Holds' reader' data where
  fill := by
    rintro reader reader' ⟨data, holds, holds'⟩ view
    rcases Nat.lt_or_ge data.length view.length with few | enough
    · obtain ⟨view₁, later, fill, left⟩ := Filling.fill_short first holds few
      obtain ⟨view₂, later', fill', left'⟩ := Filling.fill_short second holds' few
      exact ⟨_, view₁, view₂, later, later', fill, fill', ⟨[], left, left'⟩, nofun⟩
    · rw [← List.take_append_drop view.length data] at holds holds'
      have size : view.length = (data.take view.length).length := by
        rw [List.length_take, Nat.min_eq_left enough]
      obtain ⟨later, fill, left⟩ := Filling.fill_full first holds size
      obtain ⟨later', fill', left'⟩ := Filling.fill_full second holds' size
      exact ⟨_, _, _, later, later', fill, fill', ⟨_, left, left'⟩, fun _ => rfl⟩

namespace Stream

def IsBytes (stream : Stream) (data : List UInt8) : Prop :=
  stream = .bytes data

theorem isBytes_delivers : Delivers IsBytes where
  ask := by
    rintro _ data count rfl positive
    refine ⟨data.take count, data.drop count, _, (List.take_append_drop _ _).symm, rfl,
      List.length_take_le _ _, ?_, rfl⟩
    intro none_taken
    rcases List.take_eq_nil_iff.mp none_taken with zero | rfl
    · omega
    · exact List.drop_nil

/-- A script that delivers chunks and then ends. What a call does not hand out of a chunk stays
first. -/
def ofChunks (protocol : Protocol) (chunks : List (List UInt8)) : Stream :=
  .script protocol (chunks.map (.data · false))

/-- A script of chunks, none of them empty, holds the bytes of all of them. -/
def IsChunked (protocol : Protocol) (stream : Stream) (data : List UInt8) : Prop :=
  ∃ chunks, (∀ chunk ∈ chunks, chunk ≠ []) ∧ stream = ofChunks protocol chunks ∧
    data = chunks.flatten

theorem isChunked_delivers (protocol : Protocol) : Delivers (IsChunked protocol) where
  ask := by
    rintro _ _ count ⟨chunks, nonempty, rfl, rfl⟩ positive
    cases chunks with
    | nil => exact ⟨[], [], _, rfl, rfl, Nat.zero_le _, fun _ => rfl, [], nonempty, rfl, rfl⟩
    | cons chunk later =>
      have present := nonempty chunk List.mem_cons_self
      have later_present : ∀ other ∈ later, other ≠ [] :=
        fun other member => nonempty other (List.mem_cons_of_mem _ member)
      by_cases whole : chunk.length ≤ count
      · refine ⟨chunk, later.flatten, ofChunks protocol later, rfl, ?_, whole,
          fun none_there => absurd none_there present, later, later_present, rfl, rfl⟩
        exact if_pos whole
      · have cut : chunk.drop count ≠ [] := by
          rw [Ne, List.drop_eq_nil_iff]
          exact whole
        have handed : chunk.take count ≠ [] := by
          rw [Ne, List.take_eq_nil_iff]
          rintro (zero | none_there)
          · omega
          · exact present none_there
        refine ⟨chunk.take count, chunk.drop count ++ later.flatten,
          ofChunks protocol (chunk.drop count :: later), ?_, if_neg whole,
          List.length_take_le _ _, fun none_there => absurd none_there handed,
          chunk.drop count :: later, ?_, rfl, rfl⟩
        · rw [← List.append_assoc, List.take_append_drop, List.flatten_cons]
        · intro other member
          rcases List.mem_cons.mp member with rfl | member
          · exact cut
          · exact later_present other member

end Stream

namespace Plan

/-- A parse of chunks and a parse of the same bytes at once, in whatever form they are given, have
one and the same result and effects. What the reader still holds is what follows the bytes consumed,
again in chunks. -/
theorem parseStream_ofChunks (interpreter : Interpreter σ) (plan : Plan) (names : Scope)
    (state : σ) (protocol : Protocol) (chunks : List (List UInt8))
    (nonempty : ∀ chunk ∈ chunks, chunk ≠ []) :
    ∃ result state' rest,
      plan.parseStream interpreter names (Stream.ofChunks protocol chunks) state =
        ((result, Stream.ofChunks protocol rest), state') ∧
      (plan.parseBytes interpreter names chunks.flatten).run state = (result, state') ∧
      (plan.parse interpreter names (.bytes chunks.flatten)).run state = (result, state') ∧
      (∀ kind, (plan.parse interpreter names (.buffer kind chunks.flatten)).run state =
        (result, state')) ∧
      (plan.parseFile interpreter names (.ok chunks.flatten)).run state = (result, state') ∧
      (∀ chunk ∈ rest, chunk ≠ []) ∧
      ∀ outcome, result = .ok outcome → rest.flatten = chunks.flatten.drop outcome.consumed := by
  have holds : Stream.IsChunked protocol (Stream.ofChunks protocol chunks) chunks.flatten :=
    ⟨chunks, nonempty, rfl, rfl⟩
  obtain ⟨result, state', first, second, chunked, flat, -⟩ := parseStream_alike
    ((Stream.isChunked_delivers protocol).fillsAlike Stream.isBytes_delivers) interpreter plan names
    state ⟨chunks.flatten, holds, rfl⟩
  obtain ⟨_, _, _, _, left, ⟨rest, rest_nonempty, rfl, rfl⟩, taken⟩ := parseStream_rest interpreter
    (Stream.isChunked_delivers protocol) plan names state holds
  rw [chunked] at left
  cases left
  have bytes : (plan.parseBytes interpreter names chunks.flatten).run state = (result, state') := by
    simp only [parseBytes, ExceptT.run_mk, flat]
  exact ⟨result, state', rest, chunked, bytes, bytes, fun _ => bytes, bytes, rest_nonempty, taken⟩

def tagged : Plan where
  target := .entries
  fields := [⟨none, ⟨[.exact 0x48], .hex⟩, none, none, none⟩,
    ⟨some (.name "a"), ⟨[.wildcard, .wildcard], .hex⟩, none, none, none⟩]
  rest := none
  scope := .empty
  reader := none
  name := .str "tagged"

theorem parseStream_ofChunks_tagged :
    (∀ chunk ∈ ([[0x48, 0x01], [0x02, 0x03], [0x04]] : List (List UInt8)), chunk ≠ []) ∧
    ∃ rest, tagged.parseStream .standard .empty
        (Stream.ofChunks .returns [[0x48, 0x01], [0x02, 0x03], [0x04]]) (fun _ => 0) =
      ((.ok ⟨.ok (.dict [(.str "a", .bytes [0x01, 0x02])]), 3⟩, Stream.ofChunks .returns rest),
        fun _ => 0) ∧
      rest.flatten = [0x03, 0x04] := by
  have nonempty : ∀ chunk ∈ ([[0x48, 0x01], [0x02, 0x03], [0x04]] : List (List UInt8)),
      chunk ≠ [] := by
    decide
  obtain ⟨result, state', rest, chunked, bytes, -, -, -, -, taken⟩ := parseStream_ofChunks
    .standard tagged .empty (fun _ => 0) .returns _ nonempty
  have whole : (tagged.parseBytes .standard .empty [0x48, 0x01, 0x02, 0x03, 0x04]).run
      (fun _ => 0) = (.ok ⟨.ok (.dict [(.str "a", .bytes [0x01, 0x02])]), 3⟩, fun _ => 0) := by
    with_unfolding_all rfl
  cases whole.symm.trans bytes
  exact ⟨nonempty, rest, chunked, taken _ rfl⟩

end Plan
end ByteRecord
