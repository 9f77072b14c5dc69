import ByteRecord.Proofs.Catalogue.Identified
import ByteRecord.Proofs.Stream.OwnBytes

/-! Identification by the head of a file. A plan looks at no byte behind the size of its record, so
cutting data there, or anywhere behind, changes no outcome; and the reach of an identifier is as
large as the size of each of its plans. -/
namespace ByteRecord

namespace Plan

theorem parseBytes_take (interpreter : Interpreter σ) (plan : Plan) (names : Scope)
    (data : List UInt8) (enough : plan.size ≤ n) :
    plan.parseBytes interpreter names (data.take n) = plan.parseBytes interpreter names data := by
  rcases Nat.le_total data.length n with whole | cut
  · rw [List.take_of_length_le whole]
  · have size : (data.take plan.size).length = plan.size := by
      rw [List.length_take]
      omega
    have own : (data.take n).take plan.size = data.take plan.size := by
      rw [List.take_take, Nat.min_eq_left enough]
    have head : Stream.IsBytes (.bytes (data.take n))
        (data.take plan.size ++ (data.take n).drop plan.size) := by
      rw [← own, List.take_append_drop, Stream.IsBytes]
    have all : Stream.IsBytes (.bytes data) (data.take plan.size ++ data.drop plan.size) := by
      rw [List.take_append_drop, Stream.IsBytes]
    refine ExceptT.ext (funext fun state => ?_)
    obtain ⟨result, state', first, second, run, run', -⟩ := parseStream_own
      Stream.isBytes_delivers Stream.isBytes_delivers interpreter plan names state size head all
    simp only [parseBytes, ExceptT.run_mk, run, run']

end Plan

namespace Catalogue.Identifier

theorem size_le_reach {identifier : Identifier} (member : (format, plan) ∈ identifier.plans) :
    plan.size ≤ identifier.reach :=
  (Plan.le_foldl_max (identifier.plans.map (·.2.size)) 0).2 _ (List.mem_map_of_mem (f := fun entry => entry.2.size) member)

theorem outcomes_take (interpreter : Interpreter σ) (identifier : Identifier) (data : List UInt8)
    (enough : ∀ entry ∈ identifier.plans, entry.2.size ≤ n) :
    identifier.outcomes interpreter (data.take n) = identifier.outcomes interpreter data := by
  obtain ⟨plans⟩ := identifier
  induction plans with
  | nil => rfl
  | cons entry plans ih =>
    obtain ⟨own, enough⟩ := List.forall_mem_cons.mp enough
    have first := entry.2.parseBytes_take interpreter .empty data own
    have later := ih enough
    simp only [outcomes] at later ⊢
    rw [List.mapM_cons, List.mapM_cons, first, later]

/-- Identifying a file by its head comes to the same as identifying its whole content, in the result
and in the state; and so does parsing enough of the first bytes of data, for a single plan. -/
theorem identifyFile_eq_identify (interpreter : Interpreter σ) :
    (∀ (identifier : Identifier) (content : List UInt8),
      identifier.identifyFile interpreter content = identifier.identify interpreter content) ∧
    ∀ (plan : Plan) (names : Scope) (data : List UInt8) (n : Nat), plan.size ≤ n →
      plan.parseBytes interpreter names (data.take n) = plan.parseBytes interpreter names data := by
  refine ⟨fun identifier content => ?_, fun plan names data n =>
    plan.parseBytes_take interpreter names data⟩
  rw [identifyFile, identify, identify,
    outcomes_take interpreter identifier content fun entry => size_le_reach]

/-- Of six bytes four are read, as many as the largest format has; it is the one that is not found.
Three bytes of five are enough for a record of three. -/
theorem identifyFile_eq_identify_wide :
    (∃ identifier, let formats := [Format.wide "a" 1, .wide "b" 3,
        .ofMatchers "c" [.exact 0x49, .wildcard, .wildcard, .wildcard]]
      (build .standard formats .empty).run (fun _ => 0) = (.ok identifier, fun _ => 0) ∧
      identifier.reach = 4 ∧
      (identifier.identifyFile .standard [0x48, 0x01, 0x02, 0x03, 0x04, 0x05]).run (fun _ => 0) =
        (.ok [.wide "b" 3, .wide "a" 1], fun _ => 0)) ∧
    Plan.tagged.size ≤ 3 ∧
    (Plan.tagged.parseBytes .standard .empty ([0x48, 0x01, 0x02, 0x03, 0x04].take 3)).run
        (fun _ => 0) =
      (.ok ⟨.ok (.dict [(.str "a", .bytes [0x01, 0x02])]), 3⟩, fun _ => 0) := by
  obtain ⟨whole, cut⟩ := identifyFile_eq_identify .standard
  refine ⟨⟨_, rfl, rfl, ?_⟩, by decide, ?_⟩
  · have undisturbed : ∀ format ∈ [Format.wide "a" 1, .wide "b" 3,
        .ofMatchers "c" [.exact 0x49, .wildcard, .wildcard, .wildcard]],
        format.Undisturbed .standard .empty (fun _ => 0) [0x48, 0x01, 0x02, 0x03, 0x04, 0x05] := by
      simp only [List.forall_mem_cons]
      exact ⟨Format.undisturbed_ofMatchers rfl rfl _, Format.undisturbed_ofMatchers rfl rfl _,
        Format.undisturbed_ofMatchers rfl rfl _, List.forall_mem_nil _⟩
    have parsing : [Format.wide "a" 1, .wide "b" 3,
        .ofMatchers "c" [.exact 0x49, .wildcard, .wildcard, .wildcard]].filter
          (·.parses .standard .empty (fun _ => 0) [0x48, 0x01, 0x02, 0x03, 0x04, 0x05]) =
        [.wide "a" 1, .wide "b" 3] := by
      with_unfolding_all rfl
    have ranked : bySize [Format.wide "a" 1, .wide "b" 3] = [.wide "b" 3, .wide "a" 1] :=
      (Ranked.bySize _).unique ((Ranked.nil.snoc (.wide "a" 1)).snoc (.wide "b" 3))
    rw [whole, run_identify rfl undisturbed, parsing, ranked]
  · rw [cut Plan.tagged .empty _ 3 (by decide)]
    with_unfolding_all rfl

end Catalogue.Identifier
end ByteRecord
