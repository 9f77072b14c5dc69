import Mathlib.Data.List.Nodup
import ByteRecord.Plan.Assemble

/-! Functions that make records of named parts: arguments that cover the parts are sorted to them. -/
namespace ByteRecord

theorem mem_drop_of_place {α : Type} {items : List α} {item : α} (behind : n ≤ k)
    (place : items[k]? = some item) : item ∈ items.drop n := by
  have here : (items.drop n)[k - n]? = some item := by
    rw [List.getElem?_drop, Nat.add_sub_cancel' behind, place]
  exact List.mem_of_getElem? here

/-- Arguments that give a value to every part of a record, by its place or by its name. -/
structure Value.Arguments.Covers (arguments : Value.Arguments) (names : List String) : Prop where
  few : arguments.positional.length ≤ names.length
  known : ∀ entry ∈ arguments.named, entry.1 ∈ names.drop arguments.positional.length
  all : ∀ name ∈ names.drop arguments.positional.length, name ∈ arguments.named.map (·.1)

namespace Plan

theorem find?_of_unique {key : Type} [BEq key] [LawfulBEq key] {entries : List (key × Value)}
    {own : key} (present : (own, value) ∈ entries)
    (unique : ∀ other, (own, other) ∈ entries → other = value) :
    entries.find? (·.1 == own) = some (own, value) := by
  cases found : entries.find? (·.1 == own) with
  | none =>
    have absent := List.find?_eq_none.mp found _ present
    rw [beq_self_eq_true] at absent
    exact absurd rfl absent
  | some entry =>
    obtain ⟨other, kept⟩ := entry
    have same := List.find?_some found
    obtain rfl : other = own := eq_of_beq same
    rw [unique kept (List.mem_of_find?_eq_some found)]

/-- The values of parts in the order of their names; a part without a value is left out. -/
def partsOf (names : List String) (values : List (Option Value)) : List (String × Value) :=
  (names.zip values).filterMap fun part => part.2.map (part.1, ·)

/-- A function makes records of named parts: when every part is given, the arguments are sorted to the
parts, or refused. -/
def MakesRecords (interpreter : Interpreter σ) (function : Value) (kind : Value.RecordType)
    (names : List String) : Prop :=
  ∀ (arguments : Value.Arguments) (state : σ),
    (∀ name ∈ names.drop arguments.positional.length, name ∈ arguments.named.map (·.1)) →
    interpreter.call function arguments state =
      (Effect.ofResult ((arguments.bind names names.length 0 names.length).map fun values =>
        .record kind (partsOf names values)), state)

theorem MakesRecords.run_call {interpreter : Interpreter σ} {function : Value} {kind : Value.RecordType}
    {names : List String} (makes : MakesRecords interpreter function kind names)
    {arguments : Value.Arguments}
    (all : ∀ name ∈ names.drop arguments.positional.length, name ∈ arguments.named.map (·.1))
    (world : World σ) :
    (Effect.call interpreter function arguments).run world =
      (Effect.ofResult ((arguments.bind names names.length 0 names.length).map fun values =>
        .record kind (partsOf names values)), world) := by
  have called := makes arguments world.state all
  simp only [Effect.call, Effect.apart, ExceptT.run_mk, called]

theorem makesRecords_standard {kind : Value.RecordType} (fixed : kind.kind ≠ .loose) :
    MakesRecords .standard (.type (.record kind)) kind kind.parts := by
  intro arguments state _
  have called : Interpreter.standard.call (.type (.record kind)) arguments state =
      (Effect.ofResult (Value.toRecord kind arguments), state) := rfl
  rw [called, Value.toRecord]
  split
  · next loose => exact absurd loose fixed
  all_goals cases arguments.bind kind.parts kind.parts.length 0 kind.parts.length <;> rfl

section
variable {arguments : Value.Arguments} {names : List String} {name : String}

theorem bind_refused (given : name ∈ arguments.named.map (·.1))
    (unknown : name ∉ names.drop arguments.positional.length) (required limit : Nat) :
    arguments.bind names required 0 limit = .error .type := by
  have refused : (arguments.named.all fun entry =>
      (names.drop (max 0 arguments.positional.length)).contains entry.1) = false := by
    obtain ⟨entry, here, rfl⟩ := List.mem_map.mp given
    rw [Nat.zero_max, List.all_eq_false]
    exact ⟨entry, here, by simpa using unknown⟩
  rw [Value.Arguments.bind]
  split
  · rfl
  · exact if_pos (congrArg (! ·) refused)

/-- The value that arguments give to a part at a place. -/
def valueAt (arguments : Value.Arguments) (part : String × Nat) : Option Value :=
  arguments.positional[part.2]?.or ((arguments.named.find? (·.1 == part.1)).map (·.2))

theorem partsOf_zipIdx (names : List String) (arguments : Value.Arguments) :
    partsOf names (names.zipIdx.map (valueAt arguments)) =
      names.zipIdx.filterMap fun part => (valueAt arguments part).map (part.1, ·) := by
  have pairs := calc names.zip (names.zipIdx.map (valueAt arguments))
    _ = (names.zipIdx.map (·.1)).zip (names.zipIdx.map (valueAt arguments)) := by
      rw [List.zipIdx_map_fst]
    _ = names.zipIdx.map fun part => (part.1, valueAt arguments part) := List.zip_map'
  rw [partsOf, pairs, List.filterMap_map]
  rfl

theorem isSome_valueAt (covers : arguments.Covers names) (here : part ∈ names.zipIdx) :
    (valueAt arguments part).isSome := by
  obtain ⟨name, k⟩ := part
  have place := List.mk_mem_zipIdx_iff_getElem?.mp here
  rw [valueAt]
  by_cases within : k < arguments.positional.length
  · rw [List.getElem?_eq_getElem within]
    rfl
  · rw [List.getElem?_eq_none (Nat.not_lt.mp within), Option.none_or, Option.isSome_map,
      List.find?_isSome]
    have later := mem_drop_of_place (Nat.not_lt.mp within) place
    obtain ⟨entry, present, same⟩ := List.mem_map.mp (covers.all name later)
    exact ⟨entry, present, beq_iff_eq.mpr same⟩

theorem bind_covers (covers : arguments.Covers names) (once : (arguments.named.map (·.1)).Nodup) :
    ∃ values, arguments.bind names names.length 0 names.length = .ok values ∧
      (partsOf names values).map (·.1) = names ∧
      (∀ (k : Nat) part value, names[k]? = some part → arguments.positional[k]? = some value →
        (part, value) ∈ partsOf names values) ∧
      ∀ entry ∈ arguments.named, entry ∈ partsOf names values := by
  have accepted : (arguments.named.all fun entry =>
      (names.drop (max 0 arguments.positional.length)).contains entry.1) = true := by
    rw [Nat.zero_max, List.all_eq_true]
    exact fun entry here => by simpa using covers.known entry here
  have complete : ((names.zipIdx.map (valueAt arguments)).take names.length).all Option.isSome =
      true := by
    rw [List.take_of_length_le (Nat.le_of_eq (by rw [List.length_map, List.length_zipIdx])), List.all_map]
    exact List.all_eq_true.mpr fun part here => isSome_valueAt covers here
  refine ⟨names.zipIdx.map (valueAt arguments), ?_, ?_, ?_, ?_⟩
  · rw [Value.Arguments.bind, if_neg (Nat.not_lt.mpr covers.few)]
    exact (if_neg (by rw [accepted]; exact Bool.false_ne_true)).trans (if_pos complete)
  · rw [partsOf_zipIdx, List.map_filterMap]
    have names_kept : ∀ part ∈ names.zipIdx,
        ((valueAt arguments part).map (part.1, ·)).map (·.1) = some part.1 := by
      intro part here
      obtain ⟨value, own⟩ := Option.isSome_iff_exists.mp (isSome_valueAt covers here)
      rw [own]
      rfl
    rw [List.filterMap_congr names_kept, List.filterMap_eq_map', List.zipIdx_map_fst]
  · intro k part value here positional
    rw [partsOf_zipIdx, List.mem_filterMap]
    refine ⟨(part, k), List.mk_mem_zipIdx_iff_getElem?.mpr here, ?_⟩
    rw [valueAt, positional]
    rfl
  · rintro ⟨part, value⟩ here
    obtain ⟨j, place⟩ := List.mem_iff_getElem?.mp (covers.known _ here)
    rw [List.getElem?_drop] at place
    rw [partsOf_zipIdx, List.mem_filterMap]
    refine ⟨(part, _), List.mk_mem_zipIdx_iff_getElem?.mpr place, ?_⟩
    have beyond : arguments.positional[arguments.positional.length + j]? = none :=
      List.getElem?_eq_none (Nat.le_add_right _ _)
    rw [valueAt, beyond, find?_of_unique here fun other there =>
      (Prod.mk.inj (List.inj_on_of_nodup_map once there here rfl)).2]
    rfl

end

end Plan
end ByteRecord
