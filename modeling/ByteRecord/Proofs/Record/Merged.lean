import ByteRecord.Plan.Assemble

/-! Named values over a mapping. The keys of the mapping keep their places and the other names follow
in order; each name has its own value, and every other key keeps the one of the mapping. -/
namespace ByteRecord.Plan

section
variable {given own : List (String × Value)} {name other : String} {value kept : Value}

theorem any_key_iff : given.any (·.1 == name) = true ↔ name ∈ given.map (·.1) := by
  simp only [List.any_eq_true, beq_iff_eq, List.mem_map]

theorem setNamed_keys (given : List (String × Value)) (name : String) (value : Value) :
    (setNamed given name value).map (·.1) =
      if name ∈ given.map (·.1) then given.map (·.1) else given.map (·.1) ++ [name] := by
  rw [setNamed]
  by_cases present : name ∈ given.map (·.1)
  · rw [if_pos (any_key_iff.mpr present), if_pos present, List.map_map]
    refine List.map_congr_left fun entry _ => ?_
    dsimp only [Function.comp]
    split <;> rfl
  · rw [if_neg (mt any_key_iff.mp present), if_neg present, List.map_append]
    rfl

theorem mem_setNamed : (other, kept) ∈ setNamed given name value ↔
    (other = name ∧ kept = value) ∨ (other ≠ name ∧ (other, kept) ∈ given) := by
  rw [setNamed]
  by_cases present : name ∈ given.map (·.1)
  · rw [if_pos (any_key_iff.mpr present), List.mem_map]
    constructor
    · rintro ⟨⟨key, old⟩, here, same⟩
      dsimp only at same
      split at same
      · next found =>
        cases same
        exact .inl ⟨eq_of_beq found, rfl⟩
      · next another =>
        cases same
        exact .inr ⟨fun same => another (beq_iff_eq.mpr same), here⟩
    · rintro (⟨rfl, rfl⟩ | ⟨another, here⟩)
      · obtain ⟨⟨_, old⟩, here, rfl⟩ := List.mem_map.mp present
        exact ⟨_, here, if_pos (beq_self_eq_true _)⟩
      · exact ⟨_, here, if_neg (mt eq_of_beq another)⟩
  · rw [if_neg (mt any_key_iff.mp present), List.mem_append, List.mem_singleton, Prod.mk.injEq]
    constructor
    · rintro (here | same)
      · refine .inr ⟨?_, here⟩
        rintro rfl
        exact present (List.mem_map_of_mem here)
      · exact .inl same
    · rintro (same | ⟨-, here⟩)
      · exact .inr same
      · exact .inl here

/-- Named values over a mapping. -/
def merged (given own : List (String × Value)) : List (String × Value) :=
  own.foldl (fun values (name, value) => setNamed values name value) given

theorem merged_cons : merged given ((name, value) :: own) =
    merged (setNamed given name value) own := rfl

theorem merged_keys (once : (own.map (·.1)).Nodup) :
    (merged given own).map (·.1) =
      given.map (·.1) ++ (own.map (·.1)).filter (· ∉ given.map (·.1)) := by
  induction own generalizing given with
  | nil => exact (List.append_nil _).symm
  | cons entry own ih =>
    obtain ⟨name, value⟩ := entry
    obtain ⟨single, once⟩ := List.nodup_cons.mp once
    rw [merged_cons, ih once, setNamed_keys, List.map_cons, List.filter_cons]
    by_cases present : name ∈ given.map (·.1)
    · rw [if_pos present, if_neg (by simpa using present)]
    · -- a later name is another one, so it is among the keys as before
      have later : (own.map (·.1)).filter (· ∉ given.map (·.1) ++ [name]) =
          (own.map (·.1)).filter (· ∉ given.map (·.1)) := by
        refine List.filter_congr fun other here => ?_
        have another : other ≠ name := by
          rintro rfl
          exact single here
        simp only [List.mem_append, List.mem_singleton, another, or_false]
      rw [if_neg present, later, if_pos (decide_eq_true present), List.append_assoc,
        List.singleton_append]

theorem merged_once (distinct : (given.map (·.1)).Nodup) (once : (own.map (·.1)).Nodup) :
    ((merged given own).map (·.1)).Nodup := by
  rw [merged_keys once]
  refine List.nodup_append.mpr ⟨distinct, once.filter _, ?_⟩
  rintro name here _ there rfl
  exact of_decide_eq_true (List.mem_filter.mp there).2 here

theorem mem_merged (once : (own.map (·.1)).Nodup) : (name, value) ∈ merged given own ↔
    (name, value) ∈ own ∨ ((name, value) ∈ given ∧ name ∉ own.map (·.1)) := by
  induction own generalizing given with
  | nil => simp [merged]
  | cons entry own ih =>
    obtain ⟨first, own_value⟩ := entry
    obtain ⟨single, once⟩ := List.nodup_cons.mp once
    rw [merged_cons, ih once, mem_setNamed, List.mem_cons, Prod.mk.injEq, List.map_cons,
      List.mem_cons]
    constructor
    · rintro (here | ⟨⟨rfl, rfl⟩ | ⟨another, here⟩, absent⟩)
      · exact .inl (.inr here)
      · exact .inl (.inl ⟨rfl, rfl⟩)
      · exact .inr ⟨here, fun present => present.elim another absent⟩
    · rintro ((⟨rfl, rfl⟩ | here) | ⟨here, absent⟩)
      · exact .inr ⟨.inl ⟨rfl, rfl⟩, single⟩
      · exact .inl here
      · exact .inr ⟨.inr ⟨fun same => absent (.inl same), here⟩, fun present => absent (.inr present)⟩

/-- The mapping that a list of named values is given as. -/
def textEntries (given : List (String × Value)) : List (Value × Value) :=
  given.map fun entry => (.str entry.1, entry.2)

theorem namedEntries_textEntries (given : List (String × Value)) :
    namedEntries (textEntries given) = .ok given := by
  induction given with
  | nil => rfl
  | cons entry given ih =>
    rw [namedEntries, textEntries] at ih
    rw [namedEntries, textEntries, List.map_cons, List.mapM_cons, ih]
    rfl

/-- A mapping fills in a record with named values over its own. -/
theorem fillFromRest_textEntries (interpreter : Interpreter σ) (target : Target)
    (given : List (String × Value)) (args : List Value) (own : List (String × Value)) :
    fillFromRest interpreter target (.dict (textEntries given)) args own =
      construct interpreter target ⟨args, merged given own⟩ := by
  rw [fillFromRest, namedEntries_textEntries]
  rfl

end
end ByteRecord.Plan
