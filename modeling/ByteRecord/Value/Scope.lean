import ByteRecord.Value.Basic

/-! Named values. -/
namespace ByteRecord

/-- Names and their values; the first entry of a name counts. -/
structure Scope where
  entries : List (String × Value)

namespace Scope

def empty : Scope := ⟨[]⟩

def get? (scope : Scope) (name : String) : Option Value :=
  (scope.entries.find? (·.1 == name)).map (·.2)

def set (scope : Scope) (name : String) (value : Value) : Scope :=
  ⟨(name, value) :: scope.entries.filter (·.1 != name)⟩

/-- The names of both scopes; those of `upper` hide equal ones of `lower`. -/
def layer (lower upper : Scope) : Scope :=
  ⟨upper.entries ++ lower.entries.filter fun entry => (upper.get? entry.1).isNone⟩

/-- The names, each once, in the order of their code points. -/
def names (scope : Scope) : List String :=
  (scope.entries.map (·.1)).eraseDups.mergeSort fun a b => !(b < a)

theorem get?_set_self (scope : Scope) (name : String) (value : Value) :
    (scope.set name value).get? name = some value := by
  simp [get?, set]

theorem get?_set_of_ne (scope : Scope) {name other : String} (value : Value) (h : other ≠ name) :
    (scope.set name value).get? other = scope.get? other := by
  have hn : (name == other) = false := by simpa using Ne.symm h
  have hf (entries : List (String × Value)) :
      (entries.filter (·.1 != name)).find? (·.1 == other) = entries.find? (·.1 == other) := by
    induction entries with
    | nil => rfl
    | cons entry rest ih =>
      by_cases he : entry.1 = name
      · have ho : (entry.1 == other) = false := by rw [he]; exact hn
        rw [List.filter_cons_of_neg (by simp [he]), List.find?_cons_of_neg (by simp [ho]), ih]
      · rw [List.filter_cons_of_pos (by simp [he]), List.find?_cons, List.find?_cons, ih]
  simp only [get?, set, List.find?_cons, hn, hf]

theorem layer_empty (scope : Scope) : scope.layer .empty = scope := by
  have kept : scope.entries.filter (fun entry => (empty.get? entry.1).isNone) = scope.entries :=
    List.filter_eq_self.mpr fun _ _ => rfl
  rw [layer, kept]
  rfl

end Scope
end ByteRecord
