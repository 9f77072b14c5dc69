import Mathlib.Data.List.Forall2
import ByteRecord.Proofs.Effect.Unchanged

/-! Records that differ in the value of one member. What is passed on to make the record differs in
that value and in nothing else. -/
namespace ByteRecord

/-- The same keys in the same order, and the same values but for those of one key. -/
def AlikeBut {key : Type} (odd : Option key) : List (key × Value) → List (key × Value) → Prop :=
  List.Forall₂ fun first second => first.1 = second.1 ∧ (odd ≠ some first.1 → first.2 = second.2)

namespace AlikeBut
variable {key : Type} {odd : Option key} {first second : List (key × Value)}

theorem refl (values : List (key × Value)) : AlikeBut odd values values :=
  List.forall₂_same.mpr fun _ _ => ⟨rfl, fun _ => rfl⟩

theorem append {first' second' : List (key × Value)} (alike : AlikeBut odd first second)
    (alike' : AlikeBut odd first' second') : AlikeBut odd (first ++ first') (second ++ second') :=
  List.rel_append alike alike'

theorem mono {odd' : Option key} (alike : AlikeBut odd first second)
    (covers : ∀ name, odd = some name → odd' = some name) : AlikeBut odd' first second :=
  List.Forall₂.imp (fun _ _ same => ⟨same.1, fun other => same.2 fun own => other (covers _ own)⟩)
    alike

theorem any_eq (alike : AlikeBut odd first second) (holds : key → Bool) :
    (first.any fun entry => holds entry.1) = second.any fun entry => holds entry.1 := by
  induction alike with
  | nil => rfl
  | cons same _ ih => rw [List.any_cons, List.any_cons, same.1, ih]

theorem all_eq (alike : AlikeBut odd first second) (holds : key → Bool) :
    (first.all fun entry => holds entry.1) = second.all fun entry => holds entry.1 := by
  induction alike with
  | nil => rfl
  | cons same _ ih => rw [List.all_cons, List.all_cons, same.1, ih]

theorem find?_eq [DecidableEq key] {name : key} (alike : AlikeBut odd first second)
    (other : odd ≠ some name) : first.find? (·.1 == name) = second.find? (·.1 == name) := by
  induction alike with
  | nil => rfl
  | @cons a b first second same _ ih =>
    by_cases found : a.1 = name
    · have equal : a = b := Prod.ext same.1 (same.2 (found ▸ other))
      rw [equal] at found ⊢
      rw [List.find?_cons_of_pos (by simpa using found), List.find?_cons_of_pos (by simpa using found)]
    · rw [List.find?_cons_of_neg (by simpa using found),
        List.find?_cons_of_neg (by simpa using same.1 ▸ found), ih]

end AlikeBut

/-- The same arguments but for the value of one member. -/
structure Value.Arguments.AlikeBut (odd : Option Member) (first second : Value.Arguments) :
    Prop where
  count : first.positional.length = second.positional.length
  positional : ∀ k, odd ≠ some (.position k) → first.positional[k]? = second.positional[k]?
  named : ByteRecord.AlikeBut (odd.bind Member.name?) first.named second.named

namespace Plan

/-- The part of a record that a member stands for, by its name or by the place of the part. -/
def partOf (parts : List String) : Member → Option String
  | .name name => some name
  | .position k => parts[k]?

/-- Two records, or failures to make one, that differ in the value of one member at most: the target, or
the class of a record that is copied, is given arguments that differ in that, or a record is changed that
differs in that part. -/
inductive MadeAlike (interpreter : Interpreter σ) (target : Target) (world : World σ)
    (odd : Option Member) : Except Fault Value × World σ → Except Fault Value × World σ → Prop
  | same (made : Except Fault Value × World σ) : MadeAlike interpreter target world odd made made
  | passed {arguments arguments' : Value.Arguments} (alike : arguments.AlikeBut odd arguments') :
    MadeAlike interpreter target world odd ((construct interpreter target arguments).run world)
      ((construct interpreter target arguments').run world)
  | copied {t : Value.RecordType} {parts named named' : List (String × Value)}
    (alike : AlikeBut (odd.bind (partOf (parts.map (·.1)))) named named') :
    MadeAlike interpreter target world odd
      ((Effect.call interpreter (.type (.record t)) ⟨[], named⟩).run world)
      ((Effect.call interpreter (.type (.record t)) ⟨[], named'⟩).run world)
  | changed {parts parts' : List (String × Value)}
    (alike : AlikeBut (odd.bind (partOf (parts.map (·.1)))) parts parts') :
    MadeAlike interpreter target world odd (.ok (.record kind parts), world)
      (.ok (.record kind parts'), world)

section
variable {first second : List (String × Value)} {odd : Option String}

theorem setNamed_alike (alike : AlikeBut odd first second) {name : String} {value value' : Value}
    (same : odd ≠ some name → value = value') :
    AlikeBut odd (setNamed first name value) (setNamed second name value') := by
  unfold setNamed
  rw [alike.any_eq (· == name)]
  split
  · refine List.rel_map ?_ alike
    rintro ⟨key, old⟩ ⟨key', old'⟩ ⟨rfl, kept⟩
    dsimp only
    split
    · next found =>
      rw [beq_iff_eq] at found
      exact ⟨rfl, fun other => same (found ▸ other)⟩
    · exact ⟨rfl, kept⟩
  · exact alike.append (.cons ⟨rfl, same⟩ .nil)

theorem foldl_setNamed_alike (own : AlikeBut odd first second) (given : List (String × Value)) :
    AlikeBut odd (first.foldl (fun values (name, value) => setNamed values name value) given)
      (second.foldl (fun values (name, value) => setNamed values name value) given) := by
  have onto {given given' : List (String × Value)} (alike : AlikeBut odd given given') :
      AlikeBut odd (first.foldl (fun values (name, value) => setNamed values name value) given)
        (second.foldl (fun values (name, value) => setNamed values name value) given') := by
    induction own generalizing given given' with
    | nil => exact alike
    | @cons a b first second same _ ih =>
      obtain ⟨name, value⟩ := a
      obtain ⟨name', value'⟩ := b
      obtain ⟨rfl, kept⟩ := same
      exact ih (setNamed_alike alike kept)
  exact onto (.refl given)

theorem replaceParts_alike (alike : AlikeBut odd first second) (parts : List (String × Value)) :
    (∃ failure, Value.replaceParts parts first = .error failure ∧
      Value.replaceParts parts second = .error failure) ∨
    ∃ changed changed', Value.replaceParts parts first = .ok changed ∧
      Value.replaceParts parts second = .ok changed' ∧ changed.map (·.1) = parts.map (·.1) ∧
      AlikeBut odd changed changed' := by
  unfold Value.replaceParts
  rw [alike.all_eq fun name => parts.any (·.1 == name)]
  split
  · refine .inr ⟨_, _, rfl, rfl, ?_, ?_⟩
    · rw [List.map_map]
      rfl
    · refine List.forall₂_map_left_iff.mpr (List.forall₂_map_right_iff.mpr ?_)
      refine List.forall₂_same.mpr fun part _ => ⟨rfl, fun other => ?_⟩
      dsimp only
      rw [alike.find?_eq other]
  · exact .inl ⟨_, rfl, rfl⟩

end

section
variable {arguments arguments' : Value.Arguments} {odd : Option Member}

theorem changes_alike (alike : arguments.AlikeBut odd arguments') (names : List String) :
    (∃ failure, changes names arguments.positional arguments.named = .error failure ∧
      changes names arguments'.positional arguments'.named = .error failure) ∨
    ∃ changed changed', changes names arguments.positional arguments.named = .ok changed ∧
      changes names arguments'.positional arguments'.named = .ok changed' ∧
      AlikeBut (odd.bind (partOf names)) changed changed' := by
  have by_place : AlikeBut (odd.bind (partOf names)) (names.zip arguments.positional)
      (names.zip arguments'.positional) := by
    refine List.forall₂_iff_get.mpr ⟨?_, fun i within within' => ?_⟩
    · rw [List.length_zip, List.length_zip, alike.count]
    · rw [List.get_eq_getElem, List.get_eq_getElem, List.getElem_zip, List.getElem_zip]
      refine ⟨rfl, fun other => ?_⟩
      rw [List.length_zip, Nat.lt_min] at within within'
      have here := alike.positional i (by
        rintro rfl
        exact other (List.getElem?_eq_getElem within.1))
      rwa [List.getElem?_eq_getElem within.2, List.getElem?_eq_getElem within'.2,
        Option.some.injEq] at here
  have by_name : AlikeBut (odd.bind (partOf names)) arguments.named arguments'.named := by
    refine alike.named.mono fun name own => ?_
    cases odd with
    | none => cases own
    | some member =>
      cases member with
      | position k => cases own
      | name other => exact own
  have clash : (arguments.named.any fun (name, _) =>
        (names.zip arguments.positional).any (·.1 == name)) =
      arguments'.named.any fun (name, _) => (names.zip arguments'.positional).any (·.1 == name) := by
    rw [by_name.any_eq fun name => (names.zip arguments.positional).any (·.1 == name)]
    congr 1
    funext entry
    exact by_place.any_eq (· == entry.1)
  unfold changes
  dsimp only
  rw [clash]
  split
  · exact .inl ⟨_, rfl, rfl⟩
  · exact .inr ⟨_, _, rfl, rfl, by_place.append by_name⟩

variable (interpreter : Interpreter σ) (target : Target) (world : World σ)

theorem copyArguments_alike {odd : Option String} {changed changed' : List (String × Value)}
    (alike : AlikeBut odd changed changed') (parts : List (String × Value)) :
    AlikeBut odd (copyArguments parts changed).named (copyArguments parts changed').named := by
  have untouched : (parts.filter fun (name, _) => !changed.any (·.1 == name)) =
      parts.filter fun (name, _) => !changed'.any (·.1 == name) := by
    congr 1
    funext part
    exact congrArg (!·) (alike.any_eq (· == part.1))
  rw [copyArguments, copyArguments, untouched]
  exact alike.append (.refl _)

theorem fillFromRest_alike (alike : arguments.AlikeBut odd arguments') (rest : Value) :
    MadeAlike interpreter target world odd
      ((fillFromRest interpreter target rest arguments.positional arguments.named).run world)
      ((fillFromRest interpreter target rest arguments'.positional arguments'.named).run world) := by
  unfold fillFromRest
  split
  · next entries =>
    cases namedEntries entries with
    | error failure => exact .same _
    | ok given => exact .passed ⟨alike.count, alike.positional, foldl_setNamed_alike alike.named given⟩
  · next t parts =>
    have changed := changes_alike alike (parts.map (·.1))
    split
    · simp only [run_bind, run_lift]
      rcases changed with ⟨failure, first, second⟩ | ⟨changed, changed', first, second, within⟩
      · rw [first, second]
        exact .same _
      · rw [first, second]
        exact .copied (copyArguments_alike within parts)
    · simp only [run_bind, run_lift]
      rcases changed with ⟨failure, first, second⟩ | ⟨changed, changed', first, second, within⟩
      · rw [first, second]
        exact .same _
      · rw [first, second]
        dsimp only [Effect.ofResult_ok]
        rcases replaceParts_alike within parts with
          ⟨failure, first, second⟩ | ⟨made, made', first, second, names, alike⟩
        · rw [first, second]
          exact .same _
        · rw [first, second]
          exact .changed (names ▸ alike)
    · exact .same _
  · exact .same _
  · exact .same _

theorem assemble_alike {plan : Plan} {members members' : Members}
    (alike : Value.Arguments.AlikeBut odd ⟨positional members, named members⟩
      ⟨positional members', named members'⟩)
    (free : plan.SideEffectFree interpreter world) :
    MadeAlike interpreter plan.target world odd ((plan.assemble interpreter members).run world)
      ((plan.assemble interpreter members').run world) := by
  unfold Plan.assemble
  dsimp only
  split
  · exact .passed alike
  · exact fillFromRest_alike interpreter plan.target world alike _
  · next e given =>
    rw [run_bind, run_bind, (free.rest e given).run_eq]
    cases ((Effect.evaluate interpreter e.code).run world).1 with
    | error fault => exact .same _
    | ok rest => exact fillFromRest_alike interpreter plan.target world alike rest

end
end Plan
end ByteRecord
