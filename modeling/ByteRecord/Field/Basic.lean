import ByteRecord.Expr.Embedded
import ByteRecord.Pattern.Forms
import ByteRecord.Text.Identifier
import ByteRecord.Value.Convert
import ByteRecord.Value.Attribute

/-! Which parts make a field, and how fields are displayed. -/
namespace ByteRecord

namespace Member

def toValue : Member → Value
  | .name text => .str text
  | .position k => .int k

def name? : Member → Option String
  | .name text => some text
  | .position _ => none

def position? : Member → Option Nat
  | .name _ => none
  | .position k => some k

end Member

/-- The name of a function, or the text of an expression. -/
def Transform.text : Transform → Except Failure String
  | .expression e => match e.source with
    | .str source => .ok source
    | _ => .error .type
  | .function f => match f.attribute? "__name__" with
    | some (.str name) => .ok name
    | _ => Value.written Value.plainText f

namespace Field

private def memberOf (location : Option Source.Location) (member : Value) :
    Except Fault Member :=
  let refuse (cause : Cause) : Except Fault Member := .error (.ofCauseAt location .field cause)
  match member with
  | .int position =>
    if position < 0 then refuse (.negativeMember position) else .ok (.position position.toNat)
  | .str name => if Text.isFreeName name then .ok (.name name) else refuse (.memberNotName name)
  | other => refuse (.invalidMember other)

private def bindingOf (location : Option Source.Location) (binding : Value)
    (hasTransform : Bool) : Except Fault (Option String) :=
  let refuse (cause : Cause) : Except Fault (Option String) :=
    .error (.ofCauseAt location .field cause)
  match binding with
  | .none => .ok none
  | .str name =>
    if !Text.isFreeName name then refuse (.bindingNotName name)
    else if !hasTransform then refuse .bindingWithoutTransform
    else .ok (some name)
  | _ => .error (.failure .attribute)

/-- A field from its parts, if they go together: the pattern has a fixed length, a field without a
member has neither binding nor transform, and a binding has a transform. -/
def ofParts (member : Value) (pattern : Pattern) (binding : Value) (transform : Option Transform)
    (location : Option Source.Location) : Except Fault Field := do
  if pattern.hasRanges then throw (.ofCauseAt location .field .range)
  match member, binding, transform with
  | .none, .none, none => return ⟨none, pattern, none, none, location⟩
  | .none, _, _ => throw (.ofCauseAt location .field .skipWithTransform)
  | member, binding, transform =>
    let member ← memberOf location member
    let binding ← bindingOf location binding transform.isSome
    return ⟨some member, pattern, binding, transform, location⟩

/-- The member that a value stands for: none, a free name, or a position. -/
inductive IsMemberOf : Value → Option Member → Prop
  | none : IsMemberOf .none none
  | name (free : Text.isFreeName name) : IsMemberOf (.str name) (some (.name name))
  | position (k : Nat) : IsMemberOf (.int k) (some (.position k))

/-- The binding that a value stands for: none or a free name. -/
inductive IsBindingOf : Value → Option String → Prop
  | none : IsBindingOf .none none
  | name (free : Text.isFreeName name) : IsBindingOf (.str name) (some name)

private theorem memberOf_ok_iff (location : Option Source.Location) {value : Value}
    {member : Member} :
    memberOf location value = .ok member ↔ IsMemberOf value (some member) := by
  constructor
  · intro read
    unfold memberOf at read
    extract_lets refuse at read
    split at read
    · next position =>
      split at read
      · cases read
      · next natural =>
        cases read
        have same : position = (position.toNat : Int) := by omega
        rw [same]
        exact .position _
    · split at read
      · next free =>
        cases read
        exact .name free
      · cases read
    · cases read
  · intro denoted
    cases denoted with
    | name free => simp only [memberOf, free, if_true]
    | position k =>
      have natural : ¬((k : Int) < 0) := by omega
      simp only [memberOf, natural, if_false, Int.toNat_natCast]

private theorem bindingOf_ok_iff (location : Option Source.Location) {value : Value}
    {binding : Option String} (hasTransform : Bool) :
    bindingOf location value hasTransform = .ok binding ↔
      IsBindingOf value binding ∧ (binding.isSome → hasTransform) := by
  constructor
  · intro read
    unfold bindingOf at read
    extract_lets refuse at read
    split at read
    · cases read
      exact ⟨.none, nofun⟩
    · next name =>
      split at read
      · cases read
      · next free =>
        split at read
        · cases read
        · next some_transform =>
          cases read
          simp only [Bool.not_eq_true', Bool.not_eq_false] at free some_transform
          exact ⟨.name free, fun _ => some_transform⟩
    · cases read
  · rintro ⟨denoted, needs⟩
    cases denoted with
    | none => rfl
    | name free => simp only [bindingOf, free, needs rfl, Bool.not_true, Bool.false_eq_true, if_false]

/-- The parts that go together, and the field that they make. -/
theorem ofParts_ok_iff {value given : Value} {pattern : Pattern} {transform : Option Transform}
    {location : Option Source.Location} {field : Field} :
    ofParts value pattern given transform location = .ok field ↔
      pattern.hasRanges = false ∧ ∃ member binding, IsMemberOf value member ∧
        IsBindingOf given binding ∧ (member = none → binding = none ∧ transform = none) ∧
        (binding.isSome → transform.isSome) ∧
        field = ⟨member, pattern, binding, transform, location⟩ := by
  cases ranges : pattern.hasRanges with
  | true =>
    simp only [ofParts, ranges, if_true]
    exact ⟨nofun, nofun⟩
  | false =>
    simp only [ofParts, ranges, Bool.false_eq_true, if_false, true_and]
    -- the parts of a field without a member are looked at before any of them is read
    constructor
    · intro made
      split at made
      · cases made
        exact ⟨none, none, .none, .none, fun _ => ⟨rfl, rfl⟩, nofun, rfl⟩
      · cases made
      · obtain ⟨member, read, made⟩ := bind_ok_iff.mp made
        obtain ⟨binding, read', made⟩ := bind_ok_iff.mp made
        obtain ⟨denoted, needs⟩ := (bindingOf_ok_iff location _).mp read'
        cases made
        exact ⟨some member, binding, (memberOf_ok_iff location).mp read, denoted, nofun, needs, rfl⟩
    · rintro ⟨member, binding, denoted, bound, alone, needs, rfl⟩
      cases denoted with
      | none =>
        obtain ⟨rfl, rfl⟩ := alone rfl
        cases bound
        rfl
      | name free =>
        exact bind_ok_iff.mpr ⟨_, (memberOf_ok_iff location).mpr (.name free),
          bind_ok_iff.mpr ⟨_, (bindingOf_ok_iff location _).mpr ⟨bound, needs⟩, rfl⟩⟩
      | position k =>
        exact bind_ok_iff.mpr ⟨_, (memberOf_ok_iff location).mpr (.position k),
          bind_ok_iff.mpr ⟨_, (bindingOf_ok_iff location _).mpr ⟨bound, needs⟩, rfl⟩⟩

/-- What a text may give as a member, be it one or not. -/
inductive IsMemberText : Value → Prop
  | none : IsMemberText .none
  | name (name : String) : IsMemberText (.str name)
  | position (k : Nat) : IsMemberText (.int k)

/-- What a text may give as a binding, be it one or not. -/
inductive IsBindingText : Value → Prop
  | none : IsBindingText .none
  | name (name : String) : IsBindingText (.str name)

private theorem memberOf_refused {location : Option Source.Location} {value : Value}
    (text : IsMemberText value) (other : value ≠ .none)
    (refused : memberOf location value = .error fault) :
    ∃ cause : Cause, cause.isWritable = true ∧ fault = .ofCauseAt location .field cause := by
  cases text with
  | none => exact absurd rfl other
  | name name =>
    rw [memberOf] at refused
    split at refused
    · cases refused
    · exact ⟨.memberNotName name, rfl, (Except.error.inj refused).symm⟩
  | position k =>
    have natural : ¬((k : Int) < 0) := by omega
    rw [memberOf, if_neg natural] at refused
    cases refused

private theorem bindingOf_refused {location : Option Source.Location} {value : Value}
    {hasTransform : Bool} (text : IsBindingText value)
    (refused : bindingOf location value hasTransform = .error fault) :
    ∃ cause : Cause, cause.isWritable = true ∧ fault = .ofCauseAt location .field cause := by
  cases text with
  | none => cases refused
  | name name =>
    rw [bindingOf] at refused
    split at refused
    · exact ⟨.bindingNotName name, rfl, (Except.error.inj refused).symm⟩
    · split at refused
      · exact ⟨.bindingWithoutTransform, rfl, (Except.error.inj refused).symm⟩
      · cases refused

/-- Parts from a text that do not go together are refused with an error that can be written. -/
theorem ofParts_refused {value given : Value} {pattern : Pattern} {transform : Option Transform}
    {location : Option Source.Location} (text : IsMemberText value) (bound : IsBindingText given)
    (refused : ofParts value pattern given transform location = .error fault) :
    ∃ cause : Cause, cause.isWritable = true ∧ fault = .ofCauseAt location .field cause := by
  cases ranges : pattern.hasRanges with
  | true =>
    simp only [ofParts, ranges, if_true] at refused
    exact ⟨.range, rfl, (Except.error.inj refused).symm⟩
  | false =>
    simp only [ofParts, ranges, Bool.false_eq_true, if_false] at refused
    split at refused
    · cases refused
    · exact ⟨.skipWithTransform, rfl, (Except.error.inj refused).symm⟩
    · next some_member _ =>
      rcases bind_error_iff.mp refused with failed | ⟨member, -, refused⟩
      · exact memberOf_refused text some_member failed
      · rcases bind_error_iff.mp refused with failed | ⟨binding, -, refused⟩
        · exact bindingOf_refused bound failed
        · cases refused

/-- The pattern of a field; what is wrong with it is wrong with the field. -/
private def patternOf (given : Pattern.Given) : Except Fault Pattern :=
  given.toPattern.mapError (.mapSpecification fun error =>
    if error.kind == .pattern then { error with kind := .field, location := none } else error)

/-- A field whose value is stored. -/
def bound (member : Value) (given : Pattern.Given) (transform : Option Transform)
    (binding : Value) : Except Fault Field :=
  match member with
  | .none | .str "_" => .error (.ofCause .field .boundWithoutMember)
  | member => do ofParts member (← patternOf given) binding transform none

/-- A field that is matched and then discarded. -/
def skip (given : Pattern.Given) : Except Fault Field := do
  ofParts .none (← patternOf given) .none none none

/-- How a field is displayed: `a: raw @ [01, __] => raw[0]`. -/
def text (field : Field) : Except Failure String := do
  let member ← match field.member with
    | some member => Value.written Value.plainText member.toValue
    | none => .ok "_"
  let binding := match field.binding with
    | some name => name ++ " @ "
    | none => ""
  let transform ← match field.transform with
    | some transform => transform.text.map (" => " ++ ·)
    | none => .ok ""
  return member ++ ": " ++ binding ++ field.pattern.text ++ transform

end Field
end ByteRecord
