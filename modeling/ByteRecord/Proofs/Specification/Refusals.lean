import ByteRecord.Proofs.Hex.Language
import ByteRecord.Proofs.Plan.WellFormed
import ByteRecord.Proofs.Source.Reads

/-! Why a specification text is no plan. Whatever is wrong is an error at the start of a token, with
one exception: a number of too many digits can be neither read nor written in a message. -/
namespace ByteRecord
open Source

/-- An element of a list display in a text. -/
def Source.Displays (source : List Char) (element : Expr.Element) : Prop :=
  ∃ text elements, text <:+: source ∧ Expr.Display.ofText (Text.trim text) = .list elements ∧
    element ∈ elements

/-- Why tokens are refused: for an error at the start of one of them, or for a number with too many
digits, be it a position, a literal element, or the value of a computed one. A computed element may
also end the program. -/
inductive Refused (interpreter : Interpreter σ) (scope : Scope) (source : List Char)
    (tokens : List Token) : Fault → Prop
  | located (located : IsLocated tokens fault) : Refused interpreter scope source tokens fault
  | position (present : token ∈ tokens) (number : token.kind = .number)
    (digits : token.text.toList.all Text.isAsciiDigit)
    (unreadable : Number.readInt? token.text.toList = none) :
    Refused interpreter scope source tokens (.failure .value)
  | literal (displayed : Displays source element) (spelt : Pattern.literalInt? element.expr = some n)
    (overlong : Number.isOverlong n) : Refused interpreter scope source tokens (.failure .value)
  | computed (displayed : Displays source element) (compiled : Expr.compile element.text = .ok code)
    (evaluated : (interpreter.evaluateApart code scope state).1 = .ok value)
    (overlong : value.hasOverlong) : Refused interpreter scope source tokens (.failure .value)
  | exits (displayed : Displays source element) (compiled : Expr.compile element.text = .ok code)
    (evaluated : (interpreter.evaluateApart code scope state).1 = .error (.exit className)) :
    Refused interpreter scope source tokens (.exit className)

/-- What an element of a pattern in a text was made of. -/
structure Deferred.Written (source : List Char) (tokens : List Token) (element : Deferred) :
    Prop where
  location : ∃ location, element.location = some location ∧ IsStart tokens location
  origin : ∃ display code, Displays source display ∧ Expr.compile display.text = .ok code ∧
    element.origin = .inl code

/-- What a field in a text was made of. -/
structure Field.Written (source : List Char) (tokens : List Token) (field : Field) : Prop where
  location : ∃ location, field.location = some location ∧ IsStart tokens location
  elements : ∀ element ∈ field.pattern.deferred, element.Written source tokens
  short : ∀ k, field.member = some (.position k) → Number.isOverlong k = false

section
variable {interpreter : Interpreter σ} {scope : Scope} {source : List Char} {tokens : List Token}

theorem Refused.of_scanned (scanned : tokenize source = .ok tokens) :
    Located source tokens (Refused interpreter scope source tokens) :=
  ⟨scanned, fun _ => .located⟩

/-- What is refused needs no other place. -/
theorem Refused.placed (refused : Refused interpreter scope source tokens fault)
    (place : Option Location) :
    fault.mapSpecification (·.locateIfMissing place) = fault := by
  cases refused with
  | located located =>
    obtain ⟨error, location, rfl, at_location, -⟩ := located
    obtain ⟨kind, cause, location, format⟩ := error
    cases at_location
    rfl
  | position | literal | computed | exits => rfl

namespace Pattern
variable {Refused : Fault → Prop} {location : Location}

theorem ofHex_refused {digits : List Char} (refused : ofHex digits = .error fault) :
    ∃ error, fault = .specification error := by
  unfold ofHex ofLexed ofTokens at refused
  split at refused
  · dsimp only at refused
    split at refused
    · cases refused
      exact ⟨_, rfl⟩
    · split at refused
      · cases refused
        exact ⟨_, rfl⟩
      · cases refused
  · next lexed =>
    obtain ⟨error, rfl⟩ := Hex.tokenize_refused lexed
    cases refused
    exact ⟨_, rfl⟩

theorem ofLiteral_refused (located : Located source tokens Refused) (start : IsStart tokens location)
    {literal : String} (refused : ofLiteral literal location = .error fault) : Refused fault := by
  unfold ofLiteral at refused
  extract_lets text read at refused
  clear_value read
  split at refused
  · cases refused
  · obtain ⟨raised, own, rfl⟩ := mapError_error_iff.mp refused
    obtain ⟨error, rfl⟩ := ofHex_refused own
    exact located.located _ ⟨_, location, rfl, rfl, start⟩
  · cases refused
    exact located.refuse start .pattern rfl

theorem exactByte_refused (refused : exactByte value = .error fault) :
    fault = .ofCause .pattern (.byteOutOfRange value) := by
  unfold exactByte at refused
  split at refused
  · cases refused
  · exact (Except.error.inj refused).symm

theorem elementMatcher_refused {element : Expr.Element}
    (located : Located source tokens (ByteRecord.Refused interpreter scope source tokens))
    (start : IsStart tokens location)
    (displayed : Displays source element)
    (refused : elementMatcher location element = .error fault) :
    ByteRecord.Refused interpreter scope source tokens fault := by
  unfold elementMatcher at refused
  extract_lets text refuse at refused
  split at refused
  · cases refused
    exact located.refuse start .pattern rfl
  · split at refused
    · cases refused
    · cases refused
      exact located.refuse start .pattern rfl
    · split at refused
      · split at refused
        · next n spelt =>
          obtain ⟨raised, own, rfl⟩ := mapError_error_iff.mp refused
          rw [exactByte_refused own]
          rcases Fault.ofCauseAt_cases none .pattern (.byteOutOfRange n) with
            ⟨-, same⟩ | ⟨unwritable, same⟩
          · rw [Fault.ofCause, same]
            exact located.located _ ⟨_, location, rfl, rfl, start⟩
          · rw [Fault.ofCause, same]
            rw [Cause.isWritable, Bool.not_eq_false'] at unwritable
            exact .literal displayed spelt unwritable
        · cases refused
          exact located.refuse start .pattern rfl
      · rcases bind_error_iff.mp refused with failed | ⟨code, -, made⟩
        · exact located.refuse_codeOf start .pattern element.text failed
        · cases made

theorem ofDisplay_refused
    (located : Located source tokens (ByteRecord.Refused interpreter scope source tokens))
    (start : IsStart tokens location) {text : List Char} (within : text <:+: source)
    (refused : ofDisplay text location = .error fault) :
    ByteRecord.Refused interpreter scope source tokens fault := by
  unfold ofDisplay at refused
  extract_lets trimmed refuse at refused
  split at refused
  · cases refused
    exact located.refuse start .pattern rfl
  · split at refused
    · cases refused
      exact located.refuse start .pattern rfl
    · cases refused
      exact located.refuse start .pattern rfl
    · next elements display =>
      rcases bind_error_iff.mp refused with failed | ⟨matchers, -, made⟩
      · obtain ⟨element, present, own⟩ := exists_of_mapM_error failed
        exact elementMatcher_refused located start ⟨text, elements, within, display, present⟩ own
      · cases made

/-- The computed elements of a list display were written in the text. -/
theorem ofDisplay_written (start : IsStart tokens location) {text : List Char}
    (within : text <:+: source) (made : ofDisplay text location = .ok pattern) :
    ∀ element ∈ pattern.deferred, element.Written source tokens := by
  intro element present
  unfold ofDisplay at made
  extract_lets trimmed refuse at made
  split at made
  · cases made
  · split at made
    · cases made
    · cases made
    · next elements display =>
      obtain ⟨matchers, each, made⟩ := bind_ok_iff.mp made
      cases made
      obtain ⟨shown, among, own⟩ := exists_of_forall₂ (mapM_ok_iff.mp each) (mem_deferred.mp present)
      have displayed : Displays source shown := ⟨text, elements, within, display, among⟩
      cases elementMatcher_ok_iff.mp own with
      | computed _ _ _ _ compiled =>
        exact ⟨⟨location, rfl, start⟩, _, _, displayed, compiled, rfl⟩

theorem ofLiteral_fixed {literal : String} (made : ofLiteral literal location = .ok pattern) :
    pattern.deferred = [] := by
  rw [List.eq_nil_iff_forall_not_mem]
  intro element present
  rw [mem_deferred] at present
  unfold ofLiteral at made
  extract_lets text read at made
  clear_value read
  split at made
  · cases made
    obtain ⟨byte, -, same⟩ := List.mem_map.mp present
    cases same
  · obtain ⟨pieces, -, -, rfl⟩ := ofHex_ok_iff.mp (mapError_ok_iff.mp made)
    obtain ⟨piece, -, same⟩ := List.mem_map.mp present
    cases piece <;> cases same
  · cases made

theorem read_reads
    (located : Located source tokens (ByteRecord.Refused interpreter scope source tokens)) :
    Reads source tokens (ByteRecord.Refused interpreter scope source tokens) read fun pattern =>
      ∀ element ∈ pattern.deferred, element.Written source tokens := by
  refine Reads.get_bind fun index => ?_
  have present := located.current_mem index
  extract_lets token
  split
  · refine Reads.bind located.next fun _ _ => .lift (fun pattern made => ?_) fun fault refused => ?_
    · rw [ofLiteral_fixed made]
      exact List.forall_mem_nil _
    · exact ofLiteral_refused located ⟨token, present, rfl⟩ refused
  · split
    · refine Reads.bind (located.takeExpression true .pattern) fun taken good => ?_
      obtain ⟨text, location⟩ := taken
      exact .lift (fun pattern made => ofDisplay_written good.2 good.1 made)
        fun fault refused => ofDisplay_refused located good.2 good.1 refused
    · exact located.fail .pattern .pattern

end Pattern

namespace Field
variable {member binding : Value}

theorem readMember_reads
    (located : Located source tokens (Refused interpreter scope source tokens)) :
    Reads source tokens (Refused interpreter scope source tokens) readMember fun value =>
      IsMemberText value ∧ ∀ k : Nat, value = .int k → Number.isOverlong k = false := by
  refine Reads.get_bind fun index => ?_
  have present := located.current_mem index
  extract_lets token
  split
  · refine Reads.bind located.next fun _ _ => .pure ?_
    split
    · exact ⟨.none, nofun⟩
    · exact ⟨.name _, nofun⟩
  · split
    · next numeral =>
      obtain ⟨number, digits⟩ := Bool.and_eq_true_iff.mp numeral
      refine Reads.bind located.next fun _ _ => ?_
      split
      · next position readable =>
        have some_digit : token.text.toList ≠ [] := by
          intro empty
          rw [empty] at readable
          cases readable
        have all := List.all_eq_true.mp digits
        rw [Number.readInt?_digits some_digit all] at readable
        split at readable
        · next short =>
          cases readable
          refine .pure ⟨.position _, fun k same => ?_⟩
          rw [← Value.int.inj same]
          exact Number.isOverlong_ofDecimal all short
        · cases readable
      · next unreadable =>
        exact .throw (.position present (eq_of_beq number) digits unreadable)
    · exact located.fail .field .member

theorem requireMember_reads {Refused : Fault → Prop} (located : Located source tokens Refused) :
    Reads source tokens Refused (requireMember member) fun _ => True := by
  unfold requireMember
  split
  · exact Reads.get_bind fun index =>
      .throw (located.refuse (located.isStart_location index) .field rfl)
  · exact .pure trivial

theorem readBinding_reads {Refused : Fault → Prop} (located : Located source tokens Refused) :
    Reads source tokens Refused (readBinding member) IsBindingText := by
  refine Reads.get_bind fun index => ?_
  split
  · exact .pure .none
  · split
    · exact located.fail .field .patternAfterName
    · refine Reads.seq (requireMember_reads located) fun _ => ?_
      refine Reads.bind located.next fun _ _ => ?_
      exact Reads.bind located.next fun _ _ => .pure (.name _)

theorem readTransform_reads {Refused : Fault → Prop} (located : Located source tokens Refused) :
    Reads source tokens Refused (readTransform member binding) fun _ => True := by
  unfold readTransform
  extract_lets isBound
  refine Reads.get_bind fun index => ?_
  split
  · refine Reads.seq (requireMember_reads located) fun _ => ?_
    refine Reads.seq (located.expectArrow .field .arrowAndExpression) fun _ => ?_
    exact Reads.seq (located.takeCompiled false .field) fun _ => .pure trivial
  · exact .pure trivial

theorem read_reads
    (located : Located source tokens (Refused interpreter scope source tokens)) :
    Reads source tokens (Refused interpreter scope source tokens) read fun field =>
      field.Written source tokens := by
  refine Reads.get_bind fun index => ?_
  have start := located.isStart_location index
  refine Reads.bind (readMember_reads located) fun member named => ?_
  refine Reads.bind (located.expectOp ":" .field .colon) fun _ _ => ?_
  refine Reads.bind (readBinding_reads located) fun binding bound => ?_
  refine Reads.bind (Pattern.read_reads located) fun pattern elements => ?_
  refine Reads.seq (readTransform_reads located) fun transform => ?_
  refine .lift (fun field made => ?_) fun fault refused => ?_
  · obtain ⟨-, member, binding, denoted, -, -, -, rfl⟩ := ofParts_ok_iff.mp made
    refine ⟨⟨_, rfl, start⟩, elements, fun k own => ?_⟩
    cases denoted with
    | none => cases own
    | name free => cases own
    | position position =>
      cases own
      exact named.2 k rfl
  · obtain ⟨cause, writable, rfl⟩ := ofParts_refused named.1 bound refused
    exact located.refuse start .field writable

end Field
end
end ByteRecord
