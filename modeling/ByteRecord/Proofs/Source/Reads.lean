import ByteRecord.Proofs.Source.Cut

/-! How readings of tokens end: with a fault that is allowed, or with a good result and a cursor in the
same tokens. The index of the cursor is of no concern: wherever it is, a token stands there. -/
namespace ByteRecord.Source

/-- A location is the start of one of the tokens. -/
def IsStart (tokens : List Token) (location : Location) : Prop :=
  ∃ token ∈ tokens, location = token.start

/-- An error in a specification that stands at the start of a token. -/
def IsLocated (tokens : List Token) (fault : Fault) : Prop :=
  ∃ error location, fault = .specification error ∧ error.location = some location ∧
    IsStart tokens location

/-- A reading ends in a fault that is refused for good reason, or its result is good. -/
def Reads (source : List Char) (tokens : List Token) (Refused : Fault → Prop) (reading : Reading α)
    (Good : α → Prop) : Prop :=
  ∀ index, match reading.run ⟨source, tokens, index⟩ with
    | (.ok value, after) => Good value ∧ after.source = source ∧ after.tokens = tokens
    | (.error fault, _) => Refused fault

/-- A text is tokenized, and errors at its tokens may be refused. -/
structure Located (source : List Char) (tokens : List Token) (Refused : Fault → Prop) : Prop where
  scanned : tokenize source = .ok tokens
  located : ∀ fault, IsLocated tokens fault → Refused fault

theorem tokensFrom_ne_nil {line : Nat} {progress : Progress} {rows : List (List Char)}
    (scanned : tokensFrom line progress rows = .ok tokens) : tokens ≠ [] := by
  have finish_ne_nil {line : Nat} {progress : Progress} {tokens : List Token}
      (finished : finish line progress = .ok tokens) : tokens ≠ [] := by
    unfold finish at finished
    split at finished
    · cases finished
    · split at finished
      · cases finished
        exact List.cons_ne_nil _ _
      · cases finished
  induction rows generalizing line progress tokens with
  | nil => exact finish_ne_nil scanned
  | cons row more ih =>
    rw [tokensFrom] at scanned
    split at scanned
    · exact finish_ne_nil scanned
    · obtain ⟨step, -, scanned⟩ := bind_ok_iff.mp scanned
      obtain ⟨later, further, scanned⟩ := bind_ok_iff.mp scanned
      cases scanned
      exact List.append_ne_nil_of_right_ne_nil _ (ih further)

namespace Reads
variable {source : List Char} {tokens : List Token} {Refused : Fault → Prop}

theorem pure {Good : α → Prop} {value : α} (good : Good value) :
    Reads source tokens Refused (Pure.pure value) Good :=
  fun _ => ⟨good, rfl, rfl⟩

theorem throw {Good : α → Prop} {fault : Fault} (refused : Refused fault) :
    Reads source tokens Refused (MonadExcept.throw fault) Good :=
  fun _ => refused

theorem lift {result : Except Fault α} {Good : α → Prop} (good : ∀ value, result = .ok value → Good value)
    (refused : ∀ fault, result = .error fault → Refused fault) :
    Reads source tokens Refused (liftM result) Good := by
  intro index
  rw [run_lift]
  cases result with
  | error fault => exact refused fault rfl
  | ok value => exact ⟨good value rfl, rfl, rfl⟩

theorem bind {reading : Reading α} {next : α → Reading β} {Good : α → Prop} {Good' : β → Prop}
    (first : Reads source tokens Refused reading Good)
    (later : ∀ value, Good value → Reads source tokens Refused (next value) Good') :
    Reads source tokens Refused (reading >>= next) Good' := by
  intro index
  have own := first index
  rw [run_bind]
  cases ran : reading.run ⟨source, tokens, index⟩ with
  | mk result after =>
    rw [ran] at own
    cases result with
    | error fault => exact own
    | ok value =>
      obtain ⟨good, rfl, rfl⟩ := own
      exact later value good after.index

theorem get_bind {next : Cursor → Reading β} {Good : β → Prop}
    (later : ∀ index, Reads source tokens Refused (next ⟨source, tokens, index⟩) Good) :
    Reads source tokens Refused (get >>= next) Good := by
  intro index
  exact later index index

theorem set {index : Nat} : Reads source tokens Refused (MonadState.set (⟨source, tokens, index⟩ : Cursor))
    fun _ => True :=
  fun _ => ⟨trivial, rfl, rfl⟩

theorem seq {reading : Reading α} {next : α → Reading β} {Good : β → Prop}
    (first : Reads source tokens Refused reading fun _ => True)
    (later : ∀ value, Reads source tokens Refused (next value) Good) :
    Reads source tokens Refused (reading >>= next) Good :=
  first.bind fun value _ => later value

theorem skip (count : Nat) : Reads source tokens Refused (Reading.skip count) fun _ => True :=
  fun _ => ⟨trivial, rfl, rfl⟩

end Reads

namespace Located
variable {source : List Char} {tokens : List Token} {Refused : Fault → Prop}

theorem current_mem (located : Located source tokens Refused) (index : Nat) :
    (Cursor.mk source tokens index).current ∈ tokens := by
  have some_token : 0 < tokens.length :=
    List.length_pos_iff.mpr (tokensFrom_ne_nil located.scanned)
  exact Cursor.peek_mem some_token 0

theorem isStart_location (located : Located source tokens Refused) (index : Nat) :
    IsStart tokens (Cursor.mk source tokens index).location :=
  ⟨_, located.current_mem index, rfl⟩

theorem refuse (located : Located source tokens Refused) {location : Location}
    (start : IsStart tokens location) (kind : SpecificationKind) {cause : Cause}
    (writable : cause.isWritable = true) : Refused (.ofCauseAt (some location) kind cause) := by
  rw [Fault.ofCauseAt, if_pos writable]
  exact located.located _ ⟨_, location, rfl, rfl, start⟩

theorem fail (located : Located source tokens Refused) {Good : α → Prop} (kind : SpecificationKind)
    (wanted : Wanted) : Reads source tokens Refused (Reading.fail kind wanted) Good :=
  Reads.get_bind fun index => .throw (located.refuse (located.isStart_location index) kind rfl)

theorem next (located : Located source tokens Refused) :
    Reads source tokens Refused Reading.next fun token => token ∈ tokens := by
  refine Reads.get_bind fun index => ?_
  refine Reads.seq ?_ fun _ => .pure (located.current_mem index)
  unfold Cursor.advanced
  split
  · exact .set
  · exact .set

theorem expectOp (located : Located source tokens Refused) (op : String) (kind : SpecificationKind)
    (wanted : Wanted) :
    Reads source tokens Refused (Reading.expectOp op kind wanted) fun token => token ∈ tokens := by
  refine Reads.get_bind fun index => ?_
  split
  · exact located.next
  · exact located.fail kind wanted

theorem expectArrow (located : Located source tokens Refused) (kind : SpecificationKind)
    (wanted : Wanted) :
    Reads source tokens Refused (Reading.expectArrow kind wanted) fun _ => True := by
  refine Reads.get_bind fun index => ?_
  split
  · exact .skip 2
  · exact located.fail kind wanted

/-- An expression is a part of the text, and it begins with a token. -/
theorem takeExpression (located : Located source tokens Refused) (stopAtArrow : Bool)
    (kind : SpecificationKind) :
    Reads source tokens Refused (Reading.takeExpression stopAtArrow kind) fun (text, location) =>
      text <:+: source ∧ IsStart tokens location := by
  intro index
  rw [Reading.takeExpression_run]
  dsimp only
  have significant := Cursor.expressionWidth_significant stopAtArrow 0 (tokens.drop index)
  generalize Cursor.expressionWidth stopAtArrow 0 (tokens.drop index) = width at significant ⊢
  cases own : (tokens.drop index).take width with
  | nil => exact located.refuse (located.isStart_location _) kind rfl
  | cons first rest =>
    rw [own] at significant
    have present : first :: rest ⊆ tokens := fun token member =>
      List.mem_of_mem_drop (List.mem_of_mem_take (own ▸ member))
    have last_mem : rest.getLastD first ∈ first :: rest := List.getLastD_mem_cons
    obtain ⟨stop, placed⟩ := tokenize_placed located.scanned
    have stands := placed.stands (present List.mem_cons_self)
    have stands' := placed.stands (present last_mem)
    obtain ⟨positive, lines⟩ := stands.within (significant first List.mem_cons_self)
    obtain ⟨positive', lines'⟩ := stands'.within (significant _ last_mem)
    -- the lines exist, whether or not they start where the rows do
    obtain ⟨start, at_start, -⟩ := Cursor.offset?_location ⟨source, tokens, index⟩ first.start
      positive (Nat.le_trans stands.lines lines)
    obtain ⟨stop, at_stop, -⟩ := Cursor.offset?_location ⟨source, tokens, index⟩
      (rest.getLastD first).stop (Nat.lt_of_lt_of_le positive' stands'.lines) lines'
    simp only [Cursor.between?, at_start, at_stop, Option.bind_eq_bind, Option.bind_some]
    exact ⟨⟨(List.take_prefix _ _).isInfix.trans (List.drop_suffix _ _).isInfix,
      first, present List.mem_cons_self, rfl⟩, rfl, rfl⟩

theorem refuse_codeOf (located : Located source tokens Refused) {location : Location}
    (start : IsStart tokens location) (kind : SpecificationKind) (text : List Char)
    (refused : Expression.codeOf (some location) kind text = .error fault) : Refused fault := by
  unfold Expression.codeOf at refused
  split at refused
  · cases refused
  · cases refused
    exact located.refuse start kind rfl

theorem takeCompiled (located : Located source tokens Refused) (stopAtArrow : Bool)
    (kind : SpecificationKind) :
    Reads source tokens Refused (Reading.takeCompiled stopAtArrow kind) fun _ => True := by
  refine Reads.bind (located.takeExpression stopAtArrow kind) fun taken good => ?_
  obtain ⟨text, location⟩ := taken
  refine Reads.seq (.lift (fun _ _ => trivial) fun fault refused => ?_) fun _ => .pure trivial
  exact located.refuse_codeOf good.2 kind text refused

end Located
end ByteRecord.Source
