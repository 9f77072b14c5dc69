import Mathlib.Data.List.TakeWhile
import ByteRecord.Expr.Parser
import ByteRecord.Proofs.Expr.Brackets

/-! Reading expressions pairs brackets: every function of the parser ends where the brackets that it
has passed are paired, and those that read what a bracket encloses end behind its partner. -/
namespace ByteRecord.Expr
open Lexical

/-- What is read ends where the brackets before are paired, or behind the given one. -/
def Reads (closer : Option String) (lexemes : List Lexeme) (read : Option (α × Rest)) : Prop :=
  ∀ found ∈ read, Paired closer lexemes found.2

theorem of_isOp (next : isOp word lexemes) :
    ∃ start, lexemes = ⟨.op, word.toList, start⟩ :: lexemes.tail := by
  unfold isOp at next
  split at next
  · next found start rest =>
    rw [eq_of_beq next]
    exact ⟨start, rfl⟩
  · cases next

theorem isOp_of_text (same : String.ofList found = word) :
    isOp word (⟨.op, found, start⟩ :: rest) := by
  subst same
  rw [isOp, String.toList_ofList]
  exact beq_self_eq_true found

namespace Paired

theorem op (next : isOp word lexemes) (opens : closing? word = none := by rfl)
    (closes : isClosing word = false := by rfl) : Paired none lexemes lexemes.tail := by
  obtain ⟨start, same⟩ := of_isOp next
  rw [same]
  exact .other (openBehind?_other · start opens closes) .here

theorem of_kind {lexeme : Lexeme} (other : lexeme.kind ≠ .op) (rest : List Lexeme) :
    Paired none (lexeme :: rest) rest :=
  .other (openBehind?_of_kind · other) .here

theorem of_text (same : String.ofList found = text) (opens : closing? text = none := by rfl)
    (closes : isClosing text = false := by rfl) :
    Paired none (⟨.op, found, start⟩ :: rest) rest :=
  op (isOp_of_text same) opens closes

theorem word (next : isWord text lexemes) : Paired none lexemes lexemes.tail := by
  unfold isWord at next
  split at next
  · exact .of_kind (by simp) _
  · cases next

theorem ite {condition : Bool} (yes : condition → Paired none lexemes rest) :
    Paired none lexemes (if condition then rest else lexemes) := by
  split
  · next holds => exact yes holds
  · exact .here

theorem of_kinds (others : ∀ lexeme ∈ front, Lexeme.kind lexeme ≠ .op) (rest : List Lexeme) :
    Paired none (front ++ rest) rest := by
  induction front with
  | nil => exact .here
  | cons lexeme front ih =>
    obtain ⟨other, others⟩ := List.forall_mem_cons.mp others
    exact (of_kind other _).trans (ih others)

theorem strings (lexemes : List Lexeme) :
    Paired none lexemes (lexemes.drop (lexemes.takeWhile (·.kind == .string)).length) := by
  have others : ∀ lexeme ∈ lexemes.takeWhile (·.kind == .string), lexeme.kind ≠ .op := by
    intro lexeme own same
    have string := List.mem_takeWhile_imp own
    rw [same] at string
    cases string
  obtain ⟨rest, parts⟩ := List.takeWhile_prefix (l := lexemes) (·.kind == .string)
  generalize lexemes.takeWhile (·.kind == .string) = front at others parts
  subst parts
  rw [List.drop_left]
  exact of_kinds others rest

end Paired

namespace Reads
variable {lexemes middle rest : List Lexeme} {closer : Option String} {word inner : String}
variable {read : Option (α × Rest)} {f : α × Rest → Option (β × Rest)}

theorem none : Reads closer lexemes (.none : Option (α × Rest)) := nofun

theorem here {e : α} : Reads .none lexemes (some (e, lexemes)) := by
  rintro _ ⟨⟩
  exact .here

theorem shut {e : α} (closes : isOp word lexemes) :
    Reads (some word) lexemes (some (e, lexemes.tail)) := by
  rintro _ ⟨⟩
  obtain ⟨start, same⟩ := of_isOp closes
  rw [same]
  exact .shut

theorem after (front : Paired .none lexemes middle) (later : Reads closer middle read) :
    Reads closer lexemes read :=
  fun found own => front.trans (later found own)

theorem bind (first : Reads .none lexemes read) (next : ∀ x rest, Reads closer rest (f (x, rest))) :
    Reads closer lexemes (read >>= f) := by
  intro found own
  obtain ⟨⟨x, rest⟩, here, there⟩ := Option.bind_eq_some_iff.mp own
  exact (first _ here).trans (next x rest found there)

/-- What does not come from the lexemes changes nothing. -/
theorem given {value : Option γ} {f : γ → Option (α × Rest)}
    (next : ∀ x, Reads closer lexemes (f x)) : Reads closer lexemes (value >>= f) := by
  intro found own
  obtain ⟨x, -, there⟩ := Option.bind_eq_some_iff.mp own
  exact next x found there

theorem ite {condition : Bool} {other : Option (α × Rest)}
    (yes : condition → Reads closer lexemes read) (no : Reads closer lexemes other) :
    Reads closer lexemes (if condition then read else other) := by
  split
  · next holds => exact yes holds
  · exact no

/-- The last thing read decides where the reading ends. -/
theorem last (first : Reads closer lexemes read)
    (returned : ∀ x rest, ∃ y, f (x, rest) = some (y, rest)) :
    Reads closer lexemes (read >>= f) := by
  intro found own
  obtain ⟨⟨x, rest⟩, here, there⟩ := Option.bind_eq_some_iff.mp own
  obtain ⟨y, same⟩ := returned x rest
  cases same.symm.trans there
  exact first _ here

/-- What a bracket encloses is read up to its partner. -/
theorem enclosed (opens : isOp word lexemes) (pair : closing? word = some inner)
    (inside : Reads (some inner) lexemes.tail read) : Reads .none lexemes read := by
  intro found own
  obtain ⟨start, same⟩ := of_isOp opens
  rw [same]
  exact .nested pair (inside found own) .here

theorem skipOp {f : Rest → Option (α × Rest)} (next : ∀ rest, Reads closer rest (f rest))
    (opens : closing? word = .none := by rfl) (closes : isClosing word = false := by rfl) :
    Reads closer lexemes (skipOp? word lexemes >>= f) := by
  unfold skipOp?
  split
  · next comes => exact .after (.op comes opens closes) (next _)
  · exact .none

theorem skipWord {f : Rest → Option (α × Rest)} (next : ∀ rest, Reads closer rest (f rest)) :
    Reads closer lexemes (skipWord? word lexemes >>= f) := by
  unfold skipWord?
  split
  · next comes => exact .after (.word comes) (next _)
  · exact .none

theorem skipShut {f : Rest → Option (α × Rest)} (returned : ∀ rest, ∃ y, f rest = some (y, rest)) :
    Reads (some word) lexemes (skipOp? word lexemes >>= f) := by
  unfold skipOp?
  split
  · next closes =>
    obtain ⟨y, same⟩ := returned lexemes.tail
    change Reads (some word) lexemes (f lexemes.tail)
    rw [same]
    exact .shut closes
  · exact .none

theorem freeName : Reads .none lexemes (freeName? lexemes) := by
  unfold freeName?
  split
  · dsimp only
    split
    · exact .none
    · exact .after (.of_kind (by simp) _) .here
  · exact .none

theorem comparison : Reads .none lexemes (comparison? lexemes) := by
  unfold comparison?
  split
  · split
    case h_7 => exact .none
    all_goals
      next same => exact .after (.of_text same) .here
  · split
    · next isIn => exact .after (.word isIn) .here
    · split
      · next both =>
        obtain ⟨isNot, isIn⟩ := Bool.and_eq_true_iff.mp both
        exact .after ((Paired.word isNot).trans (.word isIn)) .here
      · split
        · next is =>
          split
          · next isNot => exact .after ((Paired.word is).trans (.word isNot)) .here
          · exact .after (.word is) .here
        · exact .none

theorem leftOperator (level : Level) : Reads .none lexemes (leftOperator? level lexemes) := by
  unfold leftOperator?
  split
  · split
    · next found _ _ _ _ _ own =>
      have plain : closing? (String.ofList found) = .none ∧
          isClosing (String.ofList found) = false := by
        unfold leftOperators at own
        split at own
        case h_13 => cases own
        all_goals
          next same => rw [same]; decide
      split
      · exact .after (.of_text rfl plain.1 plain.2) .here
      · exact .none
    · exact .none
  · exact .none

theorem signOperator : Reads .none lexemes (signOperator? lexemes) := by
  unfold signOperator?
  split
  case h_4 => exact .none
  all_goals exact .after (.of_text rfl) .here

end Reads

/-- The functions that read operands and the operators between them pair brackets. -/
structure ReadsOperands (fuel : Nat) : Prop where
  namedExpr (lexemes) : Reads none lexemes (namedExpr fuel lexemes)
  expression (lexemes) : Reads none lexemes (expression fuel lexemes)
  parameters (state found defaults lexemes) :
    Reads none lexemes (parameters fuel state found defaults lexemes)
  separator (state found defaults lexemes) :
    Reads none lexemes (separator fuel state found defaults lexemes)
  operand (level lexemes) : Reads none lexemes (operand fuel level lexemes)
  chain (word level lexemes) : Reads none lexemes (chain fuel word level lexemes)
  comparisons (lexemes) : Reads none lexemes (comparisons fuel lexemes)
  leftChain (level left lexemes) : Reads none lexemes (leftChain fuel level left lexemes)
  awaited (lexemes) : Reads none lexemes (awaited fuel lexemes)

/-- The functions that read atoms and what follows them pair brackets. -/
structure ReadsPrimaries (fuel : Nat) : Prop where
  primary (lexemes) : Reads none lexemes (primary fuel lexemes)
  suffixes (object lexemes) : Reads none lexemes (suffixes fuel object lexemes)
  arguments (stage first lexemes) : Reads (some ")") lexemes (arguments fuel stage first lexemes)
  moreArguments (stage argument lexemes) :
    Reads (some ")") lexemes (moreArguments fuel stage argument lexemes)
  slices (lexemes) : Reads (some "]") lexemes (slices fuel lexemes)
  sliceItems (lexemes) : Reads (some "]") lexemes (sliceItems fuel lexemes)
  sliceItem (lexemes) : Reads none lexemes (sliceItem fuel lexemes)
  sliceBounds (start lexemes) : Reads none lexemes (sliceBounds fuel start lexemes)
  bound (lexemes) : Reads none lexemes (bound fuel lexemes)
  atom (lexemes) : Reads none lexemes (atom fuel lexemes)

/-- The functions that read what brackets display pair brackets. -/
structure ReadsDisplays (fuel : Nat) : Prop where
  bracketed (lexemes) : Reads (some ")") lexemes (bracketed fuel lexemes)
  yielded (lexemes) : Reads none lexemes (yielded fuel lexemes)
  plainItem (lexemes) : Reads none lexemes (plainItem fuel lexemes)
  plainItems (lexemes) : Reads none lexemes (plainItems fuel lexemes)
  displayItem (lexemes) : Reads none lexemes (displayItem fuel lexemes)
  displayItems (closer lexemes) : Reads (some closer) lexemes (displayItems fuel closer lexemes)
  listDisplay (lexemes) : Reads (some "]") lexemes (listDisplay fuel lexemes)
  braced (lexemes) : Reads (some "\x7d") lexemes (braced fuel lexemes)
  dictItems (lexemes) : Reads (some "\x7d") lexemes (dictItems fuel lexemes)
  dictItem (lexemes) : Reads none lexemes (dictItem fuel lexemes)

/-- The functions that read comprehensions pair brackets. -/
structure ReadsClauses (fuel : Nat) : Prop where
  clauses (lexemes) : Reads none lexemes (clauses fuel lexemes)
  targets (lexemes) : Reads none lexemes (targets fuel lexemes)
  moreTargets (lexemes) : Reads none lexemes (moreTargets fuel lexemes)
  target (lexemes) : Reads none lexemes (target fuel lexemes)

/-- Every function pairs brackets, as far as its fuel goes. -/
structure ReadsPaired (fuel : Nat) : Prop extends ReadsOperands fuel, ReadsPrimaries fuel,
  ReadsDisplays fuel, ReadsClauses fuel

namespace ReadsPaired

theorem zero : ReadsPaired 0 := by
  constructor <;> constructor <;> intros <;> exact fun _ own => nomatch own

section
variable {fuel : Nat} (ih : ReadsPaired fuel)
include ih

theorem operands_succ : ReadsOperands (fuel + 1) where
  namedExpr lexemes := by
    rw [Expr.namedExpr]
    split
    · next word rest own =>
      refine .ite (fun assigns => ?_) (ih.expression _)
      refine .after (Reads.freeName _ own) (.after (.op assigns) ?_)
      exact .bind (ih.expression _) fun value rest => .here
    · exact ih.expression _
  expression lexemes := by
    refine .ite (fun lambda => .after (.word lambda) (ih.parameters _ _ _ _)) ?_
    refine .bind (ih.operand _ _) fun positive rest => .ite (fun conditional => ?_) .here
    refine .after (.word conditional) (.bind (ih.operand _ _) fun test rest => ?_)
    exact .skipWord fun rest => .bind (ih.expression _) fun negative rest => .here
  parameters state found defaults lexemes := by
    rw [Expr.parameters]
    refine .ite (fun colon => .ite (fun _ => .none) ?_) <| .ite (fun _ => .none) <|
      .ite (fun slash => .ite (fun _ => .none) ?_) <|
      .ite (fun spread => .ite (fun _ => .none) ?_) <|
      .ite (fun star => .ite (fun _ => .none) ?_) ?_
    · exact .after (.op colon) (.bind (ih.expression _) fun body rest => .here)
    · exact .after (.op slash) (ih.separator _ _ _ _)
    · exact .after (.op spread) (.bind .freeName fun word rest => ih.separator _ _ _ _)
    · refine .after (.op star) ?_
      split
      · next word rest own => exact .after (Reads.freeName _ own) (ih.separator _ _ _ _)
      · exact .ite (fun _ => ih.separator _ _ _ _) .none
    · refine .bind .freeName fun word rest => .ite (fun equals => ?_) ?_
      · refine .after (.op equals) (.bind (ih.expression _) fun value rest => ih.separator _ _ _ _)
      · exact .ite (fun _ => .none) (ih.separator _ _ _ _)
  separator state found defaults lexemes := by
    refine .ite (fun comma => .after (.op comma) (ih.parameters _ _ _ _)) ?_
    exact .ite (fun _ => ih.parameters _ _ _ _) .none
  operand level lexemes := by
    cases level <;> simp only [Expr.operand]
    case disjunction | conjunction =>
      exact .bind (ih.operand _ _) fun first rest => .bind (ih.chain _ _ _) fun more rest => .here
    case inversion =>
      refine .ite (fun negated => .after (.word negated) ?_) (ih.operand _ _)
      exact .bind (ih.operand _ _) fun inner rest => .here
    case comparison =>
      exact .bind (ih.operand _ _) fun first rest => .bind (ih.comparisons _) fun more rest => .here
    case factor =>
      split
      · next op rest own =>
        exact .after (Reads.signOperator _ own) (.bind (ih.operand _ _) fun inner rest => .here)
      · exact ih.operand _ _
    case power =>
      refine .bind (ih.awaited _) fun base rest => .ite (fun power => .after (.op power) ?_) .here
      exact .bind (ih.operand _ _) fun exponent rest => .here
    all_goals
      exact .bind (ih.operand _ _) fun first rest => ih.leftChain _ _ _
  chain word level lexemes := by
    refine .ite (fun next => .after (.word next) ?_) .here
    exact .bind (ih.operand _ _) fun next rest => .bind (ih.chain _ _ _) fun more rest => .here
  comparisons lexemes := by
    rw [Expr.comparisons]
    split
    · next op rest own =>
      refine .after (Reads.comparison _ own) (.bind (ih.operand _ _) fun next rest => ?_)
      exact .bind (ih.comparisons _) fun more rest => .here
    · exact .here
  leftChain level left lexemes := by
    rw [Expr.leftChain]
    split
    · next op rest own =>
      refine .after (Reads.leftOperator level _ own) (.bind (ih.operand _ _) fun right rest => ?_)
      exact ih.leftChain _ _ _
    · exact .here
  awaited lexemes := by
    refine .ite (fun awaits => .after (.word awaits) ?_) (ih.primary _)
    exact .bind (ih.primary _) fun inner rest => .here

theorem primaries_succ : ReadsPrimaries (fuel + 1) where
  primary _ := .bind (ih.atom _) fun object rest => ih.suffixes _ _
  suffixes object lexemes := by
    refine .ite (fun dot => ?_) <| .ite (fun round => ?_) <| .ite (fun square => ?_) .here
    · exact .after (.op dot) (.bind .freeName fun word rest => ih.suffixes _ _)
    · exact .bind (.enclosed round rfl (ih.arguments _ _ _)) fun arguments rest => ih.suffixes _ _
    · exact .bind (.enclosed square rfl (ih.slices _)) fun index rest => ih.suffixes _ _
  arguments stage first lexemes := by
    rw [Expr.arguments]
    refine .ite (fun closes => .shut closes) <| .ite (fun spread => .after (.op spread) ?_) <|
      .ite (fun star => .ite (fun _ => .none) (.after (.op star) ?_)) ?_
    · exact .bind (ih.expression _) fun inner rest => ih.moreArguments _ _ _
    · exact .bind (ih.expression _) fun inner rest => ih.moreArguments _ _ _
    · dsimp only
      split
      · next word rest own =>
        obtain ⟨own, equals⟩ := Option.filter_eq_some_iff.mp own
        refine .after (Reads.freeName _ own) (.after (.op equals) ?_)
        exact .bind (ih.expression _) fun value rest => ih.moreArguments _ _ _
      · refine .ite (fun _ => .none) (.bind (ih.namedExpr _) fun value rest => ?_)
        refine .ite (fun _ => .bind (ih.clauses _) fun clauses rest => ?_) (ih.moreArguments _ _ _)
        exact .skipShut fun rest => ⟨_, rfl⟩
  moreArguments stage argument lexemes := by
    refine .ite (fun comma => .after (.op comma) ?_) (.skipShut fun rest => ⟨_, rfl⟩)
    exact .last (ih.arguments _ _ _) fun more rest => ⟨_, rfl⟩
  slices lexemes := by
    refine .bind (ih.sliceItem _) fun first rest => .ite (fun closes => .shut closes) ?_
    exact .skipOp fun rest => .last (ih.sliceItems _) fun more rest => ⟨_, rfl⟩
  sliceItems lexemes := by
    refine .ite (fun closes => .shut closes) (.bind (ih.sliceItem _) fun item rest => ?_)
    refine .ite (fun closes => .shut closes) (.skipOp fun rest => ?_)
    exact .last (ih.sliceItems _) fun more rest => ⟨_, rfl⟩
  sliceItem lexemes := by
    refine .ite (fun star => .after (.op star) ?_) <| .ite (fun _ => ih.sliceBounds _ _) ?_
    · exact .bind (ih.expression _) fun inner rest => .here
    · refine .bind (ih.namedExpr _) fun start rest => .ite (fun colon => ?_) .here
      exact .ite (fun _ => .none) (ih.sliceBounds _ _)
  sliceBounds start lexemes := by
    refine .skipOp fun rest => .bind (ih.bound _) fun stop rest => .ite (fun colon => ?_) .here
    exact .after (.op colon) (.bind (ih.bound _) fun step rest => .here)
  bound _ := .ite (fun _ => .here) (ih.expression _)
  atom lexemes := by
    rw [Expr.atom.eq_def]
    dsimp only
    split
    · exact .none
    · split
      case h_4 => exact .ite (fun _ => .none) (.after (.of_kind (by simp) _) .here)
      all_goals exact .after (.of_kind (by simp) _) .here
    · exact .given fun value => .after (.of_kind (by simp) _) .here
    · exact .given fun values => .given fun embedded => .given fun value => .after (.strings _) .here
    · exact .none
    · split
      · next same => exact .after (.of_text same) .here
      · next same => exact .enclosed (isOp_of_text same) rfl (ih.bracketed _)
      · next same => exact .enclosed (isOp_of_text same) rfl (ih.listDisplay _)
      · next same => exact .enclosed (isOp_of_text same) rfl (ih.braced _)
      · exact .none

theorem displays_succ : ReadsDisplays (fuel + 1) where
  bracketed lexemes := by
    refine .ite (fun closes => .shut closes) <| .ite (fun yields => .after (.word yields) ?_) ?_
    · exact .bind (ih.yielded _) fun inner rest => .skipShut fun rest => ⟨_, rfl⟩
    · refine .bind (ih.displayItem _) fun first rest => .ite (fun comma => ?_) <|
        .ite (fun _ => .none) <| .ite (fun _ => ?_) (.skipShut fun rest => ⟨_, rfl⟩)
      · exact .last (ih.displayItems _ _) fun more rest => ⟨_, rfl⟩
      · exact .bind (ih.clauses _) fun clauses rest => .skipShut fun rest => ⟨_, rfl⟩
  yielded lexemes := by
    refine .ite (fun delegates => .after (.word delegates) ?_) <| .ite (fun _ => .here) ?_
    · exact .bind (ih.expression _) fun inner rest => .here
    · refine .bind (ih.plainItem _) fun first rest => .ite (fun _ => ?_) <|
        .ite (fun _ => .none) .here
      exact .bind (ih.plainItems _) fun more rest => .here
  plainItem lexemes := by
    refine .ite (fun star => .after (.op star) ?_) (ih.expression _)
    exact .bind (ih.operand _ _) fun inner rest => .here
  plainItems lexemes := by
    refine .ite (fun comma => .after (.op comma) (.ite (fun _ => .here) ?_)) .here
    exact .bind (ih.plainItem _) fun item rest => .bind (ih.plainItems _) fun more rest => .here
  displayItem lexemes := by
    refine .ite (fun star => .after (.op star) ?_) (ih.namedExpr _)
    exact .bind (ih.operand _ _) fun inner rest => .here
  displayItems closer lexemes := by
    refine .ite (fun closes => .shut closes) (.skipOp fun rest => ?_)
    refine .ite (fun closes => .shut closes) (.bind (ih.displayItem _) fun item rest => ?_)
    exact .last (ih.displayItems _ _) fun more rest => ⟨_, rfl⟩
  listDisplay lexemes := by
    refine .ite (fun closes => .shut closes) (.bind (ih.displayItem _) fun first rest => ?_)
    refine .ite (fun _ => .ite (fun _ => .none) ?_) ?_
    · exact .bind (ih.clauses _) fun clauses rest => .skipShut fun rest => ⟨_, rfl⟩
    · exact .last (ih.displayItems _ _) fun more rest => ⟨_, rfl⟩
  braced lexemes := by
    refine .ite (fun closes => .shut closes) <| .ite (fun _ => ?_) <|
      .bind (ih.displayItem _) fun first rest => .ite (fun colon => .ite (fun _ => .none) ?_) <|
      .ite (fun _ => .ite (fun _ => .none) ?_) ?_
    · exact .last (ih.dictItems _) fun items rest => ⟨_, rfl⟩
    · refine .after (.op colon) (.bind (ih.expression _) fun value rest => .ite (fun _ => ?_) <|
        .ite (fun comma => .after (.op comma) ?_) (.skipShut fun rest => ⟨_, rfl⟩))
      · exact .bind (ih.clauses _) fun clauses rest => .skipShut fun rest => ⟨_, rfl⟩
      · exact .last (ih.dictItems _) fun more rest => ⟨_, rfl⟩
    · exact .bind (ih.clauses _) fun clauses rest => .skipShut fun rest => ⟨_, rfl⟩
    · exact .last (ih.displayItems _ _) fun more rest => ⟨_, rfl⟩
  dictItems lexemes := by
    refine .ite (fun closes => .shut closes) (.bind (ih.dictItem _) fun item rest => ?_)
    refine .ite (fun comma => .after (.op comma) ?_) (.skipShut fun rest => ⟨_, rfl⟩)
    exact .last (ih.dictItems _) fun more rest => ⟨_, rfl⟩
  dictItem lexemes := by
    refine .ite (fun spread => .after (.op spread) ?_) ?_
    · exact .bind (ih.operand _ _) fun inner rest => .here
    · refine .bind (ih.expression _) fun key rest => .skipOp fun rest => ?_
      exact .bind (ih.expression _) fun value rest => .here

theorem clauses_succ : ReadsClauses (fuel + 1) where
  clauses lexemes := by
    refine .after (.ite fun async => .word async) (.skipWord fun rest => ?_)
    refine .bind (ih.targets _) fun target rest => .skipWord fun rest => ?_
    refine .bind (ih.operand _ _) fun iterable rest => ?_
    refine .bind (ih.chain _ _ _) fun conditions rest => ?_
    exact .ite (fun _ => .bind (ih.clauses _) fun more rest => .here) .here
  targets lexemes := by
    refine .bind (ih.target _) fun first rest => .ite (fun _ => ?_) .here
    exact .bind (ih.moreTargets _) fun more rest => .here
  moreTargets lexemes := by
    refine .ite (fun comma => .after (.op comma) (.ite (fun _ => .here) ?_)) .here
    exact .bind (ih.target _) fun item rest => .bind (ih.moreTargets _) fun more rest => .here
  target lexemes := by
    refine .after (.ite fun star => .op star) (.bind (ih.primary _) fun item rest => ?_)
    exact .ite (fun _ => .here) .none

end

theorem all (fuel : Nat) : ReadsPaired fuel := by
  induction fuel with
  | zero => exact zero
  | succ fuel ih => exact ⟨ih.operands_succ, ih.primaries_succ, ih.displays_succ, ih.clauses_succ⟩

end ReadsPaired

theorem Paired.of_isFinished (finished : isFinished lexemes) : Paired none lexemes [] := by
  have others : ∀ lexeme ∈ lexemes, lexeme.kind ≠ .op := by
    intro lexeme own
    rw [eq_of_beq (List.all_eq_true.mp finished lexeme own)]
    decide
  have paired := of_kinds others []
  rwa [List.append_nil] at paired

theorem reads_trailing (fuel : Nat) (lexemes : List Lexeme) :
    Reads none lexemes (ofLexemes?.trailing fuel lexemes) := by
  induction fuel generalizing lexemes with
  | zero => exact .none
  | succ fuel ih =>
    refine .ite (fun _ => .here) (.bind ((ReadsPaired.all _).expression _) fun item rest => ?_)
    refine .ite (fun comma => .after (.op comma) ?_) .here
    exact .bind (ih _) fun more rest => .here

/-- Whatever is read as expressions to the end has its brackets paired. -/
theorem paired_of_ofLexemes? (read : ofLexemes? lexemes = some e) : Paired none lexemes [] := by
  obtain ⟨⟨first, rest⟩, own, later⟩ := Option.bind_eq_some_iff.mp read
  have front := (ReadsPaired.all _).expression _ _ own
  dsimp only at later
  split at later
  · next comma =>
    obtain ⟨⟨more, behind⟩, own, ended⟩ := Option.bind_eq_some_iff.mp later
    have further := reads_trailing _ _ _ own
    dsimp only at ended
    split at ended
    · next finished =>
      exact front.trans ((Paired.op comma).trans (further.trans (.of_isFinished finished)))
    · cases ended
  · split at later
    · next finished => exact front.trans (.of_isFinished finished)
    · cases later

end ByteRecord.Expr
