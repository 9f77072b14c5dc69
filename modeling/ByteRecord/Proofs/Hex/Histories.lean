import ByteRecord.Hex.InPlace
import ByteRecord.Proofs.Hex.Language

/-! What steps that fail do to a lexer. Whatever was done with it, it stands for the characters that it
read, as if those that were refused had never been there. -/
namespace ByteRecord.Hex

/-- The name of the state behind a beginning. -/
def Split.stateName (split : Split) : String :=
  match split.half with
  | none => "idle"
  | some (.digit _) => "await-hex"
  | some .underscore => "await-underscore"
  | some .dot => "await-dot"

theorem Split.Next.tokens_prefix {split later : Split} (next : split.Next c later) :
    split.tokens <+: later.tokens := by
  cases next with
  | blank segments listed => exact (List.prefix_append _ _).filterMap _
  | begins segments half => exact List.prefix_rfl
  | completes segments pair => exact (List.prefix_append _ _).filterMap _

theorem Split.tokens_prefix {split later : Split} (front : later.text = split.text ++ more) :
    split.tokens <+: later.tokens := by
  induction more using List.reverseRecOn generalizing later with
  | nil =>
    obtain rfl := Split.eq_of_text (front.trans (List.append_nil _))
    exact List.prefix_rfl
  | append_singleton more c ih =>
    rw [← List.append_assoc] at front
    obtain ⟨before, same, next⟩ := Split.exists_next front
    exact (ih same).trans next.tokens_prefix

namespace Lexer

/-- Of some characters from a position on, those that are read before one is refused. -/
def accepted (lexer : Lexer) (position : Int) : List String → List String
  | [] => []
  | char :: rest =>
    match (advance char position).run lexer with
    | (.ok _, later) => char :: later.accepted (position + 1) rest
    | (.error _, _) => []

namespace Step

/-- The characters that a step offers to a lexer. -/
def offered (lexer : Lexer) : Step → List String
  | .feed char _ => [char]
  | .run => lexer.text

/-- Where the first of them stands. -/
def position : Step → Int
  | .feed _ position => position
  | .run => 0

def accepted (step : Step) (lexer : Lexer) : List String :=
  lexer.accepted step.position (step.offered lexer)

/-- A step leaves the lexer as the characters do that it offers. -/
theorem run_perform (step : Step) (lexer : Lexer) :
    (step.perform.run lexer).2 =
      ((advanceAll step.position (step.offered lexer)).run lexer).2 := by
  cases step with
  | feed char at_ =>
    rw [offered, position, run_advanceAll_cons, perform, run_advance]
    cases lexer.feed char at_ <;> rfl
  | run =>
    rw [offered, position, show (0 : Int) = (0 : Nat) from rfl, run_advanceAll, perform, run_bind,
      run_advanceText, Lexer.run]
    obtain ⟨answer, later⟩ := lexer.feedAll 0 lexer.text
    cases answer with
    | error fault => rfl
    | ok _ =>
      dsimp only
      cases later.finish <;> rfl

end Step

/-- The characters that were read in the course of some steps, one behind the other. -/
def read (lexer : Lexer) : List Step → List Char
  | [] => []
  | step :: rest =>
    (step.accepted lexer).flatMap String.toList ++ (lexer.after [step]).read rest

variable {lexer : Lexer} {split : Split}

/-- A lexer is left as by the characters that it reads alone. -/
theorem run_accepted (lexer : Lexer) (position : Int) (chars : List String) :
    (advanceAll position (lexer.accepted position chars)).run lexer =
      (.ok (), ((advanceAll position chars).run lexer).2) := by
  induction chars generalizing lexer position with
  | nil => rfl
  | cons char rest ih =>
    rw [run_advanceAll_cons, accepted, run_advance]
    cases fed : lexer.feed char position with
    | ok later =>
      dsimp only
      rw [run_advanceAll_cons, fed]
      exact ih later (position + 1)
    | error fault => rfl

/-- What is read is what a beginning can grow by. -/
theorem run_advance_ok_iff (follows : lexer.Follows split) (char : String) (position : Int) :
    ((advance char position).run lexer).1 = .ok () ↔
      ∃ c next, char = c.toString ∧ split.Next c next := by
  rw [run_advance]
  constructor
  · intro read
    cases fed : lexer.feed char position with
    | ok later => exact exists_next_of_feed follows fed
    | error fault =>
      rw [fed] at read
      cases read
  · rintro ⟨c, next, rfl, grows⟩
    obtain ⟨later, fed, -⟩ := feed_next follows grows position
    rw [fed]

theorem follows_accepted (follows : lexer.Follows split) (position : Int) (chars : List String) :
    ∃ grown : Split, ((advanceAll position chars).run lexer).2.Follows grown ∧
      grown.text = split.text ++ (lexer.accepted position chars).flatMap String.toList := by
  induction chars generalizing lexer split position with
  | nil => exact ⟨split, follows, (List.append_nil _).symm⟩
  | cons char rest ih =>
    rw [run_advanceAll_cons, accepted, run_advance]
    cases fed : lexer.feed char position with
    | ok later =>
      obtain ⟨c, next, rfl, grows⟩ := exists_next_of_feed follows fed
      obtain ⟨_, fed', goes_on, -⟩ := feed_next follows grows position
      obtain rfl := Except.ok.inj (fed.symm.trans fed')
      obtain ⟨grown, ends, text⟩ := ih goes_on (position + 1)
      refine ⟨grown, ends, ?_⟩
      rw [text, grows.text_eq, List.append_assoc]
      simp
    | error fault => exact ⟨split, follows, (List.append_nil _).symm⟩

theorem follows_after (follows : lexer.Follows split) (steps : List Step) :
    ∃ grown : Split, (lexer.after steps).Follows grown ∧
      grown.text = split.text ++ lexer.read steps := by
  induction steps generalizing lexer split with
  | nil => exact ⟨split, follows, (List.append_nil _).symm⟩
  | cons step rest ih =>
    obtain ⟨next, follows', text⟩ := follows_accepted follows step.position (step.offered lexer)
    rw [← step.run_perform] at follows'
    obtain ⟨grown, ends, whole⟩ := ih follows'
    exact ⟨grown, ends, by rw [whole, text, List.append_assoc]; rfl⟩

theorem Follows.stateName_eq (follows : lexer.Follows split) :
    lexer.stateName = split.stateName := by
  unfold stateName Split.stateName
  rw [follows.pending]
  rcases split.half with _ | high | _ | _ <;> rfl

/-- Whatever is done with a lexer, it stands for the characters that it has read, which begin a
literal in one way, and it reads on what that beginning can grow by. A step leaves what the characters
leave that are read in it: a character that is refused leaves nothing. -/
theorem after_steps (text : List Char) (steps : List Step) :
    let lexer := (ofText text).after steps
    let read := (ofText text).read steps
    (∃ split : Split, split.text = read ∧ (∀ other : Split, other.text = read → other = split) ∧
      lexer.tokens = split.tokens ∧ lexer.pending = split.half.map Half.awaited ∧
      lexer.stateName = split.stateName ∧
      ∀ (char : String) (position : Int), ((advance char position).run lexer).1 = .ok () ↔
        ∃ c next, char = c.toString ∧ split.Next c next) ∧
    (∀ more : List Step, lexer.tokens <+: (lexer.after more).tokens) ∧
    (∀ step : Step, (advanceAll step.position (step.accepted lexer)).run lexer =
      (.ok (), lexer.after [step])) ∧
    ∀ (char : String) (position : Int) (fault : LexFault),
      ((advance char position).run lexer).1 = .error fault →
      lexer.after [.feed char position] = lexer := by
  intro lexer read
  have fresh : (ofText text).Follows ⟨[], none⟩ := ⟨rfl, rfl⟩
  obtain ⟨split, follows, whole⟩ := follows_after fresh steps
  refine ⟨⟨split, whole, fun other same => Split.eq_of_text (same.trans whole.symm),
    follows.tokens, follows.pending, follows.stateName_eq, run_advance_ok_iff follows⟩,
    fun more => ?_, fun step => ?_, fun char position fault refused => run_advance_refused refused⟩
  · obtain ⟨grown, ends, behind⟩ := follows_after follows more
    rw [follows.tokens, ends.tokens]
    exact Split.tokens_prefix behind
  · exact (run_accepted _ _ _).trans (congrArg _ (step.run_perform _).symm)

-- a run that ends at a wrong character leaves a pair that can still be completed
example : ((ofText ['0', 'G']).after [.run, .feed "1" 7]).tokens = [.exact 0x01] := by rfl

end Lexer
end ByteRecord.Hex
