import ByteRecord.Proofs.Hex.Rendered
import ByteRecord.Proofs.Hex.Segments

/-! The lexer of hex literals reads their language. Between two characters it stands for the one way
in which what it has read begins a literal: it has the tokens of the segments and awaits the second
half of the pair. So it goes on exactly as far as that beginning grows. -/
namespace ByteRecord.Hex

theorem toString_inj {c d : Char} (same : c.toString = d.toString) : c = d := by
  rw [← Option.some.injEq, ← single?_toString, same, single?_toString]

theorem isBlank_iff : Lexer.isBlank c ↔ c ∈ [' ', '\r', '\n', '\t'] := by
  simp [Lexer.isBlank, or_assoc]

/-- What a half awaits. -/
def Half.awaited : Half → Awaited
  | .digit high => .digit high.value
  | .underscore => .underscore
  | .dot => .dot

theorem opening?_char (half : Half) : Lexer.opening? half.char = some half.awaited := by
  cases half with
  | digit high =>
    simp only [Half.char, Lexer.opening?, high.digitValue?_char]
    rfl
  | underscore => rfl
  | dot => rfl

theorem exists_half (opens : Lexer.opening? c = some awaited) :
    ∃ half : Half, half.char = c ∧ half.awaited = awaited := by
  unfold Lexer.opening? at opens
  split at opens
  · next value read =>
    obtain ⟨small, written⟩ := digitValue?_eq_some_iff.mp read
    exact ⟨.digit ⟨c, value, small, written⟩, rfl, Option.some.inj opens⟩
  · split at opens
    · next underscore => exact ⟨.underscore, (beq_iff_eq.mp underscore).symm, Option.some.inj opens⟩
    · split at opens
      · next dot => exact ⟨.dot, (beq_iff_eq.mp dot).symm, Option.some.inj opens⟩
      · cases opens

theorem Half.Completes.completed? {half : Half} {segment : Segment}
    (pair : half.Completes c segment) :
    ∃ token, Lexer.completed? half.awaited c = some token ∧ segment.token? = some token := by
  cases pair with
  | byte high low =>
    refine ⟨_, ?_, rfl⟩
    simp only [awaited, Lexer.completed?, low.digitValue?_char, Option.map_some]
    rw [Nat.mul_comm, UInt8.ofNatLT_eq_ofNat]
  | wildcard => exact ⟨_, rfl, rfl⟩
  | openRange => exact ⟨_, rfl, rfl⟩

theorem exists_pair {half : Half} (completed : Lexer.completed? half.awaited c = some token) :
    ∃ segment, half.Completes c segment := by
  cases half with
  | digit high =>
    obtain ⟨value, read, -⟩ := Option.map_eq_some_iff.mp completed
    obtain ⟨small, written⟩ := digitValue?_eq_some_iff.mp read
    exact ⟨_, .byte high ⟨c, value, small, written⟩⟩
  | underscore =>
    simp only [Half.awaited, Lexer.completed?, Option.ite_none_right_eq_some, beq_iff_eq] at completed
    obtain ⟨rfl, -⟩ := completed
    exact ⟨_, .wildcard⟩
  | dot =>
    simp only [Half.awaited, Lexer.completed?, Option.ite_none_right_eq_some, beq_iff_eq] at completed
    obtain ⟨rfl, -⟩ := completed
    exact ⟨_, .openRange⟩

namespace Lexer

/-- The state of a lexer is that of a beginning. -/
structure Follows (lexer : Lexer) (split : Split) : Prop where
  tokens : lexer.tokens = split.tokens
  pending : lexer.pending = split.half.map Half.awaited

variable {lexer fed : Lexer} {split later : Split} {position : Int}

theorem feed_next (follows : lexer.Follows split) (next : split.Next c later) (position : Int) :
    ∃ fed, lexer.feed c.toString position = .ok fed ∧ fed.Follows later ∧ fed.text = lexer.text ∧
      (later.half.isSome → fed.pendingAt = position) := by
  obtain ⟨tokens, pending⟩ := follows
  cases next with
  | blank segments listed =>
    refine ⟨lexer, ?_, ⟨?_, pending⟩, rfl, fun begun => by cases begun⟩
    · have idle : lexer.pending = none := pending
      rw [feed, single?_toString]
      simp [feedPiece, idle, isBlank_iff.mpr listed]
    · rw [tokens, Split.tokens, Split.tokens, List.filterMap_append]
      exact (List.append_nil _).symm
  | begins segments half =>
    have mark : isBlank half.char = false := by
      rw [Bool.eq_false_iff]
      exact fun blank => half.char_not_blank (isBlank_iff.mp blank)
    exact ⟨_, lexer.feed_opening position pending mark (opening?_char half), ⟨tokens, rfl⟩, rfl,
      fun _ => rfl⟩
  | completes segments pair =>
    obtain ⟨token, completed, stands⟩ := pair.completed?
    refine ⟨_, lexer.feed_completing position pending completed, ⟨?_, rfl⟩, rfl,
      fun begun => by cases begun⟩
    simp [tokens, Split.tokens, stands]

/-- What a lexer reads is a character, and what it has read grows by it. -/
theorem exists_next_of_feed (follows : lexer.Follows split)
    (read : lexer.feed char position = .ok fed) :
    ∃ c later, char = c.toString ∧ split.Next c later := by
  have shown {c : Char} (single : single? char = some c) : char = c.toString := by
    unfold single? at single
    split at single
    · next d chars =>
      cases single
      rw [← String.toList_inj, chars, Char.toString, String.toList_singleton]
    · cases single
  obtain ⟨segments, half⟩ := split
  unfold feed feedPiece at read
  cases half with
  | none =>
    rw [show lexer.pending = none from follows.pending] at read
    dsimp only at read
    split at read
    · cases read
    · next c single =>
      refine ⟨c, ?_⟩
      split at read
      · next blank => exact ⟨_, shown single, .blank segments (isBlank_iff.mp blank)⟩
      · split at read
        · next opens =>
          obtain ⟨half, rfl, -⟩ := exists_half opens
          exact ⟨_, shown single, .begins segments half⟩
        · cases read
  | some half =>
    rw [show lexer.pending = some half.awaited from follows.pending] at read
    dsimp only at read
    split at read
    · next token completed =>
      obtain ⟨c, single, made⟩ := Option.bind_eq_some_iff.mp completed
      obtain ⟨segment, pair⟩ := exists_pair made
      exact ⟨c, _, shown single, .completes segments pair⟩
    · cases read

theorem feed_error (refused : lexer.feed char position = .error fault) :
    (lexer.pending = none ∧ fault = .error (.invalid char position)) ∨
      ∃ awaited, lexer.pending = some awaited ∧ ∀ orphan, lexer.orphan? = some orphan →
        fault = .error (.unpaired awaited orphan lexer.pendingAt (some (char, position))) := by
  unfold feed feedPiece at refused
  split at refused
  · next awaited pending =>
    split at refused
    · cases refused
    · refine .inr ⟨awaited, pending, fun orphan stands => ?_⟩
      rw [refuse_of_orphan? awaited _ stands] at refused
      exact (Except.error.inj refused).symm
  · next idle =>
    refine .inl ⟨idle, ?_⟩
    split at refused
    · exact (Except.error.inj refused).symm
    · split at refused
      · cases refused
      · split at refused
        · cases refused
        · exact (Except.error.inj refused).symm

end Lexer

namespace Split

/-- Where the pair starts that a beginning leaves open. -/
def start (split : Split) : Nat :=
  (split.segments.flatMap Segment.text).length

theorem getElem?_start {split : Split} {half : Half} (begun : split.half = some half)
    (rest : List Char) :
    (split.text ++ rest)[split.start]? = some half.char := by
  simp [text, start, begun]

theorem length_text (split : Split) :
    split.text.length = split.start + (split.half.map Half.char).toList.length := by
  rw [text, List.length_append, start]

/-- The error for a beginning and the character behind it, or the end of the text. -/
inductive Refuses (split : Split) : Option Char → LexError → Prop
  | invalid (idle : split.half = none) :
    Refuses split (some c) (.invalid c.toString split.text.length)
  | unpaired {half : Half} {found : Option Char} (begun : split.half = some half) :
    Refuses split found (.unpaired half.awaited half.char.toString split.start
      (found.map fun c => (c.toString, (split.text.length : Int))))

end Split

namespace Lexer
variable {lexer : Lexer} {split : Split}

/-- A lexer has read the front of its text. -/
structure HasRead (lexer : Lexer) (text : List Char) (split : Split) : Prop
    extends lexer.Follows split where
  own : lexer.text = text.map Char.toString
  begun : split.half.isSome → lexer.pendingAt = split.start

theorem HasRead.orphan? {half : Half} (read : lexer.HasRead (split.text ++ rest) split)
    (begun : split.half = some half) : lexer.orphan? = some half.char.toString := by
  have start : lexer.pendingAt = split.start := read.begun (by rw [begun]; rfl)
  have ahead : ¬((split.start : Int) < 0) := by omega
  simp only [Lexer.orphan?, start, ahead, if_false, Int.toNat_natCast, read.own]
  rw [List.getElem?_map, Split.getElem?_start begun, Option.map_some]

/-- A lexer has come to the end of its text, or to the first character that can stand in no literal
there. -/
inductive ReadsOn (text : List Char) : Except LexFault Unit × Lexer → Prop
  | ended {last : Split} (whole : last.text = text) (read : later.HasRead text last) :
    ReadsOn text (.ok (), later)
  | refused {stop : Split} (front : text = stop.text ++ c :: behind)
    (stuck : ∀ next, ¬stop.Next c next) (refuses : stop.Refuses (some c) error) :
    ReadsOn text (.error (.error error), later)

theorem feedAll_readsOn (text rest : List Char) (whole : text = split.text ++ rest)
    (read : lexer.HasRead text split) :
    ReadsOn text (lexer.feedAll split.text.length (rest.map Char.toString)) := by
  induction rest generalizing lexer split with
  | nil => exact .ended (by rw [whole, List.append_nil]) read
  | cons c rest ih =>
    rw [List.map_cons, feedAll]
    cases fed : lexer.feed c.toString split.text.length with
    | ok further =>
      obtain ⟨d, next, same, grows⟩ := exists_next_of_feed read.toFollows fed
      obtain rfl := toString_inj same
      obtain ⟨_, fed', follows, kept, begins⟩ :=
        feed_next read.toFollows grows split.text.length
      obtain rfl := Except.ok.inj (fed.symm.trans fed')
      have front : next.text = split.text ++ [c] := grows.text_eq
      have length : next.text.length = split.text.length + 1 := by
        rw [front, List.length_append, List.length_singleton]
      have behind : text = next.text ++ rest := by rw [whole, front, List.append_assoc]; rfl
      have goes_on := ih behind ⟨follows, kept.trans read.own, fun begun => (begins begun).trans ?_⟩
      · rwa [length] at goes_on
      · -- a pair that has just begun is the last character
        obtain ⟨half, same⟩ := Option.isSome_iff_exists.mp begun
        have := next.length_text
        rw [same] at this
        simp only [Option.map_some, Option.toList_some, List.length_singleton] at this
        omega
    | error fault =>
      have stuck (next : Split) : ¬split.Next c next := by
        intro grows
        obtain ⟨_, fed', -⟩ := feed_next read.toFollows grows split.text.length
        cases fed.symm.trans fed'
      rcases feed_error fed with ⟨idle, rfl⟩ | ⟨awaited, pending, refusal⟩
      · have none_begun : split.half = none := by
          have := read.pending
          rw [idle] at this
          exact Option.map_eq_none_iff.mp this.symm
        exact .refused whole stuck (.invalid none_begun)
      · have own := read.pending
        rw [pending] at own
        obtain ⟨half, begun, rfl⟩ := Option.map_eq_some_iff.mp own.symm
        have start : lexer.pendingAt = split.start := read.begun (by rw [begun]; rfl)
        obtain rfl := refusal _ (HasRead.orphan? (whole ▸ read) begun)
        exact .refused whole stuck (start ▸ .unpaired begun)

end Lexer

/-- What becomes of a text. -/
inductive Lexed (text : List Char) : Except LexFault (List Token) → Prop
  | literal (segments : List Segment) (whole : segments.flatMap Segment.text = text) :
    Lexed text (.ok (segments.filterMap Segment.token?))
  | refused (split : Split) (whole : text = split.text ++ rest)
    (stuck : ∀ c ∈ rest.head?, ∀ next, ¬split.Next c next)
    (refuses : split.Refuses rest.head? error) : Lexed text (.error (.error error))

theorem tokenize_lexed (text : List Char) : Lexed text (tokenize text) := by
  have fresh : (Lexer.ofText text).HasRead text ⟨[], none⟩ := ⟨⟨rfl, rfl⟩, rfl, nofun⟩
  have whole : text = (⟨[], none⟩ : Split).text ++ text := rfl
  have reads := Lexer.feedAll_readsOn text text whole fresh
  change Lexer.ReadsOn text ((Lexer.ofText text).feedAll 0 (Lexer.ofText text).text) at reads
  unfold tokenize Lexer.run
  cases all : (Lexer.ofText text).feedAll 0 (Lexer.ofText text).text with
  | mk answer later =>
    rw [all] at reads
    cases reads with
    | @ended _ last whole read =>
      obtain ⟨segments, half⟩ := last
      cases half with
      | none =>
        have idle : later.pending = none := read.pending
        simp only [Lexer.finish, idle, read.tokens]
        exact .literal segments (by simpa using whole)
      | some half =>
        have pending : later.pending = some half.awaited := read.pending
        have start : later.pendingAt = (⟨segments, some half⟩ : Split).start := read.begun rfl
        rw [← whole, ← List.append_nil (Split.text _)] at read
        have stands := read.orphan? rfl
        simp only [Lexer.finish, pending]
        rw [Lexer.refuse_of_orphan? _ _ stands, start]
        exact .refused _ (by rw [whole, List.append_nil]) (fun c absent => by cases absent)
          (.unpaired rfl)
    | @refused c behind error _ stop front stuck refuses =>
      exact .refused stop front (by simpa using stuck) refuses

/-- A hex literal is refused with an error that says where, always: the first half of a pair that is
not completed stands in the text. -/
theorem tokenize_refused (refused : tokenize text = .error fault) :
    ∃ error, fault = .error error := by
  have lexed := tokenize_lexed text
  rw [refused] at lexed
  cases lexed with
  | refused => exact ⟨_, rfl⟩

/-- A text that is put together from segments is read as their tokens. -/
theorem tokenize_segments (segments : List Segment) :
    tokenize (segments.flatMap Segment.text) = .ok (segments.filterMap Segment.token?) := by
  have lexed := tokenize_lexed (segments.flatMap Segment.text)
  generalize tokenize (segments.flatMap Segment.text) = result at lexed
  cases lexed with
  | literal others same => rw [Split.segments_eq_of_text same]
  | @refused rest error split front stuck refuses =>
    rw [← Split.text_none] at front
    cases rest with
    | nil =>
      obtain rfl := Split.eq_of_text (front.trans (List.append_nil _))
      cases refuses with
      | unpaired begun => cases begun
    | cons c rest =>
      obtain ⟨later, next⟩ := Split.not_stuck front
      exact absurd next (stuck c rfl later)

/-- The lexer accepts the texts that are put together from blanks, pairs of digits, `__` and `..`.
Each of them is put together in one way, and is read as the tokens of its pairs in their order. -/
theorem tokenize_language (text : List Char) :
    ((∃ tokens, tokenize text = .ok tokens) ↔
      ∃ segments : List Segment, segments.flatMap Segment.text = text) ∧
    ∀ segments : List Segment, segments.flatMap Segment.text = text →
      (∀ others : List Segment, others.flatMap Segment.text = text → others = segments) ∧
      tokenize text = .ok (segments.filterMap Segment.token?) := by
  refine ⟨⟨?_, ?_⟩, ?_⟩
  · rintro ⟨tokens, read⟩
    have lexed := tokenize_lexed text
    rw [read] at lexed
    cases lexed with
    | literal segments whole => exact ⟨segments, whole⟩
  · rintro ⟨segments, rfl⟩
    exact ⟨_, tokenize_segments segments⟩
  · rintro segments rfl
    exact ⟨fun others => Split.segments_eq_of_text, tokenize_segments segments⟩

end ByteRecord.Hex
