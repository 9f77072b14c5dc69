import ByteRecord.Proofs.Hex.Language

/-! Where a hex literal is refused. A text can be continued to a literal if and only if it begins one,
and the lexer goes on exactly as long as that is so: its error is found at the end of the longest such
front, and stands where the segment starts that cannot be read. -/
namespace ByteRecord.Hex

/-- A text that is a hex literal. -/
def IsLiteral (text : List Char) : Prop :=
  ∃ tokens, tokenize text = .ok tokens

/-- A text that some characters behind it would make a literal. -/
def Extensible (text : List Char) : Prop :=
  ∃ rest, IsLiteral (text ++ rest)

theorem isLiteral_segments (segments : List Segment) : IsLiteral (segments.flatMap Segment.text) :=
  ⟨_, tokenize_segments segments⟩

theorem exists_split (literal : IsLiteral text) : ∃ split : Split, split.text = text := by
  obtain ⟨tokens, read⟩ := literal
  have lexed := tokenize_lexed text
  rw [read] at lexed
  cases lexed with
  | literal segments whole => exact ⟨⟨segments, none⟩, by simpa using whole⟩

theorem extensible_iff : Extensible text ↔ ∃ split : Split, split.text = text := by
  constructor
  · rintro ⟨rest, literal⟩
    obtain ⟨split, whole⟩ := exists_split literal
    exact Split.exists_of_append whole
  · rintro ⟨⟨segments, half⟩, rfl⟩
    cases half with
    | none =>
      refine ⟨[], ?_⟩
      simpa using isLiteral_segments segments
    | some half =>
      obtain ⟨c, segment, pair⟩ := half.exists_completes
      refine ⟨[c], ?_⟩
      simpa [Split.text, pair.text_eq] using isLiteral_segments (segments ++ [segment])

/-- Behind a beginning that cannot grow by the next character nothing makes a literal. -/
theorem le_of_extensible {split : Split} (stuck : ∀ c ∈ rest.head?, ∀ next, ¬split.Next c next)
    (within : n ≤ (split.text ++ rest).length) (extensible : Extensible ((split.text ++ rest).take n)) :
    n ≤ split.text.length := by
  by_contra beyond
  obtain ⟨whole, same⟩ := extensible_iff.mp extensible
  cases rest with
  | nil =>
    rw [List.append_nil] at within
    exact beyond within
  | cons c rest =>
    obtain ⟨more, rfl⟩ := Nat.exists_eq_add_of_lt (Nat.lt_of_not_le beyond)
    rw [Nat.add_assoc, List.take_length_add_append, List.take_succ_cons] at same
    obtain ⟨next, grows⟩ := Split.not_stuck same
    exact stuck c rfl next grows

/-- What a first half of a pair lacks, in kind and in words. -/
inductive Lacks : Char → LexRole → String → Prop
  | digit (high : Digit) : Lacks high.char .expectedHexDigit "expected a matching hex digit"
  | underscore : Lacks '_' .expectedUnderscore "expected a matching `_`"
  | dot : Lacks '.' .expectedDot "expected a second `.`"

theorem lacks_awaited (half : Half) :
    Lacks half.char half.awaited.role half.awaited.expectation := by
  cases half with
  | digit high => exact .digit high
  | underscore => exact .underscore
  | dot => exact .dot

/-- An error in a text of which the first `k` characters can still be continued to a literal, and of
which the segment that cannot be read starts at `p`. -/
structure IsEarliest (text : List Char) (error : LexError) (k p : Nat) : Prop where
  reach : k ≤ text.length ∧ Extensible (text.take k)
  furthest : ∀ n ≤ text.length, Extensible (text.take n) → n ≤ k
  char : error.char = (text[k]?.map Char.toString).getD ""
  position : error.position = p
  front : IsLiteral (text.take p)
  invalid_iff : error.role = .invalidCharacter ↔ p = k
  invalid : p = k → ∃ c, text[k]? = some c ∧ c ∉ [' ', '\r', '\n', '\t'] ∧
    (∀ digit : Digit, digit.char ≠ c) ∧ c ≠ '_' ∧ c ≠ '.' ∧
    error.message = "invalid character: `" ++ c.toString ++ "` at position " ++ Number.natText k
  /-- The message names the first half and its place, and what stands behind it. -/
  unpaired : p ≠ k → k = p + 1 ∧ ∃ orphan expectation, text[p]? = some orphan ∧
    Lacks orphan error.role expectation ∧
    error.message = expectation ++ " for `" ++ orphan.toString ++ "` at position " ++
      Number.natText p ++ ", got " ++ match text[k]? with
        | some c => "`" ++ c.toString ++ "` at position " ++ Number.natText k
        | none => "end of input"

theorem isEarliest_of_refuses {split : Split}
    (stuck : ∀ c ∈ rest.head?, ∀ next, ¬split.Next c next)
    (refuses : split.Refuses rest.head? error) :
    IsEarliest (split.text ++ rest) error split.text.length split.start := by
  have reach : split.text.length ≤ (split.text ++ rest).length ∧
      Extensible ((split.text ++ rest).take split.text.length) := by
    rw [List.take_left]
    exact ⟨by simp, extensible_iff.mpr ⟨split, rfl⟩⟩
  have front : IsLiteral ((split.text ++ rest).take split.start) := by
    rw [Split.text, List.append_assoc, Split.start, List.take_left]
    exact isLiteral_segments split.segments
  have behind : (split.text ++ rest)[split.text.length]? = rest.head? := by
    rw [List.getElem?_append_right (Nat.le_refl _), Nat.sub_self, List.head?_eq_getElem?]
  have furthest := fun n within => le_of_extensible (n := n) stuck within
  have length := split.length_text
  generalize next : rest.head? = found at stuck refuses behind
  cases refuses with
  | @invalid c idle =>
    have start : split.start = split.text.length := by simp [length, idle]
    obtain ⟨segments, half⟩ := split
    obtain rfl : half = none := idle
    refine ⟨reach, furthest, by rw [behind]; rfl, by rw [start]; rfl, front,
      ⟨fun _ => start, fun _ => rfl⟩, fun _ => ⟨c, behind, ?_, ?_, ?_, ?_, rfl⟩,
      fun other => absurd start other⟩
    · exact fun listed => stuck c rfl _ (.blank segments listed)
    · rintro digit rfl
      exact stuck _ rfl _ (.begins segments (.digit digit))
    · rintro rfl
      exact stuck _ rfl _ (.begins segments .underscore)
    · rintro rfl
      exact stuck _ rfl _ (.begins segments .dot)
  | @unpaired half _ begun =>
    have start : split.text.length = split.start + 1 := by simp [length, begun]
    refine ⟨reach, furthest, ?_, rfl, front, ⟨fun role => ?_, fun same => ?_⟩, fun same => ?_,
      fun _ => ⟨start, _, _, Split.getElem?_start begun rest, lacks_awaited half, ?_⟩⟩
    · rw [behind]
      cases found <;> rfl
    · cases half <;> cases role
    · omega
    · omega
    · rw [behind]
      cases found <;> rfl

/-- A text that is no literal is refused with the earliest error. -/
theorem tokenize_earliest (refused : tokenize text = .error fault) :
    ∃ error k p, fault = .error error ∧ IsEarliest text error k p := by
  have lexed := tokenize_lexed text
  rw [refused] at lexed
  cases lexed with
  | refused split whole stuck refuses =>
    subst whole
    exact ⟨_, _, _, rfl, isEarliest_of_refuses stuck refuses⟩

/-- An underscore that stands alone. -/
theorem tokenize_earliest_underscore :
    tokenize ['0', '0', ' ', '_', 'A'] =
        .error (.error (.unpaired .underscore "_" 3 (some ("A", 4)))) ∧
      IsEarliest ['0', '0', ' ', '_', 'A'] (.unpaired .underscore "_" 3 (some ("A", 4))) 4 3 := by
  have refused : tokenize ['0', '0', ' ', '_', 'A'] =
      .error (.error (.unpaired .underscore "_" 3 (some ("A", 4)))) := by rfl
  obtain ⟨error, k, p, same, earliest⟩ := tokenize_earliest refused
  cases same
  obtain rfl : p = 3 := (Int.natCast_inj.mp earliest.position).symm
  have begun : 3 ≠ k := fun same => by cases earliest.invalid_iff.mpr same
  obtain ⟨rfl, -⟩ := earliest.unpaired begun
  exact ⟨refused, earliest⟩

end ByteRecord.Hex
