import Mathlib.Data.List.Basic
import Mathlib.Data.List.Induction
import ByteRecord.Hex.Token

/-! The language of hex literals, said without a machine. A literal is put together from segments: a
blank, two digits, `__` or `..`. What begins a literal is some segments and at most half a pair
behind them. Character by character such a beginning grows in one way only, so a text has one
reading. -/
namespace ByteRecord.Hex

/-- A digit of either case. -/
structure Digit where
  char : Char
  value : Nat
  value_lt : value < 16
  written : char = lowerDigit value ∨ char = upperDigit value

theorem Digit.digitValue?_char (digit : Digit) : digitValue? digit.char = some digit.value :=
  digitValue?_eq_some_iff.mpr ⟨digit.value_lt, digit.written⟩

theorem Digit.isDigit_char (digit : Digit) : isDigit digit.char := by
  rw [isDigit, digit.digitValue?_char]
  rfl

theorem Digit.char_ne (digit : Digit) (other : digitValue? c = none) : digit.char ≠ c := by
  rintro rfl
  rw [digit.digitValue?_char] at other
  cases other

theorem Digit.eq_of_char {a b : Digit} (same : a.char = b.char) : a = b := by
  have value : a.value = b.value := by
    have read := a.digitValue?_char
    rw [same, b.digitValue?_char] at read
    exact (Option.some.inj read).symm
  cases a
  cases b
  congr

/-- A blank, or a pair of characters. -/
inductive Segment where
  | blank (c : Char) (listed : c ∈ [' ', '\r', '\n', '\t'])
  | byte (high low : Digit)
  | wildcard
  | openRange

namespace Segment

def text : Segment → List Char
  | .blank c _ => [c]
  | .byte high low => [high.char, low.char]
  | .wildcard => ['_', '_']
  | .openRange => ['.', '.']

theorem byte_lt (high low : Digit) : 16 * high.value + low.value < 256 := by
  have := high.value_lt
  have := low.value_lt
  omega

/-- What a segment stands for; a blank stands for nothing. -/
def token? : Segment → Option Token
  | .blank _ _ => none
  | .byte high low => some (.exact (.ofNatLT (16 * high.value + low.value) (byte_lt high low)))
  | .wildcard => some .wildcard
  | .openRange => some .openRange

end Segment

/-- The first half of a pair. -/
inductive Half where
  | digit (high : Digit)
  | underscore
  | dot

namespace Half

def char : Half → Char
  | .digit high => high.char
  | .underscore => '_'
  | .dot => '.'

/-- The pair that a second character makes of a half. -/
inductive Completes : Half → Char → Segment → Prop
  | byte (high low : Digit) : Completes (.digit high) low.char (.byte high low)
  | wildcard : Completes .underscore '_' .wildcard
  | openRange : Completes .dot '.' .openRange

theorem eq_of_char {a b : Half} (same : a.char = b.char) : a = b := by
  have digit_ne (digit : Digit) : digit.char ≠ '_' ∧ digit.char ≠ '.' := by
    constructor
    all_goals
      intro other
      have read := digit.digitValue?_char
      rw [other] at read
      cases read
  cases a with
  | digit high =>
    cases b with
    | digit other => rw [Digit.eq_of_char same]
    | underscore => exact absurd same (digit_ne high).1
    | dot => exact absurd same (digit_ne high).2
  | underscore =>
    cases b with
    | digit other => exact absurd same.symm (digit_ne other).1
    | underscore => rfl
    | dot => exact absurd same (by decide)
  | dot =>
    cases b with
    | digit other => exact absurd same.symm (digit_ne other).2
    | underscore => exact absurd same (by decide)
    | dot => rfl

theorem char_not_blank (half : Half) : half.char ∉ [' ', '\r', '\n', '\t'] := by
  cases half with
  | digit high =>
    intro listed
    have read := high.digitValue?_char
    simp only [List.mem_cons, List.not_mem_nil, or_false] at listed
    rcases listed with same | same | same | same
    all_goals
      rw [show high.char = _ from same] at read
      cases read
  | underscore => decide
  | dot => decide

theorem Completes.unique {half : Half} {segment other : Segment}
    (first : half.Completes c segment) (second : half.Completes c other) : segment = other := by
  cases first with
  | byte high low =>
    generalize same : low.char = c at second
    cases second with
    | byte _ low' => rw [Digit.eq_of_char same]
  | wildcard =>
    cases second
    rfl
  | openRange =>
    cases second
    rfl

theorem exists_completes (half : Half) : ∃ c segment, half.Completes c segment := by
  cases half with
  | digit high => exact ⟨_, _, .byte high high⟩
  | underscore => exact ⟨_, _, .wildcard⟩
  | dot => exact ⟨_, _, .openRange⟩

end Half

/-- A segment is a blank, or half a pair and the character that completes it. -/
theorem Segment.blank_or_pair (segment : Segment) :
    (∃ c listed, segment = .blank c listed) ∨
      ∃ half c, Half.Completes half c segment ∧ segment.text = [half.char, c] := by
  cases segment with
  | blank c listed => exact .inl ⟨c, listed, rfl⟩
  | byte high low => exact .inr ⟨_, _, .byte high low, rfl⟩
  | wildcard => exact .inr ⟨_, _, .wildcard, rfl⟩
  | openRange => exact .inr ⟨_, _, .openRange, rfl⟩

theorem Half.Completes.text_eq {half : Half} {segment : Segment}
    (completes : half.Completes c segment) : segment.text = [half.char, c] := by
  cases completes <;> rfl

/-- What begins a literal: segments, and at most half a pair behind them. -/
structure Split where
  segments : List Segment
  half : Option Half

namespace Split

def text (split : Split) : List Char :=
  split.segments.flatMap Segment.text ++ (split.half.map Half.char).toList

@[simp] theorem text_none (segments : List Segment) :
    (⟨segments, none⟩ : Split).text = segments.flatMap Segment.text :=
  List.append_nil _

/-- The tokens of the segments. -/
def tokens (split : Split) : List Token :=
  split.segments.filterMap Segment.token?

/-- One more character behind a beginning. -/
inductive Next : Split → Char → Split → Prop
  | blank (segments : List Segment) (listed : c ∈ [' ', '\r', '\n', '\t']) :
    Next ⟨segments, none⟩ c ⟨segments ++ [.blank c listed], none⟩
  | begins (segments : List Segment) (half : Half) :
    Next ⟨segments, none⟩ half.char ⟨segments, some half⟩
  | completes (segments : List Segment) {half : Half} {segment : Segment}
    (pair : half.Completes c segment) :
    Next ⟨segments, some half⟩ c ⟨segments ++ [segment], none⟩

theorem Next.text_eq {split later : Split} (next : split.Next c later) :
    later.text = split.text ++ [c] := by
  cases next with
  | blank segments listed => simp [text, Segment.text]
  | begins segments half => simp [text]
  | completes segments pair => simp [text, pair.text_eq]

theorem Next.unique {split later other : Split} (first : split.Next c later)
    (second : split.Next c other) : later = other := by
  cases first with
  | blank segments listed =>
    cases second with
    | blank => rfl
    | begins _ half => exact absurd listed half.char_not_blank
  | begins segments half =>
    generalize same : half.char = c at second
    cases second with
    | blank _ listed => exact absurd (same ▸ listed) half.char_not_blank
    | begins _ half' => rw [Half.eq_of_char same]
  | completes segments pair =>
    cases second with
    | completes _ pair' => rw [pair.unique pair']

theorem text_eq_nil {split : Split} (empty : split.text = []) : split = ⟨[], none⟩ := by
  obtain ⟨segments, half⟩ := split
  obtain ⟨no_segments, no_half⟩ := List.append_eq_nil_iff.mp empty
  have none_left : segments = [] := by
    cases segments with
    | nil => rfl
    | cons segment rest => cases segment <;> cases no_segments
  cases half with
  | none => rw [none_left]
  | some half => cases no_half

/-- A beginning whose last character is taken away is a beginning. -/
theorem exists_next {later : Split} (ends : later.text = w ++ [c]) :
    ∃ split : Split, split.text = w ∧ split.Next c later := by
  obtain ⟨segments, half⟩ := later
  cases half with
  | some half =>
    obtain ⟨same, last⟩ := List.append_inj' ends rfl
    obtain rfl : half.char = c := List.head_eq_of_cons_eq last
    exact ⟨⟨segments, none⟩, by simpa [text] using same, .begins segments half⟩
  | none =>
    simp only [text, Option.map_none, Option.toList_none, List.append_nil] at ends
    rcases List.eq_nil_or_concat' segments with rfl | ⟨earlier, segment, rfl⟩
    · exact absurd ends.symm (List.concat_ne_nil c w)
    rw [List.flatMap_append, List.flatMap_singleton] at ends
    rcases segment.blank_or_pair with ⟨blank, listed, rfl⟩ | ⟨half, second, pair, chars⟩
    · obtain ⟨same, last⟩ := List.append_inj' ends rfl
      obtain rfl : blank = c := List.head_eq_of_cons_eq last
      exact ⟨⟨earlier, none⟩, by simpa [text] using same, .blank earlier listed⟩
    · rw [chars, List.append_cons] at ends
      obtain ⟨same, last⟩ := List.append_inj' ends rfl
      obtain rfl : second = c := List.head_eq_of_cons_eq last
      exact ⟨⟨earlier, some half⟩, by simpa [text] using same, .completes earlier pair⟩

/-- A text begins a literal in one way. -/
theorem eq_of_text {split other : Split} (same : split.text = other.text) : split = other := by
  -- from the end: both lose their last character, and what is left grows in one way
  induction whole : split.text using List.reverseRecOn generalizing split other with
  | nil => exact (text_eq_nil whole).trans (text_eq_nil (same.symm.trans whole)).symm
  | append_singleton w c ih =>
    obtain ⟨before, own, next⟩ := exists_next whole
    obtain ⟨before', own', next'⟩ := exists_next (same.symm.trans whole)
    obtain rfl : before = before' := ih (own.trans own'.symm) own
    exact next.unique next'

/-- A text is put together from segments in one way. -/
theorem segments_eq_of_text {segments others : List Segment}
    (same : segments.flatMap Segment.text = others.flatMap Segment.text) : segments = others := by
  have one : (⟨segments, none⟩ : Split) = ⟨others, none⟩ := eq_of_text (by simpa using same)
  exact congrArg Split.segments one

theorem exists_of_append {split : Split} (whole : split.text = w ++ rest) :
    ∃ front : Split, front.text = w := by
  induction rest using List.reverseRecOn generalizing split with
  | nil => exact ⟨split, by rw [whole, List.append_nil]⟩
  | append_singleton rest c ih =>
    rw [← List.append_assoc] at whole
    obtain ⟨before, same, -⟩ := exists_next whole
    exact ih same

/-- A character that a beginning cannot grow by is in no literal behind it. -/
theorem not_stuck {split whole : Split} (same : whole.text = split.text ++ c :: rest) :
    ∃ later, split.Next c later := by
  rw [List.append_cons] at same
  obtain ⟨front, own⟩ := exists_of_append same
  obtain ⟨before, text, next⟩ := exists_next own
  exact ⟨front, eq_of_text text ▸ next⟩

end Split
end ByteRecord.Hex
