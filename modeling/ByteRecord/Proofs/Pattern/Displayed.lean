import ByteRecord.Proofs.Hex.Positions
import ByteRecord.Proofs.Pattern.ByteValue
import ByteRecord.Proofs.Plan.Order

/-! Patterns and bytes as they are displayed. What a pattern without computed elements shows at each
position says which matcher stands there, so that a text is the display of one such pattern only. -/
namespace ByteRecord

namespace Matcher

/-- The number that a text of digits with an optional sign spells. -/
def spelt : List Char → Int
  | '-' :: digits => -(Hex.numberOf digits : Int)
  | digits => Hex.numberOf digits

/-- The matcher of which this is the text, unless it is computed. -/
def ofShown (shown : List Char) : Matcher :=
  if shown = ['_', '_'] then .wildcard
  else if shown = ['.', '.'] then .openRange
  else .exact (spelt shown)

theorem text_exact_of_neg {value : Int} (negative : value < 0) : (exact value).text.toList =
    '-' :: Hex.paddedText Hex.upperDigit 1 value.natAbs := by
  rw [text_exact, if_pos negative, String.toList_ofList]

theorem text_exact_of_nonneg {value : Int} (natural : ¬value < 0) : (exact value).text.toList =
    Hex.paddedText Hex.upperDigit 2 value.natAbs := by
  rw [text_exact, if_neg natural, String.toList_ofList]

theorem text_exact_free (value : Int) :
    ∀ c ∈ (exact value).text.toList, c ∉ ['[', ']', ',', ' ', '_', '.'] := by
  have digit : ∀ k < 16, Hex.upperDigit k ∉ ['[', ']', ',', ' ', '_', '.'] := by decide
  have digits (width n : Nat) : ∀ c ∈ Hex.paddedText Hex.upperDigit width n,
      c ∉ ['[', ']', ',', ' ', '_', '.'] := by
    intro c among
    obtain ⟨k, small, rfl⟩ := Hex.mem_paddedText width n c among
    exact digit k small
  by_cases negative : value < 0
  · rw [text_exact_of_neg negative]
    exact List.forall_mem_cons.mpr ⟨by decide, digits 1 _⟩
  · rw [text_exact_of_nonneg negative]
    exact digits 2 _

theorem text_exact_ne (value : Int) (shown : c ∈ ['_', '.']) :
    (exact value).text.toList ≠ [c, c] := by
  intro same
  refine text_exact_free value c (same ▸ List.mem_cons_self) ?_
  exact List.mem_append_right ['[', ']', ',', ' '] shown

theorem text_exact_ne_nil (value : Int) : (exact value).text.toList ≠ [] := by
  by_cases negative : value < 0
  · rw [text_exact_of_neg negative]
    exact List.cons_ne_nil _ _
  · rw [text_exact_of_nonneg negative]
    exact Hex.paddedText_ne_nil 2 _

theorem spelt_text (value : Int) : spelt (exact value).text.toList = value := by
  by_cases negative : value < 0
  · rw [text_exact_of_neg negative, spelt, Hex.numberOf_paddedText]
    omega
  · have unsigned : ∀ k < 16, Hex.upperDigit k ≠ '-' := by decide
    rw [text_exact_of_nonneg negative, spelt, Hex.numberOf_paddedText]
    · omega
    · intro digits signed
      obtain ⟨k, small, same⟩ := Hex.mem_paddedText 2 value.natAbs '-' (signed ▸ List.mem_cons_self)
      exact unsigned k small same.symm

/-- A matcher that is not computed is known by its text. -/
theorem ofShown_text {matcher : Matcher} (plain : ∀ element, matcher ≠ .deferred element) :
    ofShown matcher.text.toList = matcher := by
  cases matcher with
  | exact value =>
    rw [ofShown, if_neg (text_exact_ne value (.head _)),
      if_neg (text_exact_ne value (.tail _ (.head _))), spelt_text]
  | wildcard => rfl
  | openRange => rfl
  | deferred element => exact absurd rfl (plain element)

theorem text_free {matcher : Matcher} (plain : ∀ element, matcher ≠ .deferred element) :
    ∀ c ∈ matcher.text.toList, c ∉ ['[', ']', ',', ' '] := by
  cases matcher with
  | exact value =>
    exact fun c among listed => text_exact_free value c among (List.mem_append_left ['_', '.'] listed)
  | wildcard => simp [text]
  | openRange => simp [text]
  | deferred element => exact absurd rfl (plain element)

theorem text_ne_nil {matcher : Matcher} (plain : ∀ element, matcher ≠ .deferred element) :
    matcher.text.toList ≠ [] := by
  cases matcher with
  | exact value => exact text_exact_ne_nil value
  | wildcard => decide
  | openRange => decide
  | deferred element => exact absurd rfl (plain element)

theorem text_byte (byte : UInt8) : (exact byte.toNat).text.toList = Hex.upperByte byte := by
  rw [← ofToken, text_ofToken, String.toList_ofList, Hex.Token.text]

/-- What is shown at a position is neither a wildcard nor the digits of a byte iff the matcher there
rejects the byte. -/
theorem shows_other_iff {matcher : Matcher} (plain : ∀ element, matcher ≠ .deferred element)
    (single : matcher ≠ .openRange) (byte : UInt8) :
    matcher.text.toList ≠ ['_', '_'] ∧ matcher.text.toList ≠ Hex.upperByte byte ↔
      matcher.takes? byte = some false := by
  cases matcher with
  | exact value =>
    have same : (exact value).text.toList = Hex.upperByte byte ↔ value = byte.toNat := by
      rw [← text_byte]
      refine ⟨fun shown => ?_, fun equal => by rw [equal]⟩
      rw [← spelt_text value, shown, spelt_text]
    rw [takes?, Option.some.injEq, beq_eq_false_iff_ne, Ne, Ne, same]
    exact and_iff_right (text_exact_ne value (by decide))
  | wildcard => exact ⟨fun ⟨other, _⟩ => absurd rfl other, nofun⟩
  | openRange => exact absurd rfl single
  | deferred element => exact absurd rfl (plain element)

/-- A matcher that is not computed takes a byte or not without side effects. -/
theorem run_accepts_of_takes? {matcher : Matcher} (takes : matcher.takes? byte = some accepted)
    (interpreter : Interpreter σ) (scope : Scope) (state : σ) :
    (matcher.accepts interpreter byte scope).run state = (.ok accepted, state) := by
  cases matcher with
  | deferred element => cases takes
  | _ =>
    cases takes
    rfl

theorem takes?_eq_false_iff {matcher : Matcher} (plain : ∀ element, matcher ≠ .deferred element)
    (interpreter : Interpreter σ) (state : σ) : matcher.takes? byte = some false ↔
      ∀ scope state, (matcher.accepts interpreter byte scope).run state = (.ok false, state) := by
  refine ⟨fun takes scope state => run_accepts_of_takes? takes interpreter scope state,
    fun rejects => ?_⟩
  cases takes : matcher.takes? byte with
  | some accepted =>
    have ran := run_accepts_of_takes? takes interpreter .empty state
    rw [rejects .empty state] at ran
    cases ran
    rfl
  | none =>
    cases matcher with
    | deferred element => exact absurd rfl (plain element)
    | _ => cases takes

end Matcher

namespace Pattern

theorem plain_of_deferred_eq_nil {pattern : Pattern} (plain : pattern.deferred = []) :
    ∀ matcher ∈ pattern.matchers, ∀ element, matcher ≠ .deferred element := by
  rintro matcher among element rfl
  exact List.not_mem_nil (plain ▸ mem_deferred.mpr among)

theorem positions_text {pattern : Pattern} (plain : pattern.deferred = []) :
    Hex.positions pattern.text = pattern.matchers.map (·.text.toList) := by
  have words : pattern.matchers.map Matcher.text =
      (pattern.matchers.map (·.text.toList)).map String.ofList := by
    rw [List.map_map]
    exact List.map_congr_left fun matcher _ => String.ofList_toList.symm
  have single := plain_of_deferred_eq_nil plain
  rw [text, words]
  refine Hex.positions_bracketed (fun word among => ?_) fun among => ?_
  all_goals obtain ⟨matcher, own, same⟩ := List.mem_map.mp among
  · subst same
    exact Matcher.text_free (single matcher own)
  · exact Matcher.text_ne_nil (single matcher own) same

/-- The matchers are read back from what the pattern shows at its positions. -/
theorem map_ofShown_positions {pattern : Pattern} (plain : pattern.deferred = []) :
    (Hex.positions pattern.text).map Matcher.ofShown = pattern.matchers := by
  have single := plain_of_deferred_eq_nil plain
  rw [positions_text plain, List.map_map]
  exact (List.map_congr_left fun matcher own => Matcher.ofShown_text (single matcher own)).trans
    (List.map_id _)

/-- Patterns are displayed alike iff they have the same matchers. -/
theorem text_eq_iff {pattern other : Pattern} (plain : pattern.deferred = [])
    (plain' : other.deferred = []) :
    pattern.text = other.text ↔ pattern.matchers = other.matchers := by
  refine ⟨fun same => ?_, fun same => by rw [text, text, same]⟩
  rw [← map_ofShown_positions plain, same, map_ofShown_positions plain']

theorem deferred_ofBytes (data : List UInt8) : (ofBytes data).deferred = [] :=
  List.filterMap_eq_nil_iff.mpr fun matcher among => by
    obtain ⟨byte, -, rfl⟩ := List.mem_map.mp among
    rfl

/-- Bytes are displayed as the pattern is that matches them. -/
theorem formatBytes_eq_text (data : List UInt8) : Hex.formatBytes data = (ofBytes data).text := by
  have texts : (ofBytes data).matchers.map Matcher.text =
      (data.map Hex.upperByte).map String.ofList := by
    rw [ofBytes, List.map_map, List.map_map]
    refine List.map_congr_left fun byte _ => ?_
    exact String.toList_inj.mp ((Matcher.text_byte byte).trans String.toList_ofList.symm)
  rw [Hex.formatBytes_eq, text, texts]

/-- A pattern is displayed as bytes are iff these bytes are its value. -/
theorem text_eq_formatBytes_iff {pattern : Pattern} (plain : pattern.deferred = [])
    (data : List UInt8) : pattern.text = Hex.formatBytes data ↔ pattern.toBytes = .ok data := by
  rw [formatBytes_eq_text, text_eq_iff plain (deferred_ofBytes data), toBytes_ok_iff, ofBytes]

theorem isLiteral_of_toBytes {pattern : Pattern} (valued : pattern.toBytes = .ok data) :
    pattern.isLiteral = true :=
  isLiteral_iff.mpr ⟨_, (toBytes_ok_iff.mp valued).trans (map_exact_toNat data)⟩

/-- What is displayed of a pattern and of bytes differs exactly where the pattern rejects its byte. -/
theorem differsAt_iff {pattern : Pattern} (plain : pattern.deferred = [])
    (fixed : .openRange ∉ pattern.matchers) (data : List UInt8) (i : Nat) :
    Hex.DiffersAt pattern.text (Hex.formatBytes data) i ↔
      ∃ matcher byte, pattern.matchers[i]? = some matcher ∧ data[i]? = some byte ∧
        matcher.takes? byte = some false := by
  have shown {matcher : Matcher} (among : matcher ∈ pattern.matchers) :=
    Matcher.shows_other_iff (plain_of_deferred_eq_nil plain matcher among)
      fun same => fixed (same ▸ among)
  simp only [Hex.DiffersAt, positions_text plain, Hex.positions_formatBytes, List.getElem?_map,
    Option.map_eq_some_iff]
  constructor
  · rintro ⟨_, _, ⟨matcher, there, rfl⟩, ⟨byte, given, rfl⟩, other⟩
    exact ⟨matcher, byte, there, given, (shown (List.mem_of_getElem? there) byte).mp other⟩
  · rintro ⟨matcher, byte, there, given, takes⟩
    exact ⟨_, _, ⟨matcher, there, rfl⟩, ⟨byte, given, rfl⟩,
      (shown (List.mem_of_getElem? there) byte).mpr takes⟩

end Pattern
end ByteRecord
