import ByteRecord.Proofs.Pattern.OpenRange

/-! Literal patterns and the bytes that they stand for. Every construction of a pattern checks the
numbers that it makes matchers of, but takes a matcher that it is handed as it is; so the patterns
with a byte value are the literal ones without such a matcher beyond a byte. -/
namespace ByteRecord.Pattern
open Source

theorem isLiteral_iff {pattern : Pattern} :
    pattern.isLiteral = true ↔ ∃ values : List Int, pattern.matchers = values.map .exact := by
  obtain ⟨matchers, form⟩ := pattern
  rw [isLiteral, List.all_eq_true]
  dsimp only
  constructor
  · intro literal
    induction matchers with
    | nil => exact ⟨[], rfl⟩
    | cons matcher matchers ih =>
      obtain ⟨own, others⟩ := List.forall_mem_cons.mp literal
      obtain ⟨values, rfl⟩ := ih others
      cases matcher with
      | exact value => exact ⟨value :: values, rfl⟩
      | wildcard => cases own
      | openRange => cases own
      | deferred element => cases own
  · rintro ⟨values, rfl⟩ matcher among
    obtain ⟨value, -, rfl⟩ := List.mem_map.mp among
    rfl

theorem byteOf_ok_iff : byteOf value = .ok byte ↔ value = byte.toNat := by
  have small := byte.toNat_lt
  unfold byteOf
  split
  · next within =>
    simp only [Bool.and_eq_true, decide_eq_true_eq] at within
    rw [Except.ok.injEq, ← UInt8.toNat_inj, UInt8.toNat_ofNat']
    omega
  · next beyond =>
    simp only [Bool.and_eq_true, decide_eq_true_eq] at beyond
    exact ⟨nofun, fun same => absurd (by omega) beyond⟩

theorem byteOf_error_iff : byteOf value = .error fault ↔
    ¬(0 ≤ value ∧ value ≤ 255) ∧ fault = .failure .value := by
  unfold byteOf
  split
  · next within =>
    simp only [Bool.and_eq_true, decide_eq_true_eq] at within
    exact ⟨nofun, fun ⟨beyond, _⟩ => absurd within beyond⟩
  · next beyond =>
    simp only [Bool.and_eq_true, decide_eq_true_eq] at beyond
    rw [Except.error.injEq]
    exact ⟨fun same => ⟨beyond, same.symm⟩, fun ⟨_, same⟩ => same.symm⟩

theorem toBytes_of_values {form : Form} (values : List Int) :
    toBytes ⟨values.map .exact, form⟩ = values.mapM byteOf := by
  have literal : isLiteral ⟨values.map .exact, form⟩ = true := isLiteral_iff.mpr ⟨values, rfl⟩
  have kept : (values.map Matcher.exact).filterMap Matcher.exactValue? = values := by
    rw [List.filterMap_map]
    exact List.filterMap_some
  rw [toBytes, literal, if_pos rfl]
  dsimp only
  rw [kept]

theorem map_exact_toNat (data : List UInt8) : (data.map fun byte => Matcher.exact byte.toNat) =
    (data.map fun byte => (byte.toNat : Int)).map .exact := by
  rw [List.map_map]
  rfl

/-- The byte value of a pattern is the one whose bytes are its matchers. -/
theorem toBytes_ok_iff {pattern : Pattern} : pattern.toBytes = .ok data ↔
    pattern.matchers = data.map fun byte => .exact byte.toNat := by
  obtain ⟨matchers, form⟩ := pattern
  have each (values : List Int) : values.mapM byteOf = .ok data ↔
      values = data.map fun byte => (byte.toNat : Int) := by
    rw [mapM_ok_iff]
    simp only [byteOf_ok_iff]
    rw [← List.forall₂_map_right_iff (f := fun byte : UInt8 => (byte.toNat : Int)),
      List.forall₂_eq_eq_eq]
  constructor
  · intro valued
    have literal : isLiteral ⟨matchers, form⟩ = true := by
      unfold toBytes at valued
      split at valued
      · assumption
      · cases valued
    obtain ⟨values, rfl⟩ := isLiteral_iff.mp literal
    rw [toBytes_of_values, each] at valued
    rw [valued, map_exact_toNat]
  · rintro rfl
    rw [map_exact_toNat, toBytes_of_values, each]

/-- A pattern with a byte value matches these bytes and no others. -/
theorem run_accepts_of_toBytes {pattern : Pattern} (valued : pattern.toBytes = .ok data)
    (interpreter : Interpreter σ) (other : List UInt8) (scope : Scope) (state : σ) :
    (pattern.accepts interpreter other scope).run state = (.ok (decide (other = data)), state) := by
  have bytes := toBytes_ok_iff.mp valued
  have only (matcher : Matcher) (among : matcher ∈ pattern.matchers) :
      ∃ byte : UInt8, matcher = .exact byte.toNat := by
    rw [bytes] at among
    obtain ⟨byte, -, rfl⟩ := List.mem_map.mp among
    exact ⟨byte, rfl⟩
  obtain ⟨answer, run, fits⟩ := run_accepts_fixed interpreter scope state pattern
    (fun element among => nomatch only _ among) (fun among => nomatch only _ among) other
  have taken (byte given : UInt8) :
      Matcher.Takes interpreter scope state (.exact byte.toNat) given ↔ byte = given := by
    change (Except.ok ((byte.toNat : Int) == (given.toNat : Int)), state) = (.ok true, state) ↔ _
    rw [Prod.mk.injEq, Except.ok.injEq, beq_iff_eq, Int.natCast_inj, UInt8.toNat_inj]
    exact and_iff_left rfl
  have same : answer = true ↔ other = data := by
    rw [fits, bytes, Fits, List.forall₂_map_left_iff]
    simp only [taken]
    rw [List.forall₂_eq_eq_eq]
    exact eq_comm
  rw [run, Bool.eq_iff_iff.mpr (same.trans decide_eq_true_iff.symm)]

/-- A literal pattern without a byte value holds a number that is no byte. -/
theorem beyond_of_toBytes_error {pattern : Pattern} (literal : pattern.isLiteral = true)
    (failed : pattern.toBytes = .error fault) : fault = .failure .value ∧
      ∃ value, .exact value ∈ pattern.matchers ∧ ¬(0 ≤ value ∧ value ≤ 255) := by
  obtain ⟨matchers, form⟩ := pattern
  obtain ⟨values, rfl⟩ := isLiteral_iff.mp literal
  rw [toBytes_of_values] at failed
  obtain ⟨value, among, own⟩ := exists_of_mapM_error failed
  obtain ⟨beyond, rfl⟩ := byteOf_error_iff.mp own
  exact ⟨rfl, value, List.mem_map_of_mem among, beyond⟩

/-- Patterns that can be obtained, where the matchers that are handed in as elements are given. -/
inductive Obtained (handed : Matcher → Prop) : Pattern → Prop
  | hex (read : ofHex digits = .ok pattern) : Obtained handed pattern
  | freeHex (read : ofFreeHex digits = .ok pattern) : Obtained handed pattern
  | bytes (data : List UInt8) : Obtained handed (ofBytes data)
  | array (each : ∀ matcher, .matcher matcher ∈ elements → handed matcher)
      (made : ofArray elements = .ok pattern) : Obtained handed pattern
  | same (own : Obtained handed other) (made : (Given.pattern other).toPattern = .ok pattern) :
    Obtained handed pattern
  | elements (each : ∀ matcher, .matcher matcher ∈ elements → handed matcher)
      (made : (Given.array elements).toPattern = .ok pattern) : Obtained handed pattern
  | coerced (made : (Given.value given).toPattern = .ok pattern) : Obtained handed pattern
  | source (read : Pattern.read.run cursor = (.ok pattern, after)) : Obtained handed pattern

theorem byte_of_ofToken {pieces : List Hex.Token}
    (among : .exact value ∈ pieces.map Matcher.ofToken) : 0 ≤ value ∧ value ≤ 255 := by
  obtain ⟨piece, -, made⟩ := List.mem_map.mp among
  cases piece with
  | exact byte =>
    obtain rfl := Matcher.exact.inj made
    have small := byte.toNat_lt
    omega
  | wildcard => cases made
  | openRange => cases made

theorem byte_of_ofBytes {data : List UInt8} (among : .exact value ∈ (ofBytes data).matchers) :
    0 ≤ value ∧ value ≤ 255 := by
  obtain ⟨byte, -, made⟩ := List.mem_map.mp among
  obtain rfl := Matcher.exact.inj made
  have small := byte.toNat_lt
  omega

/-- An element that stands for a number is a byte, or the matcher as such. -/
theorem exact_of_toMatcher {element : Element} {value : Int}
    (made : element.toMatcher = .ok (.exact value)) :
    element = .matcher (.exact value) ∨ 0 ≤ value ∧ value ≤ 255 := by
  unfold Element.toMatcher at made
  split at made
  · cases made
  · cases made
    exact .inl rfl
  · right
    split at made
    case h_8 =>
      obtain ⟨natural, small, same⟩ := exactByte_ok_iff.mp made
      cases same
      exact ⟨natural, small⟩
    case h_9 =>
      split at made <;> cases made
    all_goals cases made

theorem exact_of_ofArray (made : ofArray elements = .ok pattern)
    (among : .exact value ∈ pattern.matchers) :
    .matcher (.exact value) ∈ elements ∨ 0 ≤ value ∧ value ≤ 255 := by
  obtain ⟨matchers, each, same⟩ := bind_ok_iff.mp made
  cases same
  obtain ⟨element, present, own⟩ := exists_of_forall₂ (mapM_ok_iff.mp each) among
  rcases exact_of_toMatcher own with rfl | byte
  · exact .inl present
  · exact .inr byte

theorem of_run_read_ok (result : Pattern.read.run cursor = (.ok pattern, after)) :
    (∃ literal location, ofLiteral literal location = .ok pattern) ∨
      ∃ text location, ofDisplay text location = .ok pattern := by
  rw [Pattern.read, Reading.run_get_bind] at result
  dsimp only at result
  split at result
  · obtain ⟨_, _, -, own⟩ := run_bind_ok_iff.mp result
    exact .inl ⟨_, _, (run_lift_ok_iff.mp own).1⟩
  · split at result
    · obtain ⟨⟨text, location⟩, _, -, own⟩ := run_bind_ok_iff.mp result
      exact .inr ⟨_, _, (run_lift_ok_iff.mp own).1⟩
    · cases result

theorem byte_of_ofLiteral (made : ofLiteral literal location = .ok pattern)
    (among : .exact value ∈ pattern.matchers) : 0 ≤ value ∧ value ≤ 255 := by
  unfold ofLiteral at made
  extract_lets text read at made
  clear_value read
  split at made
  · cases made
    exact byte_of_ofBytes among
  · obtain ⟨pieces, -, -, rfl⟩ := ofHex_ok_iff.mp (mapError_ok_iff.mp made)
    exact byte_of_ofToken among
  · cases made

theorem byte_of_ofDisplay {text : List Char} (made : ofDisplay text location = .ok pattern)
    (among : .exact value ∈ pattern.matchers) : 0 ≤ value ∧ value ≤ 255 := by
  unfold ofDisplay at made
  extract_lets text refuse at made
  split at made
  · cases made
  · split at made
    · cases made
    · cases made
    · obtain ⟨matchers, each, same⟩ := bind_ok_iff.mp made
      cases same
      obtain ⟨element, -, own⟩ := exists_of_forall₂ (mapM_ok_iff.mp each) among
      generalize same : Matcher.exact value = matcher at own
      cases elementMatcher_ok_iff.mp own with
      | wildcard => cases same
      | computed => cases same
      | byte small =>
        cases same
        omega
      | positive small =>
        cases same
        omega
      | negative =>
        cases same
        omega

theorem exact_of_toPattern {given : Given} (made : given.toPattern = .ok pattern)
    (among : .exact value ∈ pattern.matchers) :
    given = .pattern pattern ∨
      (∃ elements, given = .array elements ∧ .matcher (.exact value) ∈ elements) ∨
      0 ≤ value ∧ value ≤ 255 := by
  have array {values : List Value} (made : ofArray (values.map .value) = .ok pattern) :
      0 ≤ value ∧ value ≤ 255 := by
    refine (exact_of_ofArray made among).resolve_left fun present => ?_
    obtain ⟨_, -, same⟩ := List.mem_map.mp present
    cases same
  unfold Given.toPattern at made
  split at made
  · split at made
    · cases made
    · cases made
      exact .inl rfl
  · rcases exact_of_ofArray made among with present | byte
    · exact .inr (.inl ⟨_, rfl, present⟩)
    · exact .inr (.inr byte)
  · refine .inr (.inr ?_)
    split at made
    · obtain ⟨pieces, -, -, rfl⟩ := ofHex_ok_iff.mp made
      exact byte_of_ofToken among
    · cases made
      exact byte_of_ofBytes among
    · exact array made
    · exact array made
    · rw [← Function.comp_def, ← List.map_map] at made
      exact array made
    · cases made

/-- The numbers of a pattern are bytes, but for those of matchers that were handed in. -/
theorem Obtained.byte_of_exact (obtained : Obtained handed pattern)
    (among : .exact value ∈ pattern.matchers) :
    handed (.exact value) ∨ 0 ≤ value ∧ value ≤ 255 := by
  induction obtained with
  | hex read =>
    obtain ⟨pieces, -, -, rfl⟩ := ofHex_ok_iff.mp read
    exact .inr (byte_of_ofToken among)
  | freeHex read =>
    obtain ⟨pieces, -, -, rfl⟩ := ofFreeHex_ok_iff.mp read
    exact .inr (byte_of_ofToken among)
  | bytes data => exact .inr (byte_of_ofBytes among)
  | array each made =>
    rcases exact_of_ofArray made among with present | byte
    · exact .inl (each _ present)
    · exact .inr byte
  | same own made ih =>
    rcases exact_of_toPattern made among with same | ⟨_, same, -⟩ | byte
    · cases same
      exact ih among
    · cases same
    · exact .inr byte
  | elements each made =>
    rcases exact_of_toPattern made among with same | ⟨_, same, present⟩ | byte
    · cases same
    · cases same
      exact .inl (each _ present)
    · exact .inr byte
  | coerced made =>
    rcases exact_of_toPattern made among with same | ⟨_, same, -⟩ | byte
    · cases same
    · cases same
    · exact .inr byte
  | source read =>
    rcases of_run_read_ok read with ⟨_, _, made⟩ | ⟨_, _, made⟩
    · exact .inr (byte_of_ofLiteral made among)
    · exact .inr (byte_of_ofDisplay made among)

/-- A pattern that is not literal is refused as one with many values. A literal pattern has a byte
value, or else holds a number that is no byte, in a matcher that was handed in. The byte value is as
long as the pattern, makes the same matchers, and is all that the pattern matches. -/
theorem Obtained.byte_value (obtained : Obtained handed pattern) :
    (pattern.isLiteral = false → pattern.toBytes =
      .error (.specification ⟨.pattern, .manyValues pattern.text, none, none⟩)) ∧
    (pattern.isLiteral = true → (∃ data, pattern.toBytes = .ok data) ∨
      pattern.toBytes = .error (.failure .value) ∧ ∃ value, .exact value ∈ pattern.matchers ∧
        handed (.exact value) ∧ ¬(0 ≤ value ∧ value ≤ 255)) ∧
    ∀ data, pattern.toBytes = .ok data →
      pattern.isLiteral = true ∧ data.length = pattern.size ∧
      (ofBytes data).matchers = pattern.matchers ∧
      ∀ (σ : Type) (interpreter : Interpreter σ) (other : List UInt8) (scope : Scope) (state : σ),
        (pattern.accepts interpreter other scope).run state =
          (.ok (decide (other = data)), state) := by
  refine ⟨fun open_pattern => ?_, fun literal => ?_, fun data valued => ?_⟩
  · rw [toBytes, open_pattern]
    rfl
  · cases valued : pattern.toBytes with
    | ok data => exact .inl ⟨data, rfl⟩
    | error fault =>
      obtain ⟨rfl, value, among, beyond⟩ := beyond_of_toBytes_error literal valued
      exact .inr ⟨rfl, value, among, (obtained.byte_of_exact among).resolve_right beyond, beyond⟩
  · have bytes := toBytes_ok_iff.mp valued
    refine ⟨?_, ?_, bytes.symm, fun σ interpreter other scope state =>
      run_accepts_of_toBytes valued interpreter other scope state⟩
    · exact isLiteral_iff.mpr ⟨_, bytes.trans (map_exact_toNat data)⟩
    · rw [size, bytes, List.length_map]

/-- Digits with a blank, whose two bytes are all that they match. -/
theorem byte_value_digits :
    Obtained (fun _ => False) ⟨[.exact 0x48, .exact 0x45], .hex⟩ ∧
    (⟨[.exact 0x48, .exact 0x45], .hex⟩ : Pattern).toBytes = .ok [0x48, 0x45] ∧
    (accepts .standard ⟨[.exact 0x48, .exact 0x45], .hex⟩ [0x48, 0x45] .empty).run (fun _ => 0) =
      (.ok true, fun _ => 0) := by
  have obtained : Obtained (fun _ => False) ⟨[.exact 0x48, .exact 0x45], .hex⟩ :=
    @Obtained.hex _ "48 45".toList _ rfl
  obtain ⟨-, -, valued⟩ := obtained.byte_value
  have bytes : (⟨[.exact 0x48, .exact 0x45], .hex⟩ : Pattern).toBytes = .ok [0x48, 0x45] := rfl
  exact ⟨obtained, bytes, (valued _ bytes).2.2.2 _ .standard _ .empty fun _ => 0⟩

/-- A matcher beyond a byte makes a literal pattern without a byte value, where the number itself is
refused. -/
theorem exact_beyond_byte :
    (∃ pattern, ofArray [.matcher (.exact 300)] = .ok pattern ∧ pattern.isLiteral = true ∧
      pattern.toBytes = .error (.failure .value)) ∧
    ofArray [.value (.int 300)] = .error (.ofCause .pattern (.byteOutOfRange 300)) :=
  ⟨⟨_, rfl, rfl, rfl⟩, rfl⟩

end ByteRecord.Pattern
