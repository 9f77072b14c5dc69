import Mathlib.Data.List.Forall2
import ByteRecord.Proofs.Hex.Language
import ByteRecord.Proofs.Hex.Rendered

/-! Hex literals as words with blanks between them. Each word is one way to write a token, its
digits in either case; whatever blanks there are, the lexer reads the tokens back. -/
namespace ByteRecord.Hex

/-- A text made of words, with any blanks in front of, between and behind them. -/
inductive Spaced : List (List Char) → List Char → Prop
  | nil : Spaced [] []
  | blank (listed : c ∈ [' ', '\r', '\n', '\t']) (rest : Spaced words text) :
    Spaced words (c :: text)
  | word (word : List Char) (rest : Spaced words text) : Spaced (word :: words) (word ++ text)

/-- A word is one of the ways to write a token. -/
def Token.Spelt (token : Token) (word : List Char) : Prop :=
  ∃ segment : Segment, segment.token? = some token ∧ segment.text = word

/-- A byte is written as its two digits, each in either case. -/
theorem Token.spelt_exact (byte : UInt8)
    (high : first = lowerDigit (byte.toNat / 16) ∨ first = upperDigit (byte.toNat / 16))
    (low : second = lowerDigit (byte.toNat % 16) ∨ second = upperDigit (byte.toNat % 16)) :
    (Token.exact byte).Spelt [first, second] := by
  obtain ⟨small, small'⟩ := digits_lt byte
  refine ⟨.byte ⟨first, _, small, high⟩ ⟨second, _, small', low⟩, ?_, rfl⟩
  have whole : 16 * (byte.toNat / 16) + byte.toNat % 16 = byte.toNat := Nat.div_add_mod _ _
  rw [Segment.token?]
  congr 2
  exact UInt8.toNat.inj (UInt8.toNat_ofNatLT.trans whole)

theorem Token.spelt_text (token : Token) : token.Spelt token.text := by
  cases token with
  | exact byte => exact spelt_exact byte (.inr rfl) (.inr rfl)
  | wildcard => exact ⟨.wildcard, rfl, rfl⟩
  | openRange => exact ⟨.openRange, rfl, rfl⟩

/-- Tokens are read back from any way to write them with blanks between them. -/
theorem tokenize_spaced (spaced : Spaced words text)
    (spelt : List.Forall₂ Token.Spelt tokens words) : tokenize text = .ok tokens := by
  have parted : ∃ segments : List Segment, segments.flatMap Segment.text = text ∧
      segments.filterMap Segment.token? = tokens := by
    induction spaced generalizing tokens with
    | nil =>
      obtain rfl := List.forall₂_nil_right_iff.mp spelt
      exact ⟨[], rfl, rfl⟩
    | @blank c words text listed rest ih =>
      obtain ⟨segments, rfl, read⟩ := ih spelt
      exact ⟨.blank c listed :: segments, rfl, read⟩
    | @word words text word rest ih =>
      obtain ⟨token, tokens, ⟨segment, token_eq, rfl⟩, others, rfl⟩ :=
        List.forall₂_cons_right_iff.mp spelt
      obtain ⟨segments, rfl, rfl⟩ := ih others
      exact ⟨segment :: segments, rfl, List.filterMap_cons_some token_eq⟩
  obtain ⟨segments, rfl, rfl⟩ := parted
  exact tokenize_segments segments

/-- The texts of tokens with blanks between them are read back. -/
theorem tokenize_spaced_texts (spaced : Spaced (tokens.map Token.text) text) :
    tokenize text = .ok tokens := by
  refine tokenize_spaced spaced (List.forall₂_map_right_iff.mpr ?_)
  exact List.forall₂_same.mpr fun token _ => token.spelt_text

theorem tokenize_spaced_bytes {digits : UInt8 → List Char} (data : List UInt8)
    (own : ∀ byte, (Token.exact byte).Spelt (digits byte))
    (spaced : Spaced (data.map digits) text) : tokenize text = .ok (data.map .exact) := by
  refine tokenize_spaced spaced ?_
  rw [List.forall₂_map_left_iff, List.forall₂_map_right_iff]
  exact List.forall₂_same.mpr fun byte _ => own byte

theorem Spaced.blanks {gap : List Char} (listed : ∀ c ∈ gap, c ∈ [' ', '\r', '\n', '\t'])
    (rest : Spaced words text) : Spaced words (gap ++ text) := by
  induction gap with
  | nil => exact rest
  | cons c gap ih =>
    obtain ⟨own, others⟩ := List.forall_mem_cons.mp listed
    exact .blank own (ih others)

theorem Spaced.not_mem (spaced : Spaced words text) (other : c ∉ [' ', '\r', '\n', '\t'])
    (free : ∀ word ∈ words, c ∉ word) : c ∉ text := by
  induction spaced with
  | nil => exact List.not_mem_nil
  | blank listed _ ih =>
    rw [List.mem_cons, not_or]
    exact ⟨fun same => other (same ▸ listed), ih free⟩
  | word word _ ih =>
    obtain ⟨own, others⟩ := List.forall_mem_cons.mp free
    rw [List.mem_append, not_or]
    exact ⟨own, ih others⟩

theorem Spaced.intercalate {gap : List Char} (listed : ∀ c ∈ gap, c ∈ [' ', '\r', '\n', '\t'])
    (words : List (List Char)) : Spaced words (gap.intercalate words) := by
  induction words with
  | nil => exact .nil
  | cons word words ih =>
    cases words with
    | nil =>
      have single := Spaced.word word .nil
      rw [List.append_nil] at single
      rwa [List.intercalate_singleton]
    | cons next words =>
      rw [List.intercalate_cons_cons, List.append_assoc]
      exact .word word (ih.blanks listed)

theorem toList_intercalate_ofList (separator : String) (words : List (List Char)) :
    (separator.intercalate (words.map String.ofList)).toList =
      separator.toList.intercalate words := by
  rw [String.toList_intercalate, List.map_map]
  exact congrArg _ (List.map_id'' (fun _ => String.toList_ofList) words)

/-- A displayed text without its brackets and commas. -/
def bare (text : String) : List Char :=
  text.toList.filter fun c => c ∉ ['[', ']', ',']

theorem bare_bracketed {words : List (List Char)}
    (free : ∀ word ∈ words, ∀ c ∈ word, c ∉ ['[', ']', ',']) :
    bare ("[" ++ ", ".intercalate (words.map String.ofList) ++ "]") = [' '].intercalate words := by
  have inner : (([',', ' '].intercalate words).filter fun c => c ∉ ['[', ']', ',']) =
      [' '].intercalate words := by
    induction words with
    | nil => rfl
    | cons word words ih =>
      obtain ⟨own, free⟩ := List.forall_mem_cons.mp free
      have kept : (word.filter fun c => c ∉ ['[', ']', ',']) = word :=
        List.filter_eq_self.mpr fun c among => decide_eq_true (own c among)
      cases words with
      | nil => simpa only [List.intercalate_singleton] using kept
      | cons next words =>
        rw [List.intercalate_cons_cons, List.intercalate_cons_cons, List.filter_append,
          List.filter_append, kept, ih free]
        rfl
  rw [bare, String.toList_append, String.toList_append, toList_intercalate_ofList,
    List.filter_append, List.filter_append]
  exact (List.append_nil _).trans inner

theorem upperByte_free (byte : UInt8) : ∀ c ∈ upperByte byte, c ∉ ['[', ']', ','] := by
  have digit : ∀ n < 16, upperDigit n ∉ ['[', ']', ','] := by decide
  obtain ⟨high, low⟩ := digits_lt byte
  intro c among
  rcases List.mem_cons.mp among with rfl | among
  · exact digit _ high
  · obtain rfl := List.mem_singleton.mp among
    exact digit _ low

theorem Token.text_free (token : Token) : ∀ c ∈ token.text, c ∉ ['[', ']', ','] := by
  cases token with
  | exact byte => exact upperByte_free byte
  | wildcard => simp [Token.text]
  | openRange => simp [Token.text]

theorem formatBytes_eq (data : List UInt8) : formatBytes data =
    "[" ++ ", ".intercalate ((data.map upperByte).map String.ofList) ++ "]" := by
  rw [formatBytes, List.map_map]
  rfl

/-- Bytes are read back from the digits that they are displayed with. -/
theorem tokenize_formatBytes (data : List UInt8) :
    tokenize (bare (formatBytes data)) = .ok (data.map .exact) := by
  have free : ∀ word ∈ data.map upperByte, ∀ c ∈ word, c ∉ ['[', ']', ','] := by
    intro word among
    obtain ⟨byte, -, rfl⟩ := List.mem_map.mp among
    exact upperByte_free byte
  rw [formatBytes_eq, bare_bracketed free]
  exact tokenize_spaced_bytes data (fun byte => Token.spelt_exact byte (.inr rfl) (.inr rfl))
    (.intercalate (by simp) _)

theorem spelt_lowerByte (byte : UInt8) : (Token.exact byte).Spelt (lowerByte byte) :=
  Token.spelt_exact byte (.inl rfl) (.inl rfl)

theorem toList_lowerText (separator : String) (data : List UInt8) :
    (lowerText separator data).toList = separator.toList.intercalate (data.map lowerByte) := by
  rw [← toList_intercalate_ofList, List.map_map]
  rfl

/-- Bytes are read back from their digits with blanks, or nothing, between two bytes. -/
theorem tokenize_lowerText (separator : String)
    (listed : ∀ c ∈ separator.toList, c ∈ [' ', '\r', '\n', '\t']) (data : List UInt8) :
    tokenize (lowerText separator data).toList = .ok (data.map .exact) := by
  refine tokenize_spaced_bytes data spelt_lowerByte ?_
  rw [toList_lowerText]
  exact .intercalate listed _

end ByteRecord.Hex
