import ByteRecord.Catalogue.Format
import ByteRecord.Proofs.Hex.Spaced
import ByteRecord.Proofs.Pattern.Lists

/-! The ways to give a pattern. The same bytes and wildcards make the same matchers in each of them,
and each that can hold other numbers refuses those. -/
namespace ByteRecord.Pattern
open Source Lexical

/-- What a pattern can be given as: a hex literal, bytes, an array, any of them as one value, a part
of a catalogue document, or the text of a specification. -/
inductive Surface where
  | hex (text : List Char)
  | bytes (data : List UInt8)
  | array (elements : List Element)
  | given (value : Given)
  | document (value : Value)
  | source (text : List Char)

def Surface.pattern : Surface → Except Fault Pattern
  | .hex text => ofHex text
  | .bytes data => .ok (ofBytes data)
  | .array elements => ofArray elements
  | .given value => value.toPattern
  | .document value => Catalogue.readPattern value
  | .source text => ofSource text

/-- The matcher of a number, or of any byte. -/
def slotMatcher : Option Int → Matcher
  | none => .wildcard
  | some n => .exact n

/-- A number, if there is one, is a byte. -/
def IsByte (slot : Option Int) : Prop :=
  ∀ n ∈ slot, 0 ≤ n ∧ n ≤ 255

/-- Two characters for a slot: the digits of a byte, each in either case, or underscores. -/
inductive PairText : Option Int → List Char → Prop
  | wildcard : PairText none ['_', '_']
  | byte (high low : Hex.Digit) :
    PairText (some ((16 * high.value + low.value : Nat) : Int)) [high.char, low.char]

/-- Slots as a hex literal, with any blanks around the pairs. -/
def HexText (slots : List (Option Int)) (text : List Char) : Prop :=
  ∃ words, Hex.Spaced words text ∧ List.Forall₂ PairText slots words

/-- A slot as an element of an array. -/
inductive ElementOf : Option Int → Element → Prop
  | none : ElementOf none (.value .none)
  | underscore : ElementOf none (.value (.str "_"))
  | wildcard : ElementOf none (.matcher .wildcard)
  | number (n : Int) : ElementOf (some n) (.value (.int n))

/-- The slots of bytes. -/
def slotsOf (data : List UInt8) : List (Option Int) :=
  data.map fun byte => some (byte.toNat : Int)

/-- The ways to write slots. Those for bytes have no wildcards. -/
inductive Written : List (Option Int) → Surface → Prop
  | hex (text : HexText slots digits) : Written slots (.hex digits)
  | coercedHex (text : HexText slots digits) :
    Written slots (.given (.value (.str (String.ofList digits))))
  | documentText (text : HexText slots digits) :
    Written slots (.document (.str (String.ofList digits)))
  | documentHex (text : HexText slots digits) :
    Written slots (.document (.dict [(.str "hex", .str (String.ofList digits))]))
  | sourceHex (text : HexText slots digits) (quoted : quote = '\'' ∨ quote = '"')
      (spelt : Spelt quote digits body) : Written slots (.source (quote :: (body ++ [quote])))
  | array (each : List.Forall₂ ElementOf slots elements) : Written slots (.array elements)
  | coercedArray (each : List.Forall₂ ElementOf slots elements) :
    Written slots (.given (.array elements))
  | coercedList (each : List.Forall₂ ElementOf slots (items.map .value)) :
    Written slots (.given (.value (.list items)))
  | coercedTuple (each : List.Forall₂ ElementOf slots (items.map .value)) :
    Written slots (.given (.value (.tuple items)))
  | documentList (each : List.Forall₂ ElementOf slots (items.map .value)) :
    Written slots (.document (.list items))
  | sourceList (listed : Listed slots behind) : Written slots (.source ('[' :: behind))
  | bytes (data : List UInt8) : Written (slotsOf data) (.bytes data)
  | coercedBytes (data : List UInt8) : Written (slotsOf data) (.given (.value (.bytes data)))
  | documentBytes (decoded : Value.decode .latin1 data = .ok chars) :
    Written (slotsOf data) (.document (.dict [(.str "bytes", .str chars)]))
  | sourceBytes (decoded : Value.decode .latin1 data = .ok chars)
      (lettered : letter = 'b' ∨ letter = 'B') (quoted : quote = '\'' ∨ quote = '"')
      (spelt : Spelt quote chars.toList body) (ascii : ∀ c ∈ body, Text.isAscii c ∧ c ≠ '\x00') :
    Written (slotsOf data) (.source (letter :: quote :: (body ++ [quote])))

theorem IsByte.exists_pairText (byte : IsByte slot) : ∃ word, PairText slot word := by
  cases slot with
  | none => exact ⟨_, .wildcard⟩
  | some n =>
    obtain ⟨natural, small⟩ := byte n rfl
    have high_lt : n.toNat / 16 < 16 := by omega
    have low_lt : n.toNat % 16 < 16 := Nat.mod_lt _ (by decide)
    have whole : ((16 * (n.toNat / 16) + n.toNat % 16 : Nat) : Int) = n := by omega
    rw [← whole]
    exact ⟨_, .byte ⟨_, _, high_lt, .inl rfl⟩ ⟨_, _, low_lt, .inl rfl⟩⟩

theorem exists_hexText (bytes : ∀ slot ∈ slots, IsByte slot) : ∃ digits, HexText slots digits := by
  have words : ∃ words, List.Forall₂ PairText slots words := by
    induction slots with
    | nil => exact ⟨[], .nil⟩
    | cons slot slots ih =>
      obtain ⟨own, others⟩ := List.forall_mem_cons.mp bytes
      obtain ⟨word, pair⟩ := own.exists_pairText
      obtain ⟨words, pairs⟩ := ih others
      exact ⟨word :: words, .cons pair pairs⟩
  obtain ⟨words, pairs⟩ := words
  exact ⟨_, words, .intercalate (List.forall_mem_nil _) words, pairs⟩

theorem exists_elements (slots : List (Option Int)) :
    ∃ items : List Value, List.Forall₂ ElementOf slots (items.map .value) := by
  refine ⟨slots.map fun slot => slot.elim .none .int, ?_⟩
  rw [List.map_map, List.forall₂_map_right_iff, List.forall₂_same]
  rintro (_ | n) -
  · exact .none
  · exact .number n

/-- A result is a value if something holds, and an error of a pattern otherwise. -/
structure Settles (fits : Prop) (value : α) (result : Except Fault α) : Prop where
  accepted : fits → result = .ok value
  refused : ¬fits → ∃ error, result = .error (.specification error) ∧ error.kind = .pattern

namespace Settles
variable {fits : Prop} {α : Type} {value : α} {result : Except Fault α}

theorem of_ok (holds : fits) (same : result = .ok value) : Settles fits value result :=
  ⟨fun _ => same, fun fails => absurd holds fails⟩

theorem located (settles : Settles fits value result) (location : Location) :
    Settles fits value
      (result.mapError (.mapSpecification ({ · with location := some location }))) := by
  refine ⟨fun holds => ?_, fun fails => ?_⟩
  · rw [settles.accepted holds]
    rfl
  · obtain ⟨error, refused, kind⟩ := settles.refused fails
    exact ⟨{ error with location := some location }, by rw [refused]; rfl, kind⟩

theorem mapM {f : α → Except Fault Matcher} {list : List α}
    (each : List.Forall₂ (fun slot x => Settles (IsByte slot) (slotMatcher slot) (f x))
      slots list) :
    Settles (∀ slot ∈ slots, IsByte slot) (slots.map slotMatcher) (list.mapM f) := by
  induction each with
  | nil => exact .of_ok nofun rfl
  | @cons slot x slots list own _ ih =>
    refine ⟨fun holds => ?_, fun fails => ?_⟩
    · obtain ⟨first, others⟩ := List.forall_mem_cons.mp holds
      rw [List.mapM_cons, own.accepted first, ih.accepted others]
      rfl
    · by_cases first : IsByte slot
      · have others : ¬∀ slot ∈ slots, IsByte slot := fun others =>
          fails (List.forall_mem_cons.mpr ⟨first, others⟩)
        obtain ⟨error, refused, kind⟩ := ih.refused others
        exact ⟨error, by rw [List.mapM_cons, own.accepted first, refused]; rfl, kind⟩
      · obtain ⟨error, refused, kind⟩ := own.refused first
        exact ⟨error, by rw [List.mapM_cons, refused]; rfl, kind⟩

end Settles

theorem settles_exactByte (short : Number.isOverlong n = false) :
    Settles (IsByte (some n)) (.exact n) (exactByte n) := by
  refine ⟨fun holds => ?_, fun fails => ?_⟩
  · obtain ⟨natural, small⟩ := holds n rfl
    exact exactByte_ok_iff.mpr ⟨natural, small, rfl⟩
  · have beyond : (decide (0 ≤ n) && decide (n ≤ 255)) = false := by
      rw [Bool.eq_false_iff, ne_eq, Bool.and_eq_true, decide_eq_true_eq, decide_eq_true_eq]
      rintro within
      exact fails fun _ same => Option.some.inj same ▸ within
    refine ⟨⟨.pattern, .byteOutOfRange n, none, none⟩, ?_, rfl⟩
    rw [exactByte, beyond, if_neg Bool.false_ne_true]
    simp [Fault.ofCause, Fault.ofCauseAt, Cause.isWritable, short]

theorem settles_element (own : ElementOf slot element)
    (short : ∀ n ∈ slot, Number.isOverlong n = false) :
    Settles (IsByte slot) (slotMatcher slot) element.toMatcher := by
  cases own with
  | none | underscore | wildcard => exact .of_ok nofun rfl
  | number n => exact settles_exactByte (short n rfl)

theorem settles_denoted {element : Expr.Element} (own : Expr.Denotes slot element.expr)
    (short : ∀ n ∈ slot, Number.isOverlong n = false) (location : Location) :
    Settles (IsByte slot) (slotMatcher slot) (elementMatcher location element) := by
  obtain ⟨e, text⟩ := element
  cases own with
  | none => exact .of_ok nofun rfl
  | number n => exact (settles_exactByte (short n rfl)).located location
  | negative n => exact (settles_exactByte (short _ rfl)).located location

section
variable {slots : List (Option Int)} {digits : List Char}

theorem PairText.exists_token (pair : PairText slot word) : ∃ token : Hex.Token,
    token.Spelt word ∧ token ≠ .openRange ∧ Matcher.ofToken token = slotMatcher slot ∧
      IsByte slot ∧ '\x00' ∉ word := by
  cases pair with
  | wildcard => exact ⟨.wildcard, ⟨.wildcard, rfl, rfl⟩, nofun, rfl, nofun, by decide⟩
  | byte high low =>
    have small := Hex.Segment.byte_lt high low
    have apart (digit : Hex.Digit) : '\x00' ≠ digit.char := (digit.char_ne rfl).symm
    refine ⟨_, ⟨.byte high low, rfl, rfl⟩, nofun, ?_, ?_, by simp [apart]⟩
    · rw [Matcher.ofToken, UInt8.toNat_ofNatLT]
      rfl
    · rintro _ ⟨⟩
      omega

theorem HexText.ofHex_eq (text : HexText slots digits) :
    (∀ slot ∈ slots, IsByte slot) ∧ '\x00' ∉ digits ∧
      ofHex digits = .ok ⟨slots.map slotMatcher, .hex⟩ := by
  obtain ⟨words, spaced, pairs⟩ := text
  have tokens : ∃ tokens : List Hex.Token, List.Forall₂ Hex.Token.Spelt tokens words ∧
      .openRange ∉ tokens ∧ tokens.map Matcher.ofToken = slots.map slotMatcher ∧
      (∀ slot ∈ slots, IsByte slot) ∧ ∀ word ∈ words, '\x00' ∉ word := by
    clear spaced
    induction pairs with
    | nil => exact ⟨[], .nil, List.not_mem_nil, rfl, nofun, nofun⟩
    | cons pair _ ih =>
      obtain ⟨token, spelt, fixed, same, byte, clear⟩ := pair.exists_token
      obtain ⟨tokens, others, others_fixed, others_same, bytes, others_clear⟩ := ih
      refine ⟨token :: tokens, .cons spelt others, ?_, ?_, ?_, ?_⟩
      · rw [List.mem_cons, not_or]
        exact ⟨fixed.symm, others_fixed⟩
      · rw [List.map_cons, List.map_cons, same, others_same]
      · exact List.forall_mem_cons.mpr ⟨byte, bytes⟩
      · exact List.forall_mem_cons.mpr ⟨clear, others_clear⟩
  obtain ⟨tokens, spelt, fixed, same, bytes, clear⟩ := tokens
  refine ⟨bytes, spaced.not_mem (by decide) clear, ?_⟩
  exact ofHex_ok_iff.mpr ⟨tokens, Hex.tokenize_spaced spaced spelt, fixed, by rw [same]⟩

theorem HexText.settles (text : HexText slots digits) {result : Except Fault Pattern}
    (same : result = ofHex digits) :
    Settles (∀ slot ∈ slots, IsByte slot) (slots.map slotMatcher)
      (result.map Pattern.matchers) := by
  obtain ⟨bytes, -, read⟩ := text.ofHex_eq
  exact .of_ok bytes (by rw [same, read]; rfl)

/-- A string literal that spells a hex literal is read as that. -/
theorem HexText.ofSource_eq (text : HexText slots digits) (quoted : quote = '\'' ∨ quote = '"')
    (spelt : Spelt quote digits body) :
    ofSource (quote :: (body ++ [quote])) = ofHex digits := by
  obtain ⟨-, clear, read⟩ := text.ofHex_eq
  have opens := opening?_unlettered quoted (spelt.head_ne_quote quoted)
  have closed := literalWidth?_of_isBody opens (spelt.isBody quoted [])
  have begins : isPlain quote := by rcases quoted with rfl | rfl <;> decide
  have value := Expr.ofText?_text quoted spelt
  have null : (quote :: (body ++ [quote])).contains '\x00' = false := by
    have inside : '\x00' ∉ body := by
      intro present
      rcases spelt.of_mem_body present with own | escape | digit
      · exact clear own
      · exact absurd escape (by decide)
      · exact absurd digit (by decide)
    have apart : '\x00' ≠ quote := by rcases quoted with rfl | rfl <;> decide
    simp [inside, apart]
  rw [ofSource_literal begins closed, ofLiteral]
  simp only [String.toList_ofList, null, value, read, Bool.false_eq_true, if_false]
  rfl

end

section
variable {data : List UInt8} {chars : String}

theorem settles_bytes (data : List UInt8) :
    Settles (∀ slot ∈ slotsOf data, IsByte slot) ((slotsOf data).map slotMatcher)
      (.ok (ofBytes data).matchers) := by
  refine .of_ok ?_ ?_
  · simp only [slotsOf, List.forall_mem_map]
    rintro byte - _ ⟨⟩
    have small := byte.toNat_lt
    omega
  · rw [slotsOf, List.map_map]
    rfl

/-- The characters of bytes, one for each, are the bytes again. -/
theorem bytes_of_decode (decoded : Value.decode .latin1 data = .ok chars) :
    chars.toList.map (fun c => UInt8.ofNat c.toNat) = data ∧
      Value.encode .latin1 chars = .ok data := by
  cases decoded
  have each (byte : UInt8) : (Char.ofNat byte.toNat).toNat = byte.toNat := by
    have small := byte.toNat_lt
    have valid : byte.toNat.isValidChar := .inl (by omega)
    rw [Char.ofNat, dif_pos valid]
    rfl
  have back : (data.map fun byte => Char.ofNat byte.toNat).map (fun c => UInt8.ofNat c.toNat) =
      data := by
    rw [List.map_map]
    exact (List.map_congr_left fun byte _ => by simp [each]).trans (List.map_id data)
  have narrow : (data.map fun byte => Char.ofNat byte.toNat).all (fun c => c.toNat < 0x100) := by
    rw [List.all_map, List.all_eq_true]
    intro byte _
    simpa only [Function.comp_apply, each, decide_eq_true_eq] using byte.toNat_lt
  constructor
  · rw [String.toList_ofList, back]
  · simp only [Value.encode, String.toList_ofList, narrow, back, if_true]

theorem readPattern_hex (digits : String) :
    Catalogue.readPattern (.dict [(.str "hex", .str digits)]) = ofHex digits.toList := by
  have entries : Value.lookup? [(.str "hex", .str digits)] (.str "bytes") = none ∧
      Value.lookup? [(.str "hex", .str digits)] (.str "hex") = some (.str digits) := by
    simp [Value.lookup?, Value.same_str]
  rw [Catalogue.readPattern, entries.1, entries.2]
  rfl

theorem readPattern_bytes (encoded : Value.encode .latin1 chars = .ok data) :
    Catalogue.readPattern (.dict [(.str "bytes", .str chars)]) = .ok (ofBytes data) := by
  have entry : Value.lookup? [(.str "bytes", .str chars)] (.str "bytes") = some (.str chars) := by
    simp [Value.lookup?, Value.same_str]
  rw [Catalogue.readPattern, entry]
  simp only [Catalogue.patternBytes, encoded]

theorem ofSource_bytes (decoded : Value.decode .latin1 data = .ok chars)
    (lettered : letter = 'b' ∨ letter = 'B') (quoted : quote = '\'' ∨ quote = '"')
    (spelt : Spelt quote chars.toList body) (ascii : ∀ c ∈ body, Text.isAscii c ∧ c ≠ '\x00') :
    ofSource (letter :: quote :: (body ++ [quote])) = .ok (ofBytes data) := by
  have known : isStringPrefix [letter] := by rcases lettered with rfl | rfl <;> decide
  have unquoted : letter ≠ '\'' ∧ letter ≠ '"' := by rcases lettered with rfl | rfl <;> decide
  have opens := opening?_lettered quoted known unquoted (spelt.head_ne_quote quoted)
  have closed := literalWidth?_of_isBody opens (spelt.isBody quoted [letter])
  have begins : isPlain letter := by rcases lettered with rfl | rfl <;> decide
  have all : body.all Text.isAscii := List.all_eq_true.mpr fun c present => (ascii c present).1
  have value := Expr.ofText?_bytes lettered quoted spelt all
  have null : (letter :: quote :: (body ++ [quote])).contains '\x00' = false := by
    have inside : '\x00' ∉ body := fun present => (ascii _ present).2 rfl
    have apart : '\x00' ≠ quote := by rcases quoted with rfl | rfl <;> decide
    have other : '\x00' ≠ letter := by rcases lettered with rfl | rfl <;> decide
    simp [inside, apart, other]
  rw [ofSource_literal begins closed, ofLiteral]
  simp only [String.toList_ofList, null, value, (bytes_of_decode decoded).1, Bool.false_eq_true,
    if_false]

end

section
variable {slots : List (Option Int)}

theorem settles_array (each : List.Forall₂ ElementOf slots elements)
    (short : ∀ slot ∈ slots, ∀ n ∈ slot, Number.isOverlong n = false) :
    Settles (∀ slot ∈ slots, IsByte slot) (slots.map slotMatcher)
      ((ofArray elements).map Pattern.matchers) := by
  have array : (ofArray elements).map Pattern.matchers = elements.mapM Element.toMatcher := by
    rw [ofArray]
    cases elements.mapM Element.toMatcher <;> rfl
  rw [array]
  exact .mapM ((List.forall₂_and_left _ _).mpr ⟨short, each⟩ |>.imp fun _ _ own =>
    settles_element own.2 own.1)

theorem settles_document (each : List.Forall₂ ElementOf slots (items.map .value))
    (short : ∀ slot ∈ slots, ∀ n ∈ slot, Number.isOverlong n = false) :
    Settles (∀ slot ∈ slots, IsByte slot) (slots.map slotMatcher)
      ((Catalogue.readPattern (.list items)).map Pattern.matchers) := by
  have array : (Catalogue.readPattern (.list items)).map Pattern.matchers =
      items.mapM Catalogue.elementMatcher := by
    rw [Catalogue.readPattern]
    cases items.mapM Catalogue.elementMatcher <;> rfl
  rw [array]
  rw [List.forall₂_map_right_iff] at each
  refine .mapM ((List.forall₂_and_left _ _).mpr ⟨short, each⟩ |>.imp fun slot item own => ?_)
  have same : Catalogue.elementMatcher item = (Element.value item).toMatcher := by
    obtain ⟨-, own⟩ := own
    generalize made : Element.value item = element at own
    cases own <;> cases made <;> rfl
  exact same ▸ settles_element own.2 own.1

theorem settles_source (listed : Listed slots behind)
    (short : ∀ slot ∈ slots, ∀ n ∈ slot, Number.isOverlong n = false) :
    Settles (∀ slot ∈ slots, IsByte slot) (slots.map slotMatcher)
      ((ofSource ('[' :: behind)).map Pattern.matchers) := by
  obtain ⟨elements, each, read⟩ := ofSource_listed listed fun n among => short _ among n rfl
  have array : (ofSource ('[' :: behind)).map Pattern.matchers =
      elements.mapM (elementMatcher ⟨1, 0⟩) := by
    rw [read]
    cases elements.mapM (elementMatcher ⟨1, 0⟩) <;> rfl
  rw [array]
  exact .mapM ((List.forall₂_and_left _ _).mpr ⟨short, each⟩ |>.imp fun _ _ own =>
    settles_denoted own.2 own.1 _)

end

theorem Written.settles (written : Written slots surface)
    (short : ∀ slot ∈ slots, ∀ n ∈ slot, Number.isOverlong n = false) :
    Settles (∀ slot ∈ slots, IsByte slot) (slots.map slotMatcher)
      (surface.pattern.map Pattern.matchers) := by
  cases written with
  | hex text => exact text.settles rfl
  | coercedHex text | documentText text =>
    exact text.settles (congrArg ofHex String.toList_ofList)
  | documentHex text =>
    refine text.settles ((readPattern_hex _).trans ?_)
    rw [String.toList_ofList]
  | sourceHex text quoted spelt => exact text.settles (text.ofSource_eq quoted spelt)
  | array each | coercedArray each | coercedList each | coercedTuple each =>
    exact settles_array each short
  | documentList each => exact settles_document each short
  | sourceList listed => exact settles_source listed short
  | bytes data | coercedBytes data => exact settles_bytes data
  | documentBytes decoded =>
    rw [Surface.pattern, readPattern_bytes (bytes_of_decode decoded).2]
    exact settles_bytes _
  | sourceBytes decoded lettered quoted spelt ascii =>
    rw [Surface.pattern, ofSource_bytes decoded lettered quoted spelt ascii]
    exact settles_bytes _

theorem isOverlong_of_lt {n : Int} (small : n.natAbs < 1000) : Number.isOverlong n = false := by
  have below : Number.tenTo 3 ≤ Number.tenTo Number.maxDecimalDigits :=
    Number.tenTo_le (by decide)
  have thousand : Number.tenTo 3 = 1000 := rfl
  rw [Number.isOverlong, decide_eq_false_iff_not]
  omega

theorem IsByte.short (byte : IsByte slot) : ∀ n ∈ slot, Number.isOverlong n = false := by
  intro n same
  have within := byte n same
  exact isOverlong_of_lt (by omega)

theorem Written.accepted (written : Written slots surface) (bytes : ∀ slot ∈ slots, IsByte slot) :
    ∃ form, surface.pattern = .ok ⟨slots.map slotMatcher, form⟩ := by
  have settles := written.settles fun slot among => (bytes slot among).short
  have accepted := settles.accepted bytes
  cases made : surface.pattern with
  | error fault =>
    rw [made] at accepted
    cases accepted
  | ok pattern =>
    rw [made] at accepted
    exact ⟨pattern.form, by rw [← Except.ok.inj accepted]⟩

theorem Written.refused (written : Written slots surface)
    (short : ∀ n, some n ∈ slots → Number.isOverlong n = false)
    (other : ¬∀ slot ∈ slots, IsByte slot) :
    ∃ error, surface.pattern = .error (.specification error) ∧ error.kind = .pattern := by
  have settles := written.settles fun slot among n own => short n (own ▸ among)
  obtain ⟨error, refused, kind⟩ := settles.refused other
  exact ⟨error, map_error_iff.mp refused, kind⟩

/-- Numbers and wildcards can be written as an array, as a list in a catalogue and as one in a
specification; bytes and wildcards also as a hex literal. The same bytes and wildcards make the same
matchers however they are written. Wherever a number that is no byte can be written, it is refused
as a pattern, if it is short enough to be named. -/
theorem written_alike (slots : List (Option Int)) :
    (∃ elements, Written slots (.array elements)) ∧
    (∃ items, Written slots (.document (.list items))) ∧
    (∃ behind, Written slots (.source ('[' :: behind))) ∧
    ((∀ slot ∈ slots, IsByte slot) → ∃ digits, Written slots (.hex digits)) ∧
    ∀ surface, Written slots surface →
      ((∀ slot ∈ slots, IsByte slot) →
        ∃ form, surface.pattern = .ok ⟨slots.map slotMatcher, form⟩) ∧
      ((∀ n, some n ∈ slots → Number.isOverlong n = false) → ¬(∀ slot ∈ slots, IsByte slot) →
        ∃ error, surface.pattern = .error (.specification error) ∧ error.kind = .pattern) := by
  obtain ⟨items, each⟩ := exists_elements slots
  obtain ⟨behind, listed⟩ := exists_listed slots
  refine ⟨⟨_, .array each⟩, ⟨_, .documentList each⟩, ⟨_, .sourceList listed⟩, fun bytes => ?_,
    fun surface written => ⟨written.accepted, written.refused⟩⟩
  obtain ⟨digits, text⟩ := exists_hexText bytes
  exact ⟨digits, .hex text⟩

/-- Two letters and a wildcard as a hex literal and as a list in a specification, and a list with a
number that is no byte. -/
theorem written_letters :
    (∃ form, (Surface.hex "4B 4c\t__".toList).pattern =
      .ok ⟨[.exact 0x4b, .exact 0x4c, .wildcard], form⟩) ∧
    (∃ form, (Surface.source "[75, 0x4C, _]".toList).pattern =
      .ok ⟨[.exact 0x4b, .exact 0x4c, .wildcard], form⟩) ∧
    ∃ error, (Surface.source "[- 75]".toList).pattern = .error (.specification error) ∧
      error.kind = .pattern := by
  have text : HexText [some 0x4b, some 0x4c, none] "4B 4c\t__".toList :=
    ⟨[['4', 'B'], ['4', 'c'], ['_', '_']],
      .word _ (.blank (by decide) (.word _ (.blank (by decide) (.word _ .nil)))),
      .cons (.byte ⟨'4', 4, by decide, .inl rfl⟩ ⟨'B', 11, by decide, .inr rfl⟩)
        (.cons (.byte ⟨'4', 4, by decide, .inl rfl⟩ ⟨'c', 12, by decide, .inl rfl⟩)
          (.cons .wildcard .nil))⟩
  have none_between : IsGap [] := nofun
  have space : IsGap [' '] := by simp [IsGap]
  have items : Listed [some 0x4b, some 0x4c, none] "75, 0x4C, _]".toList :=
    .items none_between (.number (.decimal 75)) (.further none_between space
      (.number (.hex (.inl rfl) ⟨'4', 4, by decide, .inl rfl⟩ [⟨'C', 12, by decide, .inr rfl⟩]))
      (.further none_between space .none (.closing none_between)))
  have negative : Listed [some (-75)] "- 75]".toList :=
    .items none_between (.negative space (.decimal 75)) (.closing none_between)
  have bytes : ∀ slot ∈ [some (0x4b : Int), some 0x4c, none], IsByte slot := by
    simp [IsByte]
  obtain ⟨-, -, -, -, alike⟩ := written_alike [some 0x4b, some 0x4c, none]
  obtain ⟨-, -, -, -, beyond⟩ := written_alike [some (-75)]
  refine ⟨(alike _ (.hex text)).1 bytes, (alike _ (.sourceList items)).1 bytes,
    (beyond _ (.sourceList negative)).2 ?_ (by simp [IsByte])⟩
  intro n among
  obtain rfl : n = -75 := by simpa using among
  exact isOverlong_of_lt (by decide)

end ByteRecord.Pattern
