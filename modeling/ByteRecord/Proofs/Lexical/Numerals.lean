import Mathlib.Data.Nat.Digits.Defs
import ByteRecord.Proofs.Hex.Segments
import ByteRecord.Proofs.Source.Words

/-! Whole numbers in decimal, and in base sixteen behind `0x`, wherever nothing in the text goes on
with them; and lists of such numbers in square brackets. -/
namespace ByteRecord.Lexical
open Text

theorem hexValue?_of_isAsciiDigit (digit : isAsciiDigit c) :
    Hex.digitValue? c = some (c.toNat - 48) := by
  rw [Hex.digitValue?]
  exact if_pos digit

theorem length_natText_le {n k : Nat} (positive : 0 < k) (below : n < Number.tenTo k) :
    (Number.natText n).toList.length ≤ k := by
  rw [Number.natText, String.toList_ofList]
  exact Nat.toDigits_length 10 n k positive below

theorem opening?_digit (digit : isAsciiDigit c) (rest : List Char) :
    opening? (c :: rest) = none := by
  obtain ⟨low, high⟩ := Number.toNat_of_isAsciiDigit digit
  have lower : c.toLower = c := by
    refine dif_neg ?_
    rintro ⟨upper, -⟩
    have beyond : 65 ≤ c.toNat := UInt32.le_iff_toNat_le.mp upper
    omega
  have apart {d : Char} (other : isAsciiDigit d = false) : c ≠ d := by
    rintro rfl
    exact absurd digit (by simp [other])
  refine Source.opening?_eq_none_of_first ⟨apart rfl, apart rfl, ?_⟩ rest
  rw [lower]
  simp [apart (d := 'b') rfl, apart (d := 'r') rfl, apart (d := 'u') rfl, apart (d := 'f') rfl]

/-- A number and a way to write it. -/
inductive Numeral : Nat → List Char → Prop
  | decimal (n : Nat) : Numeral n (Number.natText n).toList
  | hex (marked : letter = 'x' ∨ letter = 'X') (first : Hex.Digit) (digits : List Hex.Digit) :
    Numeral ((first :: digits).foldl (fun value digit => value * 16 + digit.value) 0)
      ('0' :: letter :: (first :: digits).map Hex.Digit.char)

/-- A text that goes on with no word: it is empty or begins with a blank, a line feed, a comma or a
closing square bracket. -/
def IsParted (text : List Char) : Prop :=
  ∀ c ∈ text.head?, c ∈ [' ', '\t', '\n', ',', ']']

namespace IsParted
variable {text : List Char}

theorem head (parted : IsParted (c :: text)) {p : Char → Bool}
    (all : [' ', '\t', '\n', ',', ']'].all p = true := by decide) : p c = true :=
  List.all_eq_true.mp all c (parted c rfl)

theorem digitRun_append (parted : IsParted text) {isDigit : Char → Bool}
    (plain : isDigit '_' = false) (none : [' ', '\t', '\n', ',', ']'].all (!isDigit ·) = true)
    {digits : List Char} (all : ∀ c ∈ digits, isDigit c) :
    digitRun isDigit (digits ++ text) = digits.length := by
  have whole := Source.digitRun_of_all plain all
  cases text with
  | nil => rwa [List.append_nil]
  | cons c rest =>
    have no_digit : isDigit c = false := by simpa using parted.head none
    have no_underscore : c ≠ '_' := by simpa using parted.head (p := (· != '_'))
    rwa [digitRun_delimited no_digit no_underscore plain]

theorem exponentWidth_eq_zero (parted : IsParted text) : exponentWidth text = 0 := by
  cases text with
  | nil => rfl
  | cons c rest =>
    have other := parted.head (p := fun c => !(c == 'e' || c == 'E'))
    rw [Bool.not_eq_true'] at other
    rw [exponentWidth, other, if_neg Bool.false_ne_true]

theorem beginsImaginary_eq_false (parted : IsParted text) : beginsImaginary text = false := by
  cases text with
  | nil => rfl
  | cons c rest =>
    have other := parted.head (p := (!isOne 'j' ·))
    rwa [Bool.not_eq_true'] at other

/-- Digits behind which no fraction and no exponent comes are no number with a point. -/
theorem floatWidth_eq_zero (parted : IsParted text) {digits : List Char}
    (width : decimalWidth (digits ++ text) = digits.length) : floatWidth (digits ++ text) = 0 := by
  rw [floatWidth, width, List.drop_left]
  dsimp only
  split
  · exact absurd (parted '.' rfl) (by decide)
  · rw [parted.exponentWidth_eq_zero]
    simp

theorem wholeWidth_zero (parted : IsParted text) : wholeWidth ('0' :: text) = 1 := by
  have zeros : digitRun (· == '0') ([] ++ text) = [].length :=
    parted.digitRun_append rfl rfl nofun
  rw [List.nil_append, List.length_nil] at zeros
  cases text with
  | nil => rfl
  | cons c rest =>
    have no_radix := parted.head (p := (radixDigit? · |>.isNone))
    rw [Option.isNone_iff_eq_none] at no_radix
    simp only [wholeWidth, no_radix, zeros]

/-- Decimal digits without a zero in front, or a zero alone, are a number to their end. -/
theorem numberWidth_decimal (parted : IsParted text) {c : Char} {digits : List Char}
    (all : ∀ d ∈ c :: digits, isAsciiDigit d) (canonical : c :: digits = ['0'] ∨ c ≠ '0') :
    numberWidth (c :: digits ++ text) = (c :: digits).length := by
  obtain ⟨first, others⟩ := List.forall_mem_cons.mp all
  have decimal : decimalWidth (c :: digits ++ text) = (c :: digits).length := by
    rw [List.cons_append, decimalWidth, if_pos first,
      parted.digitRun_append (by decide) (by decide) others]
    rfl
  have whole : wholeWidth (c :: digits ++ text) = (c :: digits).length := by
    rcases canonical with zero | other
    · rw [zero]
      exact parted.wholeWidth_zero
    · rw [List.cons_append, wholeWidth.eq_3 _ (fun _ _ same => other (List.cons.inj same).1)
        (fun _ same => other (List.cons.inj same).1)]
      exact decimal
  rw [numberWidth, decimal, parted.floatWidth_eq_zero decimal, List.drop_left,
    parted.beginsImaginary_eq_false, whole]
  rfl

/-- Digits of base sixteen behind `0x` are a number to their end. -/
theorem numberWidth_hex (parted : IsParted text) (marked : letter = 'x' ∨ letter = 'X')
    {digits : List Char} (all : ∀ c ∈ digits, Hex.isDigit c) (something : digits ≠ []) :
    numberWidth ('0' :: letter :: (digits ++ text)) = digits.length + 2 := by
  have run := parted.digitRun_append (by decide) (by decide) all
  have positive : (digits.length == 0) = false := by simpa using something
  have decimal : decimalWidth ('0' :: letter :: (digits ++ text)) = 1 := by
    rcases marked with rfl | rfl <;> rfl
  have float : floatWidth ('0' :: letter :: (digits ++ text)) = 0 := by
    rcases marked with rfl | rfl <;> rfl
  have radix : radixDigit? letter = some Hex.isDigit := by rcases marked with rfl | rfl <;> rfl
  have real : isOne 'j' letter = false := by rcases marked with rfl | rfl <;> rfl
  have whole : wholeWidth ('0' :: letter :: (digits ++ text)) = digits.length + 2 := by
    simp only [wholeWidth, radix, run, positive, Bool.false_eq_true, if_false]
  rw [numberWidth, decimal, float, whole]
  simp [beginsImaginary, real]

end IsParted

namespace Numeral
variable {n : Nat} {word : List Char}

theorem exists_digit (numeral : Numeral n word) :
    ∃ c rest, word = c :: rest ∧ isAsciiDigit c := by
  cases numeral with
  | decimal =>
    obtain ⟨c, rest, text⟩ := List.exists_cons_of_ne_nil (Number.natText_ne_nil n)
    refine ⟨c, rest, text, Number.isAsciiDigit_of_mem_natText (n := n) ?_⟩
    rw [text]
    exact List.mem_cons_self
  | hex => exact ⟨_, _, rfl, by decide⟩

theorem ne_nil (numeral : Numeral n word) : word ≠ [] := by
  obtain ⟨c, digits, rfl, -⟩ := numeral.exists_digit
  exact List.cons_ne_nil c digits

theorem numberWidth_append (numeral : Numeral n word) (parted : IsParted text) :
    numberWidth (word ++ text) = word.length := by
  cases numeral with
  | decimal =>
    have canonical := Number.natText_eq_zero_or_head n
    have all : ∀ d ∈ (Number.natText n).toList, isAsciiDigit d := fun d present =>
      Number.isAsciiDigit_of_mem_natText present
    obtain ⟨c, digits, word⟩ := List.exists_cons_of_ne_nil (Number.natText_ne_nil n)
    rw [word] at canonical all ⊢
    exact parted.numberWidth_decimal all (canonical.imp_right fun apart => apart c rfl)
  | hex marked first digits =>
    have all : ∀ c ∈ (first :: digits).map Hex.Digit.char, Hex.isDigit c := by
      intro c present
      obtain ⟨digit, -, rfl⟩ := List.mem_map.mp present
      exact digit.isDigit_char
    exact parted.numberWidth_hex marked all (List.cons_ne_nil _ _)

theorem of_mem (numeral : Numeral n word) (present : c ∈ word) :
    Hex.isDigit c ∨ c = 'x' ∨ c = 'X' := by
  cases numeral with
  | decimal =>
    rw [Hex.isDigit, hexValue?_of_isAsciiDigit (Number.isAsciiDigit_of_mem_natText present)]
    exact .inl rfl
  | hex marked first digits =>
    simp only [List.mem_cons, List.mem_map] at present
    rcases present with rfl | rfl | ⟨digit, -, rfl⟩
    · exact .inl rfl
    · exact .inr marked
    · exact .inl digit.isDigit_char

end Numeral

/-- An entry of a list, a number or none, and how it stands there. -/
inductive Item : Option Int → List Char → Prop
  | none : Item none ['_']
  | number (numeral : Numeral n word) : Item (some n) word
  | negative (between : Source.IsGap gap) (numeral : Numeral n word) :
    Item (some (-n)) ('-' :: (gap ++ word))

/-- Entries, and what stands behind an item up to the closing bracket: further items behind commas,
with any gaps, and a comma behind the last one or not. -/
inductive MoreListed : List (Option Int) → List Char → Prop
  | closing (gap : Source.IsGap before) : MoreListed [] (before ++ [']'])
  | trailing (gap : Source.IsGap before) (gap' : Source.IsGap behind) :
    MoreListed [] (before ++ ',' :: (behind ++ [']']))
  | further (gap : Source.IsGap before) (gap' : Source.IsGap behind) (own : Item entry text)
      (more : MoreListed entries rest) :
    MoreListed (entry :: entries) (before ++ ',' :: (behind ++ (text ++ rest)))

/-- Entries, and what stands behind the opening bracket of a list of them. -/
inductive Listed : List (Option Int) → List Char → Prop
  | empty (gap : Source.IsGap before) : Listed [] (before ++ [']'])
  | items (gap : Source.IsGap before) (own : Item entry text) (more : MoreListed entries rest) :
    Listed (entry :: entries) (before ++ (text ++ rest))

theorem exists_item (entry : Option Int) : ∃ text, Item entry text := by
  have unspaced : Source.IsGap [] := nofun
  cases entry with
  | none => exact ⟨_, .none⟩
  | some n =>
    obtain ⟨size, rfl | rfl⟩ := n.eq_nat_or_neg
    · exact ⟨_, .number (.decimal size)⟩
    · exact ⟨_, .negative unspaced (.decimal size)⟩

/-- Any entries can be listed. -/
theorem exists_listed (entries : List (Option Int)) : ∃ text, Listed entries text := by
  have unspaced : Source.IsGap [] := nofun
  have exists_more (entries : List (Option Int)) : ∃ text, MoreListed entries text := by
    induction entries with
    | nil => exact ⟨_, .closing unspaced⟩
    | cons entry entries ih =>
      obtain ⟨text, own⟩ := exists_item entry
      obtain ⟨rest, more⟩ := ih
      exact ⟨_, .further unspaced unspaced own more⟩
  cases entries with
  | nil => exact ⟨_, .empty unspaced⟩
  | cons entry entries =>
    obtain ⟨text, own⟩ := exists_item entry
    obtain ⟨rest, more⟩ := exists_more entries
    exact ⟨_, .items unspaced own more⟩

/-- The characters of numerals, and those around them in a list. -/
def isListed (c : Char) : Bool :=
  Hex.isDigit c || [' ', '\t', '\n', ',', ']', '-', '_', 'x', 'X'].contains c

theorem isListed_of_isGap (own : Source.IsGap gap) : ∀ c ∈ gap, isListed c := by
  intro c present
  rcases own c present with rfl | rfl | rfl <;> decide

theorem Numeral.isListed (numeral : Numeral n word) : ∀ c ∈ word, isListed c := by
  intro c present
  rcases numeral.of_mem present with digit | rfl | rfl
  · simp [Lexical.isListed, digit]
  · rfl
  · rfl

theorem Numeral.runsOn_sign (numeral : Numeral n word) (between : Source.IsGap gap)
    (rest : List Char) : ∀ next ∈ (gap ++ (word ++ rest)).head?, runsOn '-' next = false := by
  intro next first
  have something : gap ++ word ≠ [] := List.append_ne_nil_of_right_ne_nil gap numeral.ne_nil
  rw [← List.append_assoc, List.head?_append_of_ne_nil _ something] at first
  have own : Lexical.isListed next :=
    List.forall_mem_append.mpr ⟨isListed_of_isGap between, numeral.isListed⟩ next
      (List.mem_of_head? first)
  refine Source.runsOn_mark (by decide) ⟨?_, ?_⟩ <;> rintro rfl <;> exact absurd own (by decide)

theorem isListed_bracket : ∀ c ∈ [']'], isListed c :=
  List.forall_mem_singleton.mpr rfl

theorem Item.isListed (own : Item entry text) : ∀ c ∈ text, isListed c := by
  cases own with
  | none => exact List.forall_mem_singleton.mpr rfl
  | number numeral => exact numeral.isListed
  | negative between numeral =>
    exact List.forall_mem_cons.mpr
      ⟨by decide, List.forall_mem_append.mpr ⟨isListed_of_isGap between, numeral.isListed⟩⟩

theorem MoreListed.isListed (more : MoreListed entries text) : ∀ c ∈ text, isListed c := by
  induction more with
  | closing gap => exact List.forall_mem_append.mpr ⟨isListed_of_isGap gap, isListed_bracket⟩
  | trailing gap gap' =>
    refine List.forall_mem_append.mpr ⟨isListed_of_isGap gap, List.forall_mem_cons.mpr ⟨rfl, ?_⟩⟩
    exact List.forall_mem_append.mpr ⟨isListed_of_isGap gap', isListed_bracket⟩
  | further gap gap' own _ ih =>
    simp only [List.forall_mem_append, List.forall_mem_cons]
    exact ⟨isListed_of_isGap gap, rfl, isListed_of_isGap gap', own.isListed, ih⟩

theorem Listed.isListed (listed : Listed entries text) : ∀ c ∈ text, isListed c := by
  cases listed with
  | empty gap => exact List.forall_mem_append.mpr ⟨isListed_of_isGap gap, isListed_bracket⟩
  | items gap own more =>
    simp only [List.forall_mem_append]
    exact ⟨isListed_of_isGap gap, own.isListed, more.isListed⟩

theorem isParted_gap (gap : Source.IsGap before) (parts : c ∈ [',', ']']) (rest : List Char) :
    IsParted (before ++ c :: rest) := by
  cases before with
  | nil =>
    rintro _ ⟨⟩
    exact List.mem_append_right [' ', '\t', '\n'] parts
  | cons d before =>
    rintro _ ⟨⟩
    rcases gap d List.mem_cons_self with rfl | rfl | rfl <;> decide

/-- What stands behind an item parts it from what follows. -/
theorem MoreListed.isParted (more : MoreListed entries text) : IsParted text := by
  cases more with
  | closing gap => exact isParted_gap gap (by decide) []
  | trailing gap => exact isParted_gap gap (by decide) _
  | further gap => exact isParted_gap gap (by decide) _

theorem MoreListed.getLast?_eq (more : MoreListed entries text) : text.getLast? = some ']' := by
  induction more with
  | closing => exact List.getLast?_concat
  | trailing => simp [List.getLast?_cons]
  | further _ _ _ _ ih => simp [List.getLast?_cons, ih]

theorem Listed.getLast?_eq (listed : Listed entries text) : text.getLast? = some ']' := by
  cases listed with
  | empty => exact List.getLast?_concat
  | items _ _ more => simp [more.getLast?_eq]

end ByteRecord.Lexical
