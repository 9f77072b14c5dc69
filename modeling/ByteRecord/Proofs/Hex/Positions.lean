import Mathlib.Algebra.Group.Nat.Defs
import ByteRecord.Proofs.Hex.Spaced

/-! Displayed positions. A displayed text is parted into what it shows at each position, and a number
is read back from its digits. -/
namespace ByteRecord.Hex

/-- One more digit behind a number. -/
def appendDigit (value : Nat) (c : Char) : Nat :=
  16 * value + (digitValue? c).getD 0

/-- The number that digits spell. -/
def numberOf (digits : List Char) : Nat :=
  digits.foldl appendDigit 0

theorem appendDigit_upperDigit (value : Nat) (small : k < 16) :
    appendDigit value (upperDigit k) = 16 * value + k := by
  rw [appendDigit, digitValue?_upperDigit small, Option.getD_some]

theorem foldl_digitsOf (few : n < 16 ^ fuel) (digits : List Char) :
    (paddedText.digitsOf upperDigit fuel n digits).foldl appendDigit 0 =
      digits.foldl appendDigit n := by
  induction fuel generalizing n digits with
  | zero =>
    obtain rfl : n = 0 := Nat.lt_one_iff.mp few
    rfl
  | succ fuel ih =>
    rw [paddedText.digitsOf]
    split
    · next zero => rw [eq_of_beq zero]
    · have fewer : n / 16 < 16 ^ fuel := by
        rw [Nat.pow_succ] at few
        exact Nat.div_lt_of_lt_mul (Nat.mul_comm _ _ ▸ few)
      rw [ih fewer, List.foldl_cons, appendDigit_upperDigit _ (Nat.mod_lt n (by decide)),
        Nat.div_add_mod]

theorem foldl_zeros (count : Nat) : (List.replicate count '0').foldl appendDigit 0 = 0 := by
  induction count with
  | zero => rfl
  | succ count ih => exact ih

/-- A number is read back from its digits, whatever zeros stand in front. -/
theorem numberOf_paddedText (width n : Nat) : numberOf (paddedText upperDigit width n) = n := by
  -- The fuel is enough for all digits of the number.
  have few : n < 16 ^ (n.log2 + 1) :=
    Nat.lt_of_lt_of_le Nat.lt_log2_self (Nat.pow_le_pow_left (by decide) _)
  rw [numberOf, paddedText, List.foldl_append, foldl_zeros]
  split
  · next zero => rw [eq_of_beq zero]; rfl
  · exact foldl_digitsOf few []

theorem mem_digitsOf {digits : List Char} (own : ∀ c ∈ digits, ∃ k < 16, c = upperDigit k) :
    ∀ c ∈ paddedText.digitsOf upperDigit fuel n digits, ∃ k < 16, c = upperDigit k := by
  induction fuel generalizing n digits with
  | zero => exact own
  | succ fuel ih =>
    rw [paddedText.digitsOf]
    split
    · exact own
    · exact ih (List.forall_mem_cons.mpr ⟨⟨n % 16, Nat.mod_lt n (by decide), rfl⟩, own⟩)

theorem mem_paddedText (width n : Nat) :
    ∀ c ∈ paddedText upperDigit width n, ∃ k < 16, c = upperDigit k := by
  have zero : ∃ k < 16, '0' = upperDigit k := ⟨0, by decide, rfl⟩
  intro c among
  rw [paddedText] at among
  rcases List.mem_append.mp among with padding | digits
  · rw [List.eq_of_mem_replicate padding]
    exact zero
  · split at digits
    · rw [List.mem_singleton.mp digits]
      exact zero
    · exact mem_digitsOf (List.forall_mem_nil _) c digits

theorem paddedText_ne_nil (width n : Nat) : paddedText upperDigit width n ≠ [] := by
  intro none
  have read := numberOf_paddedText width n
  rw [none] at read
  obtain rfl : 0 = n := read
  exact List.append_ne_nil_of_right_ne_nil _ (List.cons_ne_nil '0' []) none

/-- What a displayed text shows at each position. -/
def positions (text : String) : List (List Char) :=
  match bare text with
  | [] => []
  | shown => shown.splitOn ' '

/-- Words in brackets, with commas and blanks between them, are parted again. -/
theorem positions_bracketed {words : List (List Char)}
    (free : ∀ word ∈ words, ∀ c ∈ word, c ∉ ['[', ']', ',', ' ']) (present : [] ∉ words) :
    positions ("[" ++ ", ".intercalate (words.map String.ofList) ++ "]") = words := by
  have unbracketed : ∀ word ∈ words, ∀ c ∈ word, c ∉ ['[', ']', ','] :=
    fun word among c own listed => free word among c own (List.mem_append_left [' '] listed)
  have unparted : ∀ word ∈ words, ' ' ∉ word :=
    fun word among own => free word among ' ' own (by decide)
  rw [positions, bare_bracketed unbracketed]
  cases words with
  | nil => rfl
  | cons word words =>
    have parted := List.splitOn_intercalate ' ' unparted (List.cons_ne_nil word words)
    split
    · next none =>
      rw [none] at parted
      exact absurd (parted ▸ List.mem_singleton_self []) present
    · exact parted

theorem positions_formatBytes (data : List UInt8) :
    positions (formatBytes data) = data.map upperByte := by
  have digit : ∀ n < 16, upperDigit n ∉ ['[', ']', ',', ' '] := by decide
  rw [formatBytes_eq]
  refine positions_bracketed (fun word among c own => ?_) (by simp [upperByte])
  obtain ⟨byte, -, rfl⟩ := List.mem_map.mp among
  obtain ⟨high, low⟩ := digits_lt byte
  rcases List.mem_cons.mp own with rfl | own
  · exact digit _ high
  · obtain rfl := List.mem_singleton.mp own
    exact digit _ low

/-- At a position, one text shows neither a wildcard nor what the other one shows. -/
def DiffersAt (expected observed : String) (i : Nat) : Prop :=
  ∃ wanted given, (positions expected)[i]? = some wanted ∧ (positions observed)[i]? = some given ∧
    wanted ≠ ['_', '_'] ∧ wanted ≠ given

end ByteRecord.Hex
