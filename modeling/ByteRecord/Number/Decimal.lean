import ByteRecord.Text.Digits
import ByteRecord.Number.Power

/-! Whole numbers as decimal text. Texts beyond a fixed number of digits are refused in both
directions, which keeps conversions cheap. -/
namespace ByteRecord.Number

/-- The most digits a whole number may have as decimal text. -/
def maxDecimalDigits : Nat := 4300

def natText (n : Nat) : String :=
  String.ofList (Nat.toDigits 10 n)

def intText : Int → String
  | .ofNat n => natText n
  | .negSucc n => "-" ++ natText (n + 1)

/-- A number with more decimal digits than may be written out. -/
def isOverlong (n : Int) : Bool :=
  tenTo maxDecimalDigits ≤ n.natAbs

/-- The value of digits in base ten, most significant first. -/
def ofDigits (digits : List Nat) : Nat :=
  digits.foldl (fun value digit => value * 10 + digit) 0

/-- Digits with single underscores between them. -/
private def digitRun? : List Char → Option (List Nat)
  | [] => none
  | [c] => (Text.digitValue? c).map ([·])
  | c :: '_' :: rest => do return (← Text.digitValue? c) :: (← digitRun? rest)
  | c :: rest => do return (← Text.digitValue? c) :: (← digitRun? rest)

/-- Reads a whole number: an optional sign, then digits of any script. -/
def readInt? (text : List Char) : Option Int := do
  let text := Text.trim text
  let (negative, digits) := match text with
    | '-' :: rest => (true, rest)
    | '+' :: rest => (false, rest)
    | rest => (false, rest)
  let digits ← digitRun? digits
  guard (digits.length ≤ maxDecimalDigits)
  let value : Int := ofDigits digits
  return if negative then -value else value

/-- The number that ASCII digits spell. -/
def ofDecimal (digits : List Char) : Nat :=
  ofDigits (digits.map fun c => c.toNat - 48)

theorem toNat_of_isAsciiDigit (digit : Text.isAsciiDigit c) : 48 ≤ c.toNat ∧ c.toNat ≤ 57 := by
  simp only [Text.isAsciiDigit, Bool.and_eq_true, decide_eq_true_eq, Char.le_def,
    UInt32.le_iff_toNat_le] at digit
  exact digit

theorem isBlank_of_isAsciiDigit (digit : Text.isAsciiDigit c) : Text.isBlank c = false := by
  have range := toNat_of_isAsciiDigit digit
  simp only [Text.isBlank, Bool.or_eq_false_iff, Bool.and_eq_false_iff, decide_eq_false_iff_not,
    beq_eq_false_iff_ne]
  omega

theorem isAscii_of_isAsciiDigit (digit : Text.isAsciiDigit c) : Text.isAscii c := by
  have range := toNat_of_isAsciiDigit digit
  rw [Text.isAscii, decide_eq_true_eq]
  exact UInt32.lt_iff_toNat_lt.mpr (Nat.lt_of_le_of_lt range.2 (by decide))

theorem digitValue?_of_isAsciiDigit (digit : Text.isAsciiDigit c) :
    Text.digitValue? c = some (c.toNat - 48) := by
  rw [Text.digitValue?, if_pos (isAscii_of_isAsciiDigit digit), if_pos digit]

private theorem digitRun?_digits (c : Char) (rest : List Char)
    (all : ∀ d ∈ c :: rest, Text.isAsciiDigit d) :
    digitRun? (c :: rest) = some ((c :: rest).map fun d => d.toNat - 48) := by
  have own := digitValue?_of_isAsciiDigit (all c List.mem_cons_self)
  induction rest generalizing c with
  | nil => simp only [digitRun?, own, Option.map_some, List.map_cons, List.map_nil]
  | cons d rest ih =>
    have later : ∀ other ∈ d :: rest, Text.isAsciiDigit other :=
      fun other member => all other (List.mem_cons_of_mem c member)
    have plain : d ≠ '_' := by
      rintro rfl
      exact absurd (later '_' List.mem_cons_self) (by decide)
    have next := ih d later (digitValue?_of_isAsciiDigit (later d List.mem_cons_self))
    rw [digitRun?, own, next]
    · rfl
    · exact nofun
    · exact fun _ same => plain (List.cons.inj same).1

private theorem dropWhile_isBlank {digits : List Char} (all : ∀ c ∈ digits, Text.isAsciiDigit c) :
    digits.dropWhile Text.isBlank = digits := by
  cases digits with
  | nil => rfl
  | cons c rest =>
    rw [List.dropWhile_cons_of_neg]
    rw [isBlank_of_isAsciiDigit (all c List.mem_cons_self)]
    exact Bool.false_ne_true

/-- ASCII digits, and not too many of them, are read as the number that they spell. -/
theorem readInt?_digits {digits : List Char} (some_digit : digits ≠ [])
    (all : ∀ c ∈ digits, Text.isAsciiDigit c) :
    readInt? digits =
      if digits.length ≤ maxDecimalDigits then some (ofDecimal digits : Int) else none := by
  have trimmed : Text.trim digits = digits := by
    rw [Text.trim, dropWhile_isBlank all, dropWhile_isBlank, List.reverse_reverse]
    exact fun c member => all c (List.mem_reverse.mp member)
  cases digits with
  | nil => exact absurd rfl some_digit
  | cons c rest =>
    have digit := all c List.mem_cons_self
    have unsigned : (match c :: rest with
        | '-' :: rest => (true, rest)
        | '+' :: rest => (false, rest)
        | rest => (false, rest)) = (false, c :: rest) := by
      split
      · next same =>
        cases same
        exact absurd digit (by decide)
      · next same =>
        cases same
        exact absurd digit (by decide)
      · rfl
    rw [readInt?, trimmed, unsigned]
    change (digitRun? (c :: rest) >>= _) = _
    rw [digitRun?_digits c rest all, Option.bind_eq_bind, Option.bind_some, List.length_map]
    by_cases short : (c :: rest).length ≤ maxDecimalDigits
    · have fits : (guard ((c :: rest).length ≤ maxDecimalDigits) : Option Unit) = some () :=
        if_pos short
      rw [if_pos short, fits]
      rfl
    · have exceeds : (guard ((c :: rest).length ≤ maxDecimalDigits) : Option Unit) = none :=
        if_neg short
      rw [if_neg short, exceeds]
      rfl

private theorem ofDigits_lt {digits : List Char} (all : ∀ c ∈ digits, Text.isAsciiDigit c)
    (start : Nat) :
    (digits.map fun c => c.toNat - 48).foldl (fun value digit => value * 10 + digit) start <
      (start + 1) * tenTo digits.length := by
  induction digits generalizing start with
  | nil => exact Nat.lt_of_lt_of_eq (Nat.lt_succ_self start) (Nat.mul_one _).symm
  | cons c rest ih =>
    obtain ⟨digit, later⟩ := List.forall_mem_cons.mp all
    have small := toNat_of_isAsciiDigit digit
    have next : start * 10 + (c.toNat - 48) + 1 ≤ (start + 1) * 10 := by omega
    rw [List.map_cons, List.foldl_cons, List.length_cons, tenTo_succ, ← Nat.mul_assoc]
    exact Nat.lt_of_lt_of_le (ih later _) (Nat.mul_le_mul_right _ next)

/-- A number that is spelt with few enough digits can be written. -/
theorem isOverlong_ofDecimal {digits : List Char} (all : ∀ c ∈ digits, Text.isAsciiDigit c)
    (short : digits.length ≤ maxDecimalDigits) : isOverlong (ofDecimal digits) = false := by
  have below := ofDigits_lt all 0
  rw [Nat.zero_add, Nat.one_mul] at below
  rw [isOverlong, decide_eq_false_iff_not, Nat.not_le]
  exact Nat.lt_of_lt_of_le below (tenTo_le short)

theorem isAsciiDigit_of_mem_natText (present : c ∈ (natText n).toList) : Text.isAsciiDigit c := by
  rw [natText, String.toList_ofList] at present
  have digit := Nat.isDigit_of_mem_toDigits (by decide) (by decide) present
  simpa [Text.isAsciiDigit, Char.isDigit, Char.le_def] using digit

theorem natText_ne_nil (n : Nat) : (natText n).toList ≠ [] := by
  rw [natText, String.toList_ofList]
  exact Nat.toDigits_ne_nil

/-- Decimal text spells its number. -/
theorem ofDecimal_natText (n : Nat) : ofDecimal (natText n).toList = n := by
  rw [natText, String.toList_ofList]
  induction n using Nat.strongRecOn with
  | _ n ih =>
    by_cases small : n < 10
    · rw [Nat.toDigits_of_lt_base small]
      simpa [ofDecimal, ofDigits] using Nat.toNat_digitChar_sub_48_of_lt_ten small
    · have front := ih (n / 10) (by omega)
      rw [ofDecimal, ofDigits] at front
      rw [Nat.toDigits_of_base_le (by decide) (by omega), ofDecimal, ofDigits, List.map_append,
        List.foldl_append, front]
      simp only [List.map_cons, List.map_nil, List.foldl_cons, List.foldl_nil,
        Nat.toNat_digitChar_sub_48_of_lt_ten (Nat.mod_lt n (by decide : 10 > 0))]
      omega

/-- Decimal text has no zero in front, except that of zero itself. -/
theorem natText_eq_zero_or_head (n : Nat) :
    (natText n).toList = ['0'] ∨ ∀ c ∈ (natText n).toList.head?, c ≠ '0' := by
  rw [natText, String.toList_ofList]
  induction n using Nat.strongRecOn with
  | _ n ih =>
    by_cases small : n < 10
    · rw [Nat.toDigits_of_lt_base small]
      by_cases zero : n = 0
      · subst zero
        exact .inl rfl
      · refine .inr fun c first => ?_
        cases first
        simpa using zero
    · right
      rcases ih (n / 10) (by omega) with zero | apart
      · have value := ofDecimal_natText (n / 10)
        rw [natText, String.toList_ofList, zero] at value
        have : n / 10 = 0 := value.symm
        omega
      · have some_digit : Nat.toDigits 10 (n / 10) ≠ [] := Nat.toDigits_ne_nil
        obtain ⟨first, rest, digits⟩ := List.exists_cons_of_ne_nil some_digit
        rw [digits] at apart
        rw [Nat.toDigits_of_base_le (by decide) (by omega), digits]
        exact apart

end ByteRecord.Number
