/-! Hexadecimal digits and bytes as pairs of them. -/
namespace ByteRecord.Hex

/-- The value of a hexadecimal digit of either case. -/
def digitValue? (c : Char) : Option Nat :=
  if '0' ≤ c && c ≤ '9' then some (c.toNat - 48)
  else if 'a' ≤ c && c ≤ 'f' then some (c.toNat - 87)
  else if 'A' ≤ c && c ≤ 'F' then some (c.toNat - 55)
  else none

def isDigit (c : Char) : Bool :=
  (digitValue? c).isSome

def lowerDigit (n : Nat) : Char :=
  Char.ofNat (if n < 10 then n + 48 else n + 87)

def upperDigit (n : Nat) : Char :=
  Char.ofNat (if n < 10 then n + 48 else n + 55)

theorem digitValue?_lowerDigit {n : Nat} (h : n < 16) : digitValue? (lowerDigit n) = some n := by
  revert n
  decide

theorem digitValue?_upperDigit {n : Nat} (h : n < 16) : digitValue? (upperDigit n) = some n := by
  revert n
  decide

/-- A digit is one of the two ways to write a number below sixteen. -/
theorem digitValue?_eq_some_iff :
    digitValue? c = some n ↔ n < 16 ∧ (c = lowerDigit n ∨ c = upperDigit n) := by
  have shown {k : Nat} (same : k = c.toNat) : c = Char.ofNat k := by
    rw [same, Char.ofNat_toNat]
  constructor
  · intro read
    unfold digitValue? at read
    simp only [Bool.and_eq_true, decide_eq_true_eq, Char.le_def, UInt32.le_iff_toNat_le] at read
    change (if 48 ≤ c.toNat ∧ c.toNat ≤ 57 then _ else if 97 ≤ c.toNat ∧ c.toNat ≤ 102 then _
      else if 65 ≤ c.toNat ∧ c.toNat ≤ 70 then _ else _) = _ at read
    split at read
    · obtain rfl := Option.some.inj read
      refine ⟨by omega, .inl ?_⟩
      rw [lowerDigit, if_pos (by omega)]
      exact shown (by omega)
    split at read
    · obtain rfl := Option.some.inj read
      refine ⟨by omega, .inl ?_⟩
      rw [lowerDigit, if_neg (by omega)]
      exact shown (by omega)
    split at read
    · obtain rfl := Option.some.inj read
      refine ⟨by omega, .inr ?_⟩
      rw [upperDigit, if_neg (by omega)]
      exact shown (by omega)
    · cases read
  · rintro ⟨small, rfl | rfl⟩
    · exact digitValue?_lowerDigit small
    · exact digitValue?_upperDigit small

/-- A number in hexadecimal, with zeros in front up to a least width. -/
def paddedText (digit : Nat → Char) (width : Nat) (n : Nat) : List Char :=
  let digits := if n == 0 then ['0'] else digitsOf (n.log2 + 1) n []
  List.replicate (width - digits.length) '0' ++ digits
where
  digitsOf : Nat → Nat → List Char → List Char
    | 0, _, digits => digits
    | fuel + 1, n, digits =>
      if n == 0 then digits else digitsOf fuel (n / 16) (digit (n % 16) :: digits)

theorem paddedText_upperDigit {n : Nat} (small : n < 256) :
    paddedText upperDigit 2 n = [upperDigit (n / 16), upperDigit (n % 16)] := by
  revert n
  decide +kernel

/-- Two upper-case digits. -/
def upperByte (byte : UInt8) : List Char :=
  [upperDigit (byte.toNat / 16), upperDigit (byte.toNat % 16)]

def lowerByte (byte : UInt8) : List Char :=
  [lowerDigit (byte.toNat / 16), lowerDigit (byte.toNat % 16)]

/-- Bytes as pairs of lower-case digits with a separator between them. -/
def lowerText (separator : String) (data : List UInt8) : String :=
  separator.intercalate (data.map fun byte => String.ofList (lowerByte byte))

/-- Bytes as upper-case pairs in brackets: `[48, 45, 59]`. -/
def formatBytes (data : List UInt8) : String :=
  "[" ++ ", ".intercalate (data.map fun byte => String.ofList (upperByte byte)) ++ "]"

end ByteRecord.Hex
