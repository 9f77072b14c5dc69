import ByteRecord.Text.CharClass
import ByteRecord.Hex.Digit

/-! Number literals. Each function gives the width of the literal that a text begins with, and `0`
where it begins with none. Single underscores may stand between digits. -/
namespace ByteRecord.Lexical

/-- The width of digits that each may follow an underscore. -/
def digitRun (isDigit : Char → Bool) : List Char → Nat
  | '_' :: c :: rest => if isDigit c then digitRun isDigit rest + 2 else 0
  | c :: rest => if isDigit c then digitRun isDigit rest + 1 else 0
  | [] => 0

/-- Digits of a decimal number, the first without an underscore before it. -/
def decimalWidth : List Char → Nat
  | c :: rest => if Text.isAsciiDigit c then digitRun Text.isAsciiDigit rest + 1 else 0
  | [] => 0

def signWidth : List Char → Nat
  | c :: _ => if c == '+' || c == '-' then 1 else 0
  | [] => 0

def exponentWidth : List Char → Nat
  | c :: rest =>
    if c == 'e' || c == 'E' then
      let sign := signWidth rest
      let digits := decimalWidth (rest.drop sign)
      if digits == 0 then 0 else 1 + sign + digits
    else 0
  | [] => 0

/-- A number with a point or an exponent. -/
def floatWidth (text : List Char) : Nat :=
  let whole := decimalWidth text
  let after := text.drop whole
  match after with
  | '.' :: fraction =>
    let digits := decimalWidth fraction
    if whole == 0 && digits == 0 then 0
    else whole + 1 + digits + exponentWidth (fraction.drop digits)
  | _ =>
    let exponent := exponentWidth after
    if whole == 0 || exponent == 0 then 0 else whole + exponent

def isOne (letter : Char) (c : Char) : Bool :=
  c == letter || c == letter.toUpper

def isBinary (c : Char) : Bool := c == '0' || c == '1'

def isOctal (c : Char) : Bool := '0' ≤ c && c ≤ '7'

/-- The digits of a radix given by the letter after a zero. -/
def radixDigit? (letter : Char) : Option (Char → Bool) :=
  if isOne 'x' letter then some Hex.isDigit
  else if isOne 'b' letter then some isBinary
  else if isOne 'o' letter then some isOctal
  else none

/-- A whole number: with a radix, a run of zeros, or digits that begin with none. -/
def wholeWidth (text : List Char) : Nat :=
  let plain := match text with
    | '0' :: rest => digitRun (· == '0') rest + 1
    | _ => decimalWidth text
  match text with
  | '0' :: letter :: rest =>
    match radixDigit? letter with
    | some isDigit =>
      let digits := digitRun isDigit rest
      if digits == 0 then plain else digits + 2
    | none => plain
  | _ => plain

def beginsImaginary : List Char → Bool
  | c :: _ => isOne 'j' c
  | [] => false

/-- A number literal: imaginary, with a point or exponent, or whole. -/
def numberWidth (text : List Char) : Nat :=
  let whole := decimalWidth text
  let float := floatWidth text
  if whole != 0 && beginsImaginary (text.drop whole) then whole + 1
  else if float != 0 then if beginsImaginary (text.drop float) then float + 1 else float
  else wholeWidth text

theorem digitRun_le (isDigit : Char → Bool) (text : List Char) :
    digitRun isDigit text ≤ text.length := by
  fun_induction digitRun isDigit text with
  | case1 c rest digit ih => simp only [List.length_cons]; omega
  | case2 => exact Nat.zero_le _
  | case3 c rest different digit ih => simp only [List.length_cons]; omega
  | case4 => exact Nat.zero_le _
  | case5 => exact Nat.zero_le _

theorem decimalWidth_le (text : List Char) : decimalWidth text ≤ text.length := by
  cases text with
  | nil => exact Nat.zero_le _
  | cons c rest =>
    rw [decimalWidth]
    split
    · exact Nat.succ_le_succ (digitRun_le _ rest)
    · exact Nat.zero_le _

theorem exponentWidth_le (text : List Char) : exponentWidth text ≤ text.length := by
  cases text with
  | nil => exact Nat.zero_le _
  | cons c rest =>
    dsimp only [exponentWidth]
    split
    · -- whether there is a sign does not matter: digits behind it imply that it was there
      generalize signWidth rest = sign
      have digits_le := decimalWidth_le (rest.drop sign)
      rw [List.length_drop] at digits_le
      split
      · exact Nat.zero_le _
      · next some_digit =>
        have positive : decimalWidth (rest.drop sign) ≠ 0 := by simpa using some_digit
        rw [List.length_cons]
        omega
    · exact Nat.zero_le _

theorem floatWidth_le (text : List Char) : floatWidth text ≤ text.length := by
  have whole_le := decimalWidth_le text
  have after_le : (text.drop (decimalWidth text)).length = text.length - decimalWidth text :=
    List.length_drop
  dsimp only [floatWidth]
  split
  · next fraction point =>
    rw [point, List.length_cons] at after_le
    have digits_le := decimalWidth_le fraction
    have exponent_le := exponentWidth_le (fraction.drop (decimalWidth fraction))
    rw [List.length_drop] at exponent_le
    split <;> omega
  · have exponent_le := exponentWidth_le (text.drop (decimalWidth text))
    split <;> omega

theorem wholeWidth_le (text : List Char) : wholeWidth text ≤ text.length := by
  unfold wholeWidth
  extract_lets plain
  have plain_le : plain ≤ text.length := by
    dsimp only [plain]
    split
    · exact Nat.succ_le_succ (digitRun_le _ _)
    · exact decimalWidth_le text
  clear_value plain
  split
  · next letter rest =>
    split
    · next isDigit radix =>
      have digits_le := digitRun_le isDigit rest
      dsimp only
      split
      · exact plain_le
      · simp only [List.length_cons]
        omega
    · exact plain_le
  · exact plain_le

theorem lt_of_beginsImaginary {text : List Char} (imaginary : beginsImaginary (text.drop width)) :
    width < text.length := by
  rcases Nat.lt_or_ge width text.length with within | beyond
  · exact within
  · rw [List.drop_eq_nil_of_le beyond] at imaginary
    cases imaginary

theorem numberWidth_le (text : List Char) : numberWidth text ≤ text.length := by
  dsimp only [numberWidth]
  split
  · next imaginary =>
    exact lt_of_beginsImaginary (Bool.and_eq_true_iff.mp imaginary).2
  · split
    · split
      · next imaginary => exact lt_of_beginsImaginary imaginary
      · exact floatWidth_le text
    · exact wholeWidth_le text

end ByteRecord.Lexical
