/-! Powers of two and of ten. -/
namespace ByteRecord.Number

def twoTo (exponent : Nat) : Nat := Nat.pow 2 exponent

def tenTo (exponent : Nat) : Nat := Nat.pow 10 exponent

theorem tenTo_succ (exponent : Nat) : tenTo (exponent + 1) = 10 * tenTo exponent :=
  Nat.pow_succ'

theorem tenTo_le (fewer : n ≤ m) : tenTo n ≤ tenTo m :=
  Nat.pow_le_pow_right (by decide) fewer

end ByteRecord.Number
