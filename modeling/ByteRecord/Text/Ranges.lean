/-! Sets of code points given as ranges, as character properties are tabulated. -/
namespace ByteRecord.Text

/-- Closed ranges of code points; the set is their union. -/
structure Ranges where
  bounds : Array (Nat × Nat)

def Ranges.contains (ranges : Ranges) (codePoint : Nat) : Bool :=
  ranges.bounds.any fun (low, high) => low ≤ codePoint && codePoint ≤ high

/-- As a list the ranges are quick to go through. -/
theorem Ranges.contains_eq_any (ranges : Ranges) (codePoint : Nat) :
    ranges.contains codePoint =
      ranges.bounds.toList.any fun (low, high) => low ≤ codePoint && codePoint ≤ high := by
  rw [contains, Array.any_toList]

end ByteRecord.Text
