/-!
# Indices

Rows, columns and counts of them are indices: numbers up to a greatest one. Where a count would be
greater, it wraps around (`wrapIndex`), so whoever counts has to see to it that there is room.
-/

namespace Spreadsheet.Numeric

/-- The greatest index, one below the power 64 of two. -/
def maxIndex : Nat := 18446744073709551615

/-- A number as an index holds it: behind the greatest index it starts again at zero. -/
def wrapIndex (n : Nat) : Nat := n % (maxIndex + 1)

variable {n : Nat}

theorem wrapIndex_of_le (h : n ≤ maxIndex) : wrapIndex n = n :=
  Nat.mod_eq_of_lt (Nat.lt_succ_of_le h)

theorem wrapIndex_le_self (n : Nat) : wrapIndex n ≤ n :=
  Nat.mod_le n (maxIndex + 1)

/-- What follows the greatest index is zero. -/
theorem wrapIndex_succ_maxIndex : wrapIndex (maxIndex + 1) = 0 :=
  Nat.mod_self (maxIndex + 1)

end Spreadsheet.Numeric
