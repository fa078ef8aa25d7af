/-
# NativeRecords.Text.Ranges -- character classes as ascending ranges of code points

A class of characters is a list of closed ranges that ascend and stand apart. The classes of this
library follow version 14 of the Unicode character data; each table holds the part beyond ASCII,
and the rule for ASCII characters stands beside it.
-/

namespace NativeRecords

/-- Whether `n` lies in one of the closed ranges. They ascend, so the search stops at the first
one that starts beyond `n`. -/
def inRanges (n : Nat) : List (Nat × Nat) → Bool
  | [] => false
  | (low, high) :: rest => if n < low then false else if n ≤ high then true else inRanges n rest

end NativeRecords
