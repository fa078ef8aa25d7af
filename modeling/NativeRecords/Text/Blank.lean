/-
# NativeRecords.Text.Blank -- white space and its removal at the ends of a text

White space is the Unicode property of that name together with the four information separators
U+001C to U+001F.
-/
import NativeRecords.Text.Ranges

namespace NativeRecords

/-- The white-space characters. -/
def blankRanges : List (Nat × Nat) :=
  [(0x9, 0xD), (0x1C, 0x20), (0x85, 0x85), (0xA0, 0xA0), (0x1680, 0x1680), (0x2000, 0x200A),
   (0x2028, 0x2029), (0x202F, 0x202F), (0x205F, 0x205F), (0x3000, 0x3000)]

/-- Whether `c` is white space. -/
def isBlank (c : Char) : Bool := inRanges c.toNat blankRanges

/-- A text without the white space at its end. -/
def trimEnd (cs : List Char) : List Char := (cs.reverse.dropWhile isBlank).reverse

/-- A text without the white space at both ends. -/
def trimBoth (cs : List Char) : List Char := trimEnd (cs.dropWhile isBlank)

end NativeRecords
