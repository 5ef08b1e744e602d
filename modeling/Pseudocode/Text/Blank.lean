import Pseudocode.Text.Basic

/-! Blank code points, and the blanks a line starts with. -/

namespace Pseudocode

/--
The blank code points, as ranges with both ends included.

They separate words, lines or units of information, or only take up room.
A zero-width space and a byte order mark are not among them.
-/
def blankRanges : List (Nat × Nat) :=
  [(0x0009, 0x000d), (0x001c, 0x0020), (0x0085, 0x0085), (0x00a0, 0x00a0), (0x1680, 0x1680),
    (0x2000, 0x200a), (0x2028, 0x2029), (0x202f, 0x202f), (0x205f, 0x205f), (0x3000, 0x3000)]

/-- Whether a code point is blank. -/
def isBlank (c : Char) : Bool :=
  blankRanges.any fun (first, last) => first ≤ c.toNat && c.toNat ≤ last

/-- The line without the blanks it starts with. -/
def trimStart (line : Text) : Text :=
  line.dropWhile isBlank

end Pseudocode
