/-!
# `Unicode.Ranges` — sets of characters as ranges of code points

The character properties that the language and its messages depend on are finite unions of ranges.
This module holds their common form, the membership test, and the two properties whose tables are short.

## Contents
- **`Ranges`**: ascending ranges of code points, both ends included.
- **`Ranges.contains`**: membership, with a search that stops at the first range above the code
  point, so that the short ASCII part of a long table is all that an ASCII character visits.
- **`isWhiteSpace`**: the property White_Space. Blanks separate tokens and are trimmed from the ends of texts.
- **`isDefaultIgnorable`**: the property Default_Ignorable_Code_Point, of characters that are shown as nothing.
-/

namespace ModuleLang.Unicode

/-- A set of characters: ranges of code points in ascending order, both ends included. -/
abbrev Ranges := List (Nat × Nat)

namespace Ranges

/-- Whether a code point lies in one of the ranges. -/
def contains : Ranges → Nat → Bool
  | [], _ => false
  | (first, last) :: rest, point =>
      if point < first then false
      else if point ≤ last then true
      else contains rest point

end Ranges

/-! ## Blanks

The set is the Unicode property White_Space, 25 characters in all, line separators and no-break spaces
included. -/

/-- The code points with the property White_Space (Unicode 17). -/
def whiteSpace : Ranges :=
  [(0x9, 0xD), (0x20, 0x20), (0x85, 0x85), (0xA0, 0xA0), (0x1680, 0x1680), (0x2000, 0x200A),
   (0x2028, 0x2029), (0x202F, 0x202F), (0x205F, 0x205F), (0x3000, 0x3000)]

/-- Whether a character is a blank: it has the property White_Space. -/
def isWhiteSpace (c : Char) : Bool :=
  whiteSpace.contains c.toNat

/-! ## Characters without an appearance

Some characters are shown as nothing at all: joiners, selectors of a variant, and the fillers that stand
for a missing part of a Korean syllable. The fillers count as letters, so that their category does not
tell them from visible ones. -/

/-- The code points with the property Default_Ignorable_Code_Point (Unicode 17). -/
def defaultIgnorable : Ranges :=
  [(0xAD, 0xAD), (0x34F, 0x34F), (0x61C, 0x61C), (0x115F, 0x1160), (0x17B4, 0x17B5),
   (0x180B, 0x180F), (0x200B, 0x200F), (0x202A, 0x202E), (0x2060, 0x206F), (0x3164, 0x3164),
   (0xFE00, 0xFE0F), (0xFEFF, 0xFEFF), (0xFFA0, 0xFFA0), (0xFFF0, 0xFFF8),
   (0x1BCA0, 0x1BCA3), (0x1D173, 0x1D17A), (0xE0000, 0xE0FFF)]

/-- Whether a character is shown as nothing: it has the property Default_Ignorable_Code_Point. -/
def isDefaultIgnorable (c : Char) : Bool :=
  defaultIgnorable.contains c.toNat

end ModuleLang.Unicode
