/-!
# Blank characters

The characters that count as blank when a text is asked whether it says anything: those of the
Unicode property `White_Space`.

## Main definitions

- `Text.isBlankChar` — the property, as ranges of code points
- `Text.isBlank` — a text with no other character in it
-/

namespace SessionControl.Text

/-- Code points with the Unicode property `White_Space`, as closed ranges. -/
def blankRanges : List (Nat × Nat) :=
  [(0x9, 0xd), (0x20, 0x20), (0x85, 0x85), (0xa0, 0xa0), (0x1680, 0x1680), (0x2000, 0x200a),
   (0x2028, 0x2029), (0x202f, 0x202f), (0x205f, 0x205f), (0x3000, 0x3000)]

/-- Membership of a code point in a list of closed ranges. -/
def inRanges (ranges : List (Nat × Nat)) (n : Nat) : Bool :=
  ranges.any fun r => r.1 ≤ n && n ≤ r.2

/-- A character with the property `White_Space`. -/
def isBlankChar (c : Char) : Bool :=
  inRanges blankRanges c.toNat

/-- A text made of blank characters only; the empty text is one. -/
def isBlank (s : String) : Bool :=
  s.toList.all isBlankChar

end SessionControl.Text
