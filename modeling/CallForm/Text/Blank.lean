import CallForm.Text.Ranges

/-!
# Blanks

The characters that may stand between lexemes.
-/

namespace CallForm.Text

/-- The code points with the property White_Space in Unicode: the spaces of all
widths, the tabulators, and the line and paragraph ends. -/
def blanks : Ranges :=
  [(0x9, 0xD), (0x20, 0x20), (0x85, 0x85), (0xA0, 0xA0), (0x1680, 0x1680),
   (0x2000, 0x200A), (0x2028, 0x2029), (0x202F, 0x202F), (0x205F, 0x205F), (0x3000, 0x3000)]

/-- Whether a character is a blank.  The separators U+001C to U+001F are none. -/
def isBlank (c : Char) : Bool :=
  blanks.covers c.toNat

end CallForm.Text
