/-!
# Blank characters and trimming

A blank is a character with the `White_Space` property: the tab to carriage return block, the
space, and the spaces and separators beyond ASCII. Zero-width characters and the byte order mark
are not blank.
-/

namespace ProgramOutline.Text

/-- The characters with the `White_Space` property. -/
def isBlank (c : Char) : Bool :=
  let n := c.toNat
  (9 ≤ n && n ≤ 13) || n == 32 || n == 0x85 || n == 0xA0 || n == 0x1680 ||
    (0x2000 ≤ n && n ≤ 0x200A) || n == 0x2028 || n == 0x2029 || n == 0x202F || n == 0x205F ||
    n == 0x3000

/-- The text without its longest end of characters that satisfy `p`. -/
def dropEndWhile (p : Char → Bool) (text : List Char) : List Char :=
  (text.reverse.dropWhile p).reverse

/-- The text without the characters satisfying `p` at either end. -/
def stripWhile (p : Char → Bool) (text : List Char) : List Char :=
  dropEndWhile p (text.dropWhile p)

/-- The text without blanks at either end. -/
def trim (text : List Char) : List Char := stripWhile isBlank text

end ProgramOutline.Text
