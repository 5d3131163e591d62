/-!
# Blank characters

A character is blank when it has the Unicode property `White_Space`.  The
property has twenty-five members; the zero-width space, the byte order mark and
the Mongolian vowel separator are not among them.  `trim` strips blank
characters from both ends of a text.
-/

namespace LinearProgram.Text

/-- The characters with the Unicode property `White_Space`. -/
def isBlank (c : Char) : Bool :=
  let n := c.toNat
  (0x9 ≤ n && n ≤ 0xD) || n == 0x20 || n == 0x85 || n == 0xA0 || n == 0x1680 ||
    (0x2000 ≤ n && n ≤ 0x200A) || n == 0x2028 || n == 0x2029 || n == 0x202F || n == 0x205F ||
    n == 0x3000

/-- A line of characters without the blank ones at its end. -/
def trimEndChars (cs : List Char) : List Char :=
  (cs.reverse.dropWhile isBlank).reverse

/-- A line of characters without the blank ones at either end. -/
def trimChars (cs : List Char) : List Char :=
  trimEndChars (cs.dropWhile isBlank)

/-- A text without the blank characters at either end. -/
def trim (s : String) : String :=
  String.ofList (trimChars s.toList)

/-- A text of blank characters only. -/
def isBlankText (s : String) : Bool :=
  s.toList.all isBlank

end LinearProgram.Text
