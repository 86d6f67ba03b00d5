/-!
# White space

The white space characters of the character standard, and text without white space at its ends.
-/

namespace Plotline.Text

/-- Whether a character is white space. -/
def isBlank (c : Char) : Bool :=
  let n := c.toNat
  (0x09 ≤ n && n ≤ 0x0D) || n = 0x20 || n = 0x85 || n = 0xA0 || n = 0x1680 ||
    (0x2000 ≤ n && n ≤ 0x200A) || n = 0x2028 || n = 0x2029 || n = 0x202F || n = 0x205F ||
    n = 0x3000

/-- Text without white space at its end. -/
def trimEnd (s : String) : String := (s.dropEndWhile isBlank).copy

/-- Text without white space at its ends. -/
def trim (s : String) : String := ((s.dropWhile isBlank).dropEndWhile isBlank).copy

end Plotline.Text
