import Plotline.Text.Extending
import Plotline.Text.Invisible

/-!
# Characters that are shown as themselves

Quoted text shows a character as itself unless it is invisible or a mark that extends the
character before it.
-/

namespace Plotline.Text

/-- Whether a code point lies in one of the ranges of an increasing table. -/
def inRanges (n : Nat) : List (Nat × Nat) → Bool
  | [] => false
  | (low, high) :: rest => low ≤ n && (n ≤ high || inRanges n rest)

/-- Whether a character is shown as itself. Everything up to the tilde is decided at once. -/
def isVisible (c : Char) : Bool :=
  let n := c.toNat
  if n < 0x7F then 0x20 ≤ n else !(inRanges n invisibleRanges || inRanges n extendingRanges)

end Plotline.Text
