/-
White space, and texts without it at their ends.

Main definitions:
* `Text.isBlank` — the Unicode property White_Space;
* `Text.strip` — a list of characters without the blanks at both ends.
-/
import ProfiledSocket.Text.Ranges

namespace ProfiledSocket.Text

/-- The Unicode property White_Space. -/
def blanks : Ranges :=
  [(0x9, 0xd), (0x20, 0x20), (0x85, 0x85), (0xa0, 0xa0), (0x1680, 0x1680), (0x2000, 0x200a),
    (0x2028, 0x2029), (0x202f, 0x202f), (0x205f, 0x205f), (0x3000, 0x3000)]

/-- Whether `c` is white space. -/
def isBlank (c : Char) : Bool := blanks.holds c

/-- `cs` without the blanks at its end. -/
def stripEnd (cs : List Char) : List Char :=
  (cs.reverse.dropWhile isBlank).reverse

/-- `cs` without the blanks at both ends. -/
def strip (cs : List Char) : List Char :=
  stripEnd (cs.dropWhile isBlank)

end ProfiledSocket.Text
