/-
Sets of characters given by ranges of code points.

Main definitions:
* `Text.Ranges` — a list of ranges, both ends included;
* `Text.Ranges.holds` — whether a character lies in one of them.
-/

namespace ProfiledSocket.Text

/-- Ranges of code points, both ends included. -/
abbrev Ranges := List (Nat × Nat)

/-- Whether `c` lies in one of the ranges. -/
def Ranges.holds (ranges : Ranges) (c : Char) : Bool :=
  ranges.any fun r => r.1 ≤ c.toNat && c.toNat ≤ r.2

end ProfiledSocket.Text
