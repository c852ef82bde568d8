/-!
# Sets of code points

A set of code points is a list of closed ranges. Membership is decided by looking through the
list, so nothing about a table beyond its ranges enters a proof. The tables follow Unicode 17.0.
-/

set_option autoImplicit false

namespace Ecmascript.Unicode

/-- A set of code points, as closed ranges `(first, last)`. -/
abbrev Ranges := List (Nat × Nat)

/-- Whether a code point lies in one of the ranges. -/
def Ranges.contains (ranges : Ranges) (codePoint : Nat) : Bool :=
  ranges.any fun range => range.1 ≤ codePoint && codePoint ≤ range.2

/-- Whether a character is one of the first 128 code points. -/
def isAscii (c : Char) : Bool :=
  c.toNat < 0x80

end Ecmascript.Unicode
