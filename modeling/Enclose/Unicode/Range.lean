/-!
Sets of characters given by ranges of code points. A property of the Unicode standard is a list of
such ranges in increasing order; the ASCII part of a property is decided beside its table.
-/

namespace Enclose.Unicode

structure CodeRange where
  first : Nat
  last : Nat
  deriving Repr, DecidableEq

def CodeRange.holds (range : CodeRange) (c : Char) : Bool :=
  decide (range.first ≤ c.toNat) && decide (c.toNat ≤ range.last)

def listed (table : List CodeRange) (c : Char) : Bool :=
  table.any fun range => range.holds c

end Enclose.Unicode
