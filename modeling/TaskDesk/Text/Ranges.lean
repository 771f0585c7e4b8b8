/-!
# Sets of characters

A property of characters that follows no rule is a list of ranges of code points.

## Main definitions

* `CodeRanges`, `CodeRanges.has`.
-/

namespace TaskDesk

/-- Ranges of code points, each with its first and its last one. -/
abbrev CodeRanges := List (Nat × Nat)

namespace CodeRanges

/-- The character lies in one of the ranges. -/
def has (ranges : CodeRanges) (c : Char) : Bool :=
  ranges.any fun (first, last) => first ≤ c.toNat && c.toNat ≤ last

end CodeRanges

end TaskDesk
