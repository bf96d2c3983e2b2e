/-!
# Sets of characters given by ranges of code points

A property of characters is written as a list of closed ranges of code points.  `CodeRange.covers` decides
whether a character has the property.
-/

namespace AnnotatedSql

/-- A closed range of code points. -/
structure CodeRange where
  first : Nat
  last : Nat
deriving DecidableEq, Repr

/-- The character lies in one of the ranges. -/
def CodeRange.covers (ranges : List CodeRange) (c : Char) : Bool :=
  ranges.any fun r => r.first ≤ c.toNat && c.toNat ≤ r.last

theorem CodeRange.covers_eq_true_iff {ranges : List CodeRange} {c : Char} :
    covers ranges c = true ↔ ∃ r ∈ ranges, r.first ≤ c.toNat ∧ c.toNat ≤ r.last := by
  simp [covers]

end AnnotatedSql
