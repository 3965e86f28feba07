import ColorScheme.Text.Basic

/-!
Sets of characters given as closed intervals of code points, the form in which
the character tables of this library are kept.
-/

namespace ColorScheme

/-- Closed intervals of code points, each from its first point to its last. -/
abbrev CodeRanges := List (Nat × Nat)

namespace CodeRanges

/-- Whether a character lies in one of the intervals. -/
def has (ranges : CodeRanges) (c : Char) : Bool :=
  ranges.any fun r => decide (r.1 ≤ c.toNat) && decide (c.toNat ≤ r.2)

theorem has_iff (ranges : CodeRanges) (c : Char) :
    ranges.has c = true ↔ ∃ r ∈ ranges, r.1 ≤ c.toNat ∧ c.toNat ≤ r.2 := by
  simp [has]

end CodeRanges
end ColorScheme
