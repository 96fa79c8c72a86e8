/-!
Sets of characters given by ranges of code points.
-/

namespace SopDocs.Text

/-- Membership in a list of inclusive ranges. -/
def inRanges (ranges : List (Nat × Nat)) (c : Char) : Bool :=
  ranges.any fun r => r.1 ≤ c.toNat && c.toNat ≤ r.2

theorem inRanges_iff {ranges : List (Nat × Nat)} {c : Char} :
    inRanges ranges c = true ↔ ∃ r ∈ ranges, r.1 ≤ c.toNat ∧ c.toNat ≤ r.2 := by
  simp [inRanges]

end SopDocs.Text
