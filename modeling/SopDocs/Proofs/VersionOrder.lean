import Mathlib.Data.List.DropRight
import SopDocs.Version

/-!
# The order of versions ignores zeros at the end

Comparing continues the shorter of two lists by zeros, so zeros at the end of a list make no
difference. What is left of the lists without them is compared as lists are, and that order is
linear. So versions are preordered by what is left, and equal if the same is left of them.
-/

namespace SopDocs

/-- The laws of a comparison of any two, and of the equality that goes with it. -/
structure TotalPreorder {α : Type} (cmp : α → α → Ordering) (same : α → α → Bool) : Prop where
  refl : ∀ a, cmp a a = .eq
  swap : ∀ a b, cmp b a = (cmp a b).swap
  total : ∀ a b, (cmp a b).isLE = true ∨ (cmp b a).isLE = true
  trans : ∀ a b c, (cmp a b).isLE = true → (cmp b c).isLE = true → (cmp a c).isLE = true
  lt_trans : ∀ a b c, cmp a b = .lt → cmp b c = .lt → cmp a c = .lt
  antisymm : ∀ a b, (cmp a b).isLE = true → (cmp b a).isLE = true → same a b = true
  equivalence : Equivalence fun a b => same a b = true
  respects : ∀ a a' b b', same a a' = true → same b b' = true → cmp a b = cmp a' b'

/-- A comparison of images in a linear order. -/
theorem TotalPreorder.of_image {α β : Type} [Ord β] [Std.TransOrd β] [Std.LawfulEqOrd β]
    {cmp : α → α → Ordering} {same : α → α → Bool} {f : α → β}
    (hcmp : ∀ a b, cmp a b = compare (f a) (f b))
    (hsame : ∀ a b, same a b = true ↔ f a = f b) : TotalPreorder cmp same := by
  have hswap : ∀ x y : β, compare y x = (compare x y).swap := by
    intro x y
    exact Std.OrientedCmp.eq_swap
  constructor
  · intro a
    rw [hcmp]
    exact Std.ReflCmp.compare_self
  · intro a b
    rw [hcmp, hcmp, hswap]
  · intro a b
    rw [hcmp, hcmp, hswap (f a) (f b)]
    cases compare (f a) (f b) with
    | lt => exact Or.inl rfl
    | eq => exact Or.inl rfl
    | gt => exact Or.inr rfl
  · intro a b c hab hbc
    rw [hcmp] at hab hbc ⊢
    exact Std.TransCmp.isLE_trans hab hbc
  · intro a b c hab hbc
    rw [hcmp] at hab hbc ⊢
    exact Std.TransCmp.lt_trans hab hbc
  · intro a b hab hba
    rw [hcmp] at hab hba
    have heq : compare (f a) (f b) = .eq := Std.OrientedCmp.isLE_antisymm hab hba
    exact (hsame a b).mpr (Std.LawfulEqCmp.compare_eq_iff_eq.mp heq)
  · constructor
    · intro a
      exact (hsame a a).mpr rfl
    · intro a b hab
      exact (hsame b a).mpr ((hsame a b).mp hab).symm
    · intro a b c hab hbc
      exact (hsame a c).mpr (((hsame a b).mp hab).trans ((hsame b c).mp hbc))
  · intro a a' b b' ha hb
    rw [hcmp, hcmp, (hsame a a').mp ha, (hsame b b').mp hb]

namespace Version

/-! ### Zeros at the end -/

/-- A list of components without its last zeros. -/
def withoutZeros (components : List Nat) : List Nat := components.rdropWhile (· == 0)

/-- A component stays, unless it is zero and nothing after it stays. -/
theorem withoutZeros_cons (a : Nat) (as : List Nat) :
    withoutZeros (a :: as) =
      if a = 0 ∧ withoutZeros as = [] then [] else a :: withoutZeros as := by
  unfold withoutZeros List.rdropWhile
  rw [List.reverse_cons, List.dropWhile_append]
  cases hdrop : as.reverse.dropWhile (· == 0) with
  | nil =>
    by_cases ha : a = 0
    · simp [ha]
    · simp [ha]
  | cons b bs => simp

/-- One step of comparing, before the comparison of what follows. -/
theorem compare_withoutZeros_cons (a b : Nat) (as bs : List Nat) :
    Ord.compare (withoutZeros (a :: as)) (withoutZeros (b :: bs)) =
      (Ord.compare a b).then (Ord.compare (withoutZeros as) (withoutZeros bs)) := by
  rw [withoutZeros_cons, withoutZeros_cons]
  generalize withoutZeros as = s
  generalize withoutZeros bs = t
  by_cases ha : a = 0 ∧ s = []
  · obtain ⟨rfl, rfl⟩ := ha
    rw [if_pos ⟨rfl, rfl⟩]
    rcases Nat.eq_zero_or_pos b with rfl | hb
    · cases t <;> rfl
    · rw [if_neg (by omega), Nat.compare_eq_lt.mpr hb]
      rfl
  · rw [if_neg ha]
    by_cases hb : b = 0 ∧ t = []
    · obtain ⟨rfl, rfl⟩ := hb
      rw [if_pos ⟨rfl, rfl⟩]
      rcases Nat.eq_zero_or_pos a with rfl | ha0
      · cases s with
        | nil => exact absurd ⟨rfl, rfl⟩ ha
        | cons x xs => rfl
      · rw [Nat.compare_eq_gt.mpr ha0]
        rfl
    · rw [if_neg hb, List.compare_cons_cons]

/-- **Comparing components compares what is left without the last zeros**, as lists. -/
theorem compareComponents_eq (as bs : List Nat) :
    compareComponents as bs = Ord.compare (withoutZeros as) (withoutZeros bs) := by
  have hzero : withoutZeros [0] = withoutZeros [] := rfl
  fun_induction compareComponents as bs with
  | case1 => rfl
  | case2 a as ih =>
    -- the list that has ended is one of zeros
    rw [ih, ← compare_withoutZeros_cons, hzero]
  | case3 b bs ih => rw [ih, ← compare_withoutZeros_cons, hzero]
  | case4 a as b bs ih => rw [ih, compare_withoutZeros_cons]

/-- The components of a version up to the last one that is not zero. -/
def significant (v : Version) : List Nat := withoutZeros v.components

theorem compare_eq (v w : Version) : v.compare w = Ord.compare v.significant w.significant :=
  compareComponents_eq v.components w.components

theorem same_iff (v w : Version) : v.same w = true ↔ v.significant = w.significant := by
  unfold same
  rw [compare_eq, Ordering.isEq_iff_eq_eq]
  exact Std.LawfulEqCmp.compare_eq_iff_eq

/-- **Versions are totally preordered by their components without the last zeros.** -/
theorem compare_totalPreorder :
    TotalPreorder compare same ∧
    (∀ v w : Version, v.same w = true ↔ v.significant = w.significant) ∧
    ∀ v w : Version, v.compare w = Ord.compare v.significant w.significant :=
  ⟨.of_image compare_eq same_iff, same_iff, compare_eq⟩

end Version

end SopDocs
