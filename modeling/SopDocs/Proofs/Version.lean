import Mathlib.Order.Compare
import Mathlib.Order.PiLex
import SopDocs.Version

/-!
# Versions are ordered by their components, continued by zeros

Comparing runs along two lists of different lengths. The order that it decides is one
of infinite sequences: the components of a version and then zeros without end, compared
at the first place where they differ. So it is a linear order of these sequences, and
its laws are those of the order of sequences.
-/

namespace SopDocs.Version

/-- Components continued by zeros, in the order of the first place that differs. -/
def padded (components : List Nat) : Lex (Nat → Nat) := toLex fun i => components.getD i 0

/-- The place of a version among all versions. -/
def rank (v : Version) : Lex (Nat → Nat) := padded v.components

theorem padded_zero : padded [0] = padded [] := by
  refine congrArg toLex (funext fun i => ?_)
  cases i <;> rfl

theorem padded_cons_congr (a : Nat) {as bs : List Nat} (h : padded as = padded bs) :
    padded (a :: as) = padded (a :: bs) := by
  refine congrArg toLex (funext fun i => ?_)
  cases i with
  | zero => rfl
  | succ i => exact congrFun (congrArg ofLex h) i

theorem padded_lt_of_head {a b : Nat} (h : a < b) (as bs : List Nat) :
    padded (a :: as) < padded (b :: bs) :=
  ⟨0, fun i hi => absurd hi (Nat.not_lt_zero i), h⟩

theorem padded_lt_of_tail (a : Nat) {as bs : List Nat} (h : padded as < padded bs) :
    padded (a :: as) < padded (a :: bs) := by
  obtain ⟨i, hsame, hlt⟩ := h
  refine ⟨i + 1, ?_, hlt⟩
  intro j hj
  cases j with
  | zero => rfl
  | succ j => exact hsame j (Nat.lt_of_succ_lt_succ hj)

/-- One step of comparing, with what it goes on to. -/
theorem compares_cons (a b : Nat) {as bs : List Nat} {o : Ordering}
    (h : o.Compares (padded as) (padded bs)) :
    ((Ord.compare a b).then o).Compares (padded (a :: as)) (padded (b :: bs)) := by
  rcases Nat.lt_trichotomy a b with hlt | rfl | hgt
  · rw [Nat.compare_eq_lt.mpr hlt]
    exact padded_lt_of_head hlt as bs
  · rw [Nat.compare_eq_eq.mpr rfl]
    cases o with
    | lt => exact padded_lt_of_tail a h
    | eq => exact padded_cons_congr a h
    | gt => exact padded_lt_of_tail a h
  · rw [Nat.compare_eq_gt.mpr hgt]
    exact padded_lt_of_head hgt bs as

theorem compareComponents_compares (as bs : List Nat) :
    (compareComponents as bs).Compares (padded as) (padded bs) := by
  fun_induction compareComponents as bs with
  | case1 => rfl
  | case2 a as ih =>
    -- the list that has ended goes on with zeros
    have h := compares_cons a 0 ih
    rwa [padded_zero] at h
  | case3 b bs ih =>
    have h := compares_cons 0 b ih
    rwa [padded_zero] at h
  | case4 a as b bs ih => exact compares_cons a b ih

/-- **Comparing two versions decides the order of their ranks.** -/
theorem compare_compares (v w : Version) : (v.compare w).Compares v.rank w.rank :=
  compareComponents_compares v.components w.components

end SopDocs.Version
