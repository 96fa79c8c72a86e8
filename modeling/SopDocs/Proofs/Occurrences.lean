import Mathlib.Data.List.Basic
import SopDocs.Lint.Terms

/-!
# First and last occurrences

Of equal texts the first is kept where a list is to have each once, and of entries for one key the
last is found where later ones count. Both are said here in terms of what stands before and after.
-/

namespace SopDocs

/-- Looked for from the end, the last element that passes a test is found. -/
theorem find?_reverse_eq_some_iff {α : Type} {p : α → Bool} {l : List α} {a : α} :
    l.reverse.find? p = some a ↔ p a = true ∧
      ∃ before after, l = before ++ a :: after ∧ ∀ b ∈ after, p b = false := by
  rw [List.find?_eq_some_iff_append]
  apply and_congr_right
  intro _
  constructor
  · rintro ⟨after, before, hl, hafter⟩
    refine ⟨before.reverse, after.reverse, ?_, fun b hb => ?_⟩
    · rw [← List.reverse_reverse l, hl]
      simp
    · simpa using hafter b (List.mem_reverse.mp hb)
  · rintro ⟨before, after, rfl, hafter⟩
    refine ⟨after.reverse, before.reverse, by simp, fun b hb => ?_⟩
    simpa using hafter b (List.mem_reverse.mp hb)

namespace Lint

theorem mem_firstOccurrences_iff {l : List String} {a : String} :
    a ∈ firstOccurrences l ↔ a ∈ l := by
  induction l with
  | nil => rfl
  | cons b l ih =>
    by_cases hab : a = b <;> simp [firstOccurrences, hab, ih]

theorem nodup_firstOccurrences (l : List String) : (firstOccurrences l).Nodup := by
  induction l with
  | nil => exact List.nodup_nil
  | cons a l ih =>
    refine List.nodup_cons.mpr ⟨?_, ih.filter _⟩
    intro hmem
    simpa using (List.mem_filter.mp hmem).2

/-- Of items in the order of their keys each is kept at its first key, so that the first keys of
what is kept are in order too. -/
theorem pairwise_firstOccurrences {κ : Type} {before : κ → κ → Prop} {items : List (κ × String)}
    (h : items.Pairwise fun p q => before p.1 q.1) :
    (firstOccurrences (items.map (·.2))).Pairwise fun a b =>
      ∃ p, (p, a) ∈ items ∧ ∀ q, (q, b) ∈ items → before p q := by
  induction items with
  | nil => exact List.Pairwise.nil
  | cons item items ih =>
    obtain ⟨hitem, hitems⟩ := List.pairwise_cons.mp h
    -- an item other than the first is one of the rest
    have hrest : ∀ {b : String} {q : κ}, (b != item.2) = true → (q, b) ∈ item :: items →
        (q, b) ∈ items := by
      intro b q hb hq
      rcases List.mem_cons.mp hq with rfl | hq
      · simp at hb
      · exact hq
    rw [List.map_cons, firstOccurrences]
    refine List.pairwise_cons.mpr ⟨?_, ?_⟩
    · intro b hb
      refine ⟨item.1, List.mem_cons_self, fun q hq => ?_⟩
      exact hitem (q, b) (hrest (List.mem_filter.mp hb).2 hq)
    · apply List.Pairwise.imp_of_mem _ ((ih hitems).filter _)
      rintro a b - hb ⟨p, hp, hfirst⟩
      refine ⟨p, List.mem_cons_of_mem _ hp, fun q hq => ?_⟩
      exact hfirst q (hrest (List.mem_filter.mp hb).2 hq)

/-- Adds an item that is not there yet. -/
def addNew (known : List String) (a : String) : List String :=
  if a ∈ known then known else known ++ [a]

/-- Items that are added one by one are added where they are first. -/
theorem foldl_addNew (known l : List String) :
    l.foldl addNew known = known ++ (firstOccurrences l).filter (· ∉ known) := by
  induction l generalizing known with
  | nil => exact (List.append_nil known).symm
  | cons a l ih =>
    rw [List.foldl_cons, ih, firstOccurrences, List.filter_cons, List.filter_filter, addNew]
    by_cases ha : a ∈ known
    · have hfilter : ∀ b, (decide (b ∉ known) && b != a) = decide (b ∉ known) := by
        intro b
        by_cases hb : b = a
        · simp [hb, ha]
        · simp [hb]
      simp only [ha, hfilter, if_true, not_true_eq_false, decide_false, Bool.false_eq_true, if_false]
    · have hfilter : ∀ b, (decide (b ∉ known) && b != a) = decide (b ∉ known ++ [a]) := by
        intro b
        by_cases hb : b = a <;> simp [hb]
      simp only [ha, hfilter, if_false, not_false_eq_true, decide_true, if_true, List.append_assoc,
        List.singleton_append]

theorem pairwise_idxOf_firstOccurrences (l : List String) :
    (firstOccurrences l).Pairwise fun a b => l.idxOf a < l.idxOf b := by
  induction l with
  | nil => exact List.Pairwise.nil
  | cons a l ih =>
    have hlater : ∀ {b : String}, b ∈ (firstOccurrences l).filter (· != a) →
        (a :: l).idxOf b = l.idxOf b + 1 := by
      intro b hb
      have hne : b ≠ a := by simpa using (List.mem_filter.mp hb).2
      rw [List.idxOf_cons, beq_eq_false_iff_ne.mpr hne.symm, cond_false]
    rw [firstOccurrences]
    refine List.pairwise_cons.mpr ⟨?_, ?_⟩
    · intro b hb
      rw [List.idxOf_cons_self, hlater hb]
      exact Nat.succ_pos _
    · apply List.Pairwise.imp_of_mem _ (ih.filter _)
      intro b c hb hc hlt
      rw [hlater hb, hlater hc]
      exact Nat.succ_lt_succ hlt

end Lint

end SopDocs
