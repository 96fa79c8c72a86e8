import Mathlib.Data.List.Forall2
import SopDocs.Proofs.Text.Case

/-!
# Texts that differ in case only

Lower case is final: no character that it gives has a lower case of its own. What the tables map to
lies outside of what they map, so this is a fact about pairs of runs and not about single letters.
Of ASCII letters, two texts differ in case only if they do so letter by letter.
-/

namespace SopDocs.Text

/-! ### Lower case of lower case -/

/-- Where a run moves a code point. -/
def CaseRun.moved (run : CaseRun) (n : Nat) : Nat := ((n : Int) + run.shift).toNat

/-- Whether no letter of the second run is one that the first run gives: these lie before the second
run or behind it, or they are every second letter and the second run takes the others. -/
def CaseRun.misses (run other : CaseRun) : Bool :=
  Nat.blt 0 other.first && Nat.blt 0 (run.moved run.first) &&
    (Nat.blt (run.moved run.last) other.first || Nat.blt other.last (run.moved run.first) ||
      (other.step == 2 && (run.step == 2 || run.first == run.last) &&
        (run.moved run.first + other.first) % 2 == 1))

theorem CaseRun.image?_eq_none_of_misses {run other : CaseRun} (h : run.misses other = true)
    {n image : Nat} (himage : run.image? n = some image) : other.image? image = none := by
  unfold CaseRun.misses CaseRun.moved at h
  simp only [Bool.and_eq_true, Bool.or_eq_true, Nat.blt_eq, beq_iff_eq] at h
  obtain ⟨⟨hpositive, hmoved⟩, hapart⟩ := h
  unfold CaseRun.image? at himage ⊢
  split at himage
  · next hn =>
    obtain rfl := Option.some.inj himage
    simp only [Bool.and_eq_true, decide_eq_true_eq, beq_iff_eq] at hn
    obtain ⟨⟨hfirst, hlast⟩, hstep⟩ := hn
    apply if_neg
    simp only [Bool.and_eq_true, decide_eq_true_eq, beq_iff_eq]
    rintro ⟨⟨hother, hotherLast⟩, hotherStep⟩
    rcases hapart with (hbefore | hbehind) | ⟨⟨htwo, htakes⟩, hodd⟩
    · omega
    · omega
    · rw [htwo] at hotherStep
      rcases htakes with hrun | hsingle
      · rw [hrun] at hstep
        omega
      · omega
  · cases himage

theorem misses_lowerRuns :
    (lowerRuns.all fun run => lowerRuns.all fun other => run.misses other) = true := by
  decide +kernel

theorem misses_lowerSpecial : (lowerRuns.all fun run =>
    lowerSpecial.all fun entry => run.misses ⟨entry.1, entry.1, 1, 0⟩) = true := by
  decide +kernel

theorem lowerChar_ascii : ∀ n < 128,
    lowerChar (Char.ofNat n).toLower = [(Char.ofNat n).toLower] ∧
      ((⟨0x41, 0x5A, 1, 32⟩ : CaseRun).image? n = none → lowerChar (.ofNat n) = [.ofNat n]) := by
  decide +kernel

/-- A character that no mapping is about is its own lower case. -/
theorem lowerChar_of_unmapped {n : Nat} (hspecial : lowerSpecial.find? (·.1 == n) = none)
    (hruns : ∀ run ∈ lowerRuns, run.image? n = none) : lowerChar (.ofNat n) = [.ofNat n] := by
  rcases toNat_ofNat_or n with hn | hzero
  · by_cases hascii : n < 128
    · exact (lowerChar_ascii n hascii).2 (hruns _ List.mem_cons_self)
    · have hnone : lowerRuns.findSome? (·.image? n) = none :=
        List.findSome?_eq_none_iff.mpr hruns
      rw [lowerChar, hn, if_neg hascii, mapCase, hn, hspecial, hnone]
  · have hnull : Char.ofNat n = Char.ofNat 0 := Char.ext (UInt32.toNat.inj hzero)
    rw [hnull]
    decide

theorem lowerChar_special : ∀ entry ∈ lowerSpecial, ∀ n ∈ entry.2,
    lowerChar (.ofNat n) = [.ofNat n] := by
  decide +kernel

theorem lowerChar_of_mem_lowerChar {c d : Char} (h : d ∈ lowerChar c) : lowerChar d = [d] := by
  unfold lowerChar at h
  split at h
  · next hascii =>
    obtain rfl := List.mem_singleton.mp h
    have hlower := (lowerChar_ascii c.toNat hascii).1
    rwa [Char.ofNat_toNat] at hlower
  unfold mapCase at h
  split at h
  · next hentry =>
    obtain ⟨n, hn, rfl⟩ := List.mem_map.mp h
    exact lowerChar_special _ (List.mem_of_find?_eq_some hentry) n hn
  · next hspecial =>
    split at h
    · next image himage =>
      obtain ⟨run, hrun, hrunImage⟩ := List.exists_of_findSome?_eq_some himage
      obtain rfl := List.mem_singleton.mp h
      apply lowerChar_of_unmapped
      · apply List.find?_eq_none.mpr
        intro entry hentry hkey
        have hmisses := List.all_eq_true.mp (List.all_eq_true.mp misses_lowerSpecial run hrun)
        have hnone := CaseRun.image?_eq_none_of_misses (hmisses entry hentry) hrunImage
        simp [CaseRun.image?, beq_iff_eq.mp hkey] at hnone
      · intro other hother
        have hmisses := List.all_eq_true.mp (List.all_eq_true.mp misses_lowerRuns run hrun)
        exact CaseRun.image?_eq_none_of_misses (hmisses other hother) hrunImage
    · next hruns =>
      obtain rfl := List.mem_singleton.mp h
      rw [← Char.ofNat_toNat d]
      exact lowerChar_of_unmapped hspecial (List.findSome?_eq_none_iff.mp hruns)

theorem lowerChar_of_mem_lowerAfter {before s : List Char} {d : Char}
    (h : d ∈ lowerAfter before s) : lowerChar d = [d] := by
  induction s generalizing before with
  | nil => cases h
  | cons c s ih =>
    rw [lowerAfter_cons] at h
    rcases List.mem_append.mp h with h | h
    · unfold lowerAt at h
      split at h
      · -- either form of a small sigma is its own lower case
        split at h <;> (obtain rfl := List.mem_singleton.mp h; decide +kernel)
      · exact lowerChar_of_mem_lowerChar h
    · exact ih h

/-- A text of characters that are their own lower case is its own. -/
theorem lower_eq_self {s : List Char} (h : ∀ c ∈ s, lowerChar c = [c]) : lower s = s := by
  have hsigma : lowerChar 'Σ' ≠ ['Σ'] := by decide +kernel
  unfold lower
  generalize [] = before
  induction s generalizing before with
  | nil => rfl
  | cons c s ih =>
    obtain ⟨hc, hs⟩ := List.forall_mem_cons.mp h
    have hne : c ≠ 'Σ' := by
      rintro rfl
      exact hsigma hc
    rw [lowerAfter_cons, lowerAt, if_neg hne, hc, ih hs, List.singleton_append]

/-- A text in lower case is its own lower case. -/
theorem lowered_lowered (s : String) : lowered (lowered s) = lowered s := by
  have htwice : lower (lower s.toList) = lower s.toList :=
    lower_eq_self fun _ => lowerChar_of_mem_lowerAfter
  unfold lowered
  rw [String.toList_ofList, htwice]

/-! ### ASCII letters -/

/-- One character, or an ASCII letter and its other case. -/
def SameLetter (c d : Char) : Prop :=
  c = d ∨ ∃ i < 26, c.toNat = 'A'.toNat + i ∧ d.toNat = 'a'.toNat + i ∨
    c.toNat = 'a'.toNat + i ∧ d.toNat = 'A'.toNat + i

theorem toNat_toLower (c : Char) : c.toLower.toNat =
    if 'A'.toNat ≤ c.toNat ∧ c.toNat ≤ 'Z'.toNat then c.toNat + 32 else c.toNat := by
  have hupper : c.val ≥ 'A'.val ∧ c.val ≤ 'Z'.val ↔
      'A'.toNat ≤ c.toNat ∧ c.toNat ≤ 'Z'.toNat := by
    simp only [ge_iff_le, UInt32.le_iff_toNat_le]
    rfl
  unfold Char.toLower
  simp only [hupper]
  split
  · next h =>
    have hlast : c.val.toNat ≤ 90 := h.2
    show (c.val + 32).toNat = c.val.toNat + 32
    rw [UInt32.toNat_add]
    exact Nat.mod_eq_of_lt (by show c.val.toNat + 32 < 2 ^ 32; omega)
  · rfl

theorem toLower_eq_toLower_iff {c d : Char} : c.toLower = d.toLower ↔ SameLetter c d := by
  have hnumbers : ∀ {a b : Char}, a = b ↔ a.toNat = b.toNat := by
    intro a b
    exact ⟨congrArg _, fun h => Char.ext (UInt32.toNat.inj h)⟩
  have hletters : 'A'.toNat = 65 ∧ 'Z'.toNat = 90 ∧ 'a'.toNat = 97 := by decide
  obtain ⟨hA, hZ, ha⟩ := hletters
  unfold SameLetter
  rw [hnumbers, hnumbers, toNat_toLower, toNat_toLower, hA, hZ, ha]
  constructor
  · intro h
    split at h <;> split at h
    · exact Or.inl (by omega)
    · exact Or.inr ⟨c.toNat - 65, by omega, Or.inl (by omega)⟩
    · exact Or.inr ⟨d.toNat - 65, by omega, Or.inr (by omega)⟩
    · exact Or.inl h
  · rintro (h | ⟨i, hi, h | h⟩)
    · rw [h]
    · split <;> split <;> omega
    · split <;> split <;> omega

theorem eqIgnoringAsciiCase_iff {s t : String} :
    eqIgnoringAsciiCase s t = true ↔ List.Forall₂ SameLetter s.toList t.toList := by
  have hsame : (fun c d : Char => c.toLower = d.toLower) = SameLetter := by
    funext c d
    exact propext toLower_eq_toLower_iff
  unfold eqIgnoringAsciiCase
  rw [beq_iff_eq, ← List.forall₂_eq_eq_eq, List.forall₂_map_left_iff, List.forall₂_map_right_iff,
    hsame]

end SopDocs.Text
