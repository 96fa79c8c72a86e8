import Mathlib.Data.List.Basic
import Mathlib.Data.List.Induction
import Mathlib.Data.List.TakeWhile
import SopDocs.Text.Case
import SopDocs.Proofs.Text.Slice

/-!
# Lower case leaves white space alone

White space is its own lower case, nothing else becomes white space, and no letter is read in the
light of what stands beyond white space. So a text in lower case is trimmed, and cut into words,
where the text itself is.
-/

namespace SopDocs.Text

/-! ### Single characters -/

/-- White space has few code points, so what holds of each of them can be tried out. -/
theorem forall_blank {p : Char → Prop}
    (h : ∀ range ∈ blankRanges, ∀ n ∈ List.range' range.1 (range.2 + 1 - range.1), p (.ofNat n))
    {c : Char} (hc : isBlank c = true) : p c := by
  obtain ⟨range, hrange, hfirst, hlast⟩ := inRanges_iff.mp hc
  have hn : c.toNat ∈ List.range' range.1 (range.2 + 1 - range.1) :=
    List.mem_range'_1.mpr ⟨hfirst, by omega⟩
  rw [← Char.ofNat_toNat c]
  exact h range hrange _ hn

/-- White space has no case and takes no part in the rule about sigma. -/
theorem caseless_of_isBlank {c : Char} (h : isBlank c = true) :
    (lowerChar c = [c] ∧ upperChar c = [c]) ∧
      inRanges caseIgnorableRanges c = false ∧ inRanges casedRanges c = false :=
  forall_blank (p := fun c => (lowerChar c = [c] ∧ upperChar c = [c]) ∧
    inRanges caseIgnorableRanges c = false ∧ inRanges casedRanges c = false) (by decide +kernel) h

theorem lowerChar_of_isBlank {c : Char} (h : isBlank c = true) : lowerChar c = [c] :=
  (caseless_of_isBlank h).1.1

theorem upperChar_of_isBlank {c : Char} (h : isBlank c = true) : upperChar c = [c] :=
  (caseless_of_isBlank h).1.2

theorem startsCased_of_isBlank {c : Char} (h : isBlank c = true) (r : List Char) :
    startsCased (c :: r) = false := by
  obtain ⟨-, hignored, hcased⟩ := caseless_of_isBlank h
  rw [startsCased, List.dropWhile_cons_of_neg (by rw [hignored]; exact Bool.false_ne_true)]
  exact hcased

/-- A number that is not a code point becomes the null character. -/
theorem toNat_ofNat_or (n : Nat) : (Char.ofNat n).toNat = n ∨ (Char.ofNat n).toNat = 0 := by
  by_cases h : n.isValidChar
  · exact .inl (by rw [Char.ofNat, dif_pos h]; rfl)
  · exact .inr (by rw [Char.ofNat, dif_neg h]; rfl)

/-- No letter of a run becomes white space if the run is moved past all of it. -/
theorem isBlank_ofNat_image {run : CaseRun}
    (hapart : ∀ range ∈ blankRanges,
      (range.2 : Int) < run.first + run.shift ∨ run.last + run.shift < (range.1 : Int))
    {n image : Nat} (himage : run.image? n = some image) : isBlank (.ofNat image) = false := by
  have hpos : ∀ range ∈ blankRanges, 0 < range.1 := by decide
  unfold CaseRun.image? at himage
  split at himage
  · next hn =>
    obtain rfl := Option.some.inj himage
    simp only [Bool.and_eq_true, decide_eq_true_eq] at hn
    rw [Bool.eq_false_iff, Ne, isBlank, inRanges_iff]
    rintro ⟨range, hrange, hfirst, hlast⟩
    have := hapart range hrange
    have := hpos range hrange
    have := toNat_ofNat_or ((n : Int) + run.shift).toNat
    omega
  · cases himage

/-- Mappings that make no letter white space and leave none out. -/
structure KeepsLetters (special : List (Nat × List Nat)) (runs : List CaseRun) : Prop where
  special_ne_nil : ∀ entry ∈ special, entry.2 ≠ []
  special_letters : ∀ entry ∈ special, ∀ n ∈ entry.2, isBlank (.ofNat n) = false
  runs_apart : ∀ run ∈ runs, ∀ range ∈ blankRanges,
    (range.2 : Int) < run.first + run.shift ∨ run.last + run.shift < (range.1 : Int)

namespace KeepsLetters

variable {special : List (Nat × List Nat)} {runs : List CaseRun} (h : KeepsLetters special runs)

include h

theorem isBlank_of_mem_mapCase {c d : Char} (hc : isBlank c = false)
    (hd : d ∈ mapCase special runs c) : isBlank d = false := by
  unfold mapCase at hd
  split at hd
  · next entry hentry =>
    obtain ⟨n, hn, rfl⟩ := List.mem_map.mp hd
    exact h.special_letters _ (List.mem_of_find?_eq_some hentry) n hn
  split at hd
  · next image himage =>
    obtain ⟨run, hrun, hrunImage⟩ := List.exists_of_findSome?_eq_some himage
    obtain rfl := List.mem_singleton.mp hd
    exact isBlank_ofNat_image (h.runs_apart run hrun) hrunImage
  · obtain rfl := List.mem_singleton.mp hd
    exact hc

theorem mapCase_ne_nil (c : Char) : mapCase special runs c ≠ [] := by
  unfold mapCase
  split
  · next entry hentry =>
    rw [Ne, List.map_eq_nil_iff]
    exact h.special_ne_nil _ (List.mem_of_find?_eq_some hentry)
  split <;> exact List.cons_ne_nil _ _

end KeepsLetters

theorem keepsLetters_tables :
    KeepsLetters lowerSpecial lowerRuns ∧ KeepsLetters upperSpecial upperRuns := by
  refine ⟨⟨?_, ?_, ?_⟩, ⟨?_, ?_, ?_⟩⟩ <;> decide +kernel

theorem isBlank_ascii : ∀ n < 128, isBlank (.ofNat n) = false →
    isBlank (Char.ofNat n).toLower = false ∧ isBlank (Char.ofNat n).toUpper = false := by
  decide +kernel

theorem isBlank_of_mem_lowerChar {c d : Char} (h : isBlank c = false) (hd : d ∈ lowerChar c) :
    isBlank d = false := by
  unfold lowerChar at hd
  split at hd
  · next hc =>
    obtain rfl := List.mem_singleton.mp hd
    have hlower := isBlank_ascii c.toNat hc
    rw [Char.ofNat_toNat] at hlower
    exact (hlower h).1
  · exact keepsLetters_tables.1.isBlank_of_mem_mapCase h hd

theorem lowerChar_ne_nil (c : Char) : lowerChar c ≠ [] := by
  unfold lowerChar
  split
  · exact List.cons_ne_nil _ _
  · exact keepsLetters_tables.1.mapCase_ne_nil c

theorem isBlank_of_mem_upperChar {c d : Char} (h : isBlank c = false) (hd : d ∈ upperChar c) :
    isBlank d = false := by
  unfold upperChar at hd
  split at hd
  · next hc =>
    obtain rfl := List.mem_singleton.mp hd
    have hupper := isBlank_ascii c.toNat hc
    rw [Char.ofNat_toNat] at hupper
    exact (hupper h).2
  · exact keepsLetters_tables.2.isBlank_of_mem_mapCase h hd

theorem upperChar_ne_nil (c : Char) : upperChar c ≠ [] := by
  unfold upperChar
  split
  · exact List.cons_ne_nil _ _
  · exact keepsLetters_tables.2.mapCase_ne_nil c

/-! ### Texts -/

/-- A text ends in white space with its first letter in upper case exactly if it did before. -/
theorem isBlank_getLast?_capitalize {s : List Char} :
    (∀ d, (capitalize s).getLast? = some d → isBlank d = false) ↔
      ∀ c, s.getLast? = some c → isBlank c = false := by
  -- the last character becomes the end of the text, and white space becomes itself
  have hend : ∀ (start : List Char) {image : List Char} {c : Char}, image ≠ [] →
      (isBlank c = true → image = [c]) →
      (∀ d ∈ image, isBlank c = false → isBlank d = false) →
      ((∀ d, (start ++ image).getLast? = some d → isBlank d = false) ↔ isBlank c = false) := by
    intro start image c hne hblank hother
    rw [List.getLast?_append_of_ne_nil _ hne]
    constructor
    · intro h
      cases hc : isBlank c with
      | false => rfl
      | true =>
        rw [hblank hc] at h
        rw [← hc]
        exact h c rfl
    · exact fun hc d hd => hother d (List.mem_of_getLast? hd) hc
  cases s using List.reverseRecOn with
  | nil => rfl
  | append_singleton s c =>
    have hlast : (∀ d, (s ++ [c]).getLast? = some d → isBlank d = false) ↔ isBlank c = false := by
      rw [List.getLast?_concat]
      simp
    rw [hlast]
    cases s with
    | nil =>
      rw [List.nil_append, capitalize, List.flatMap_nil, List.append_nil]
      exact hend [] (upperChar_ne_nil c) upperChar_of_isBlank
        fun d hd hc => isBlank_of_mem_upperChar hc hd
    | cons a s =>
      rw [List.cons_append, capitalize, List.flatMap_append, List.flatMap_singleton,
        ← List.append_assoc]
      exact hend _ (lowerChar_ne_nil c) lowerChar_of_isBlank
        fun d hd hc => isBlank_of_mem_lowerChar hc hd

/-- Lower case of a character between a reversed left context and what follows. -/
def lowerAt (before : List Char) (c : Char) (r : List Char) : List Char :=
  if c = 'Σ' then (if startsCased before && !startsCased r then ['ς'] else ['σ']) else lowerChar c

theorem lowerAfter_cons (before : List Char) (c : Char) (r : List Char) :
    lowerAfter before (c :: r) = lowerAt before c r ++ lowerAfter (c :: before) r := rfl

theorem lowerAt_of_isBlank {c : Char} (h : isBlank c = true) (before r : List Char) :
    lowerAt before c r = [c] := by
  have hc : c ≠ 'Σ' := by
    rintro rfl
    exact absurd h (by decide)
  rw [lowerAt, if_neg hc, lowerChar_of_isBlank h]

theorem isBlank_of_mem_lowerAt {before r : List Char} {c d : Char} (h : isBlank c = false)
    (hd : d ∈ lowerAt before c r) : isBlank d = false := by
  unfold lowerAt at hd
  split at hd
  · split at hd
    · rw [List.mem_singleton.mp hd]
      rfl
    · rw [List.mem_singleton.mp hd]
      rfl
  · exact isBlank_of_mem_lowerChar h hd

theorem lowerAt_ne_nil (before : List Char) (c : Char) (r : List Char) :
    lowerAt before c r ≠ [] := by
  unfold lowerAt
  split
  · split <;> exact List.cons_ne_nil _ _
  · exact lowerChar_ne_nil c

theorem lower_ne_nil {s : List Char} (h : s ≠ []) : lower s ≠ [] := by
  obtain ⟨c, r, rfl⟩ := List.exists_cons_of_ne_nil h
  exact List.append_ne_nil_of_left_ne_nil (lowerAt_ne_nil [] c r) _

/-- The sigma rule does not look beyond white space. -/
theorem startsCased_append_blank {c : Char} (h : isBlank c = true) (s r : List Char) :
    startsCased (s ++ c :: r) = startsCased s := by
  induction s with
  | nil => exact startsCased_of_isBlank h r
  | cons a s ih =>
    rw [List.cons_append]
    unfold startsCased at ih ⊢
    by_cases ha : inRanges caseIgnorableRanges a = true
    · rw [List.dropWhile_cons_of_pos ha, List.dropWhile_cons_of_pos ha]
      exact ih
    · rw [List.dropWhile_cons_of_neg ha, List.dropWhile_cons_of_neg ha]

theorem lowerAfter_context {c : Char} (h : isBlank c = true) (before far s : List Char) :
    lowerAfter (before ++ c :: far) s = lowerAfter before s := by
  induction s generalizing before with
  | nil => rfl
  | cons a s ih =>
    have hat : lowerAt (before ++ c :: far) a s = lowerAt before a s := by
      simp only [lowerAt, startsCased_append_blank h]
    rw [lowerAfter_cons, lowerAfter_cons, hat, ← List.cons_append, ih]

theorem lowerAfter_append_blank {c : Char} (h : isBlank c = true) (before s r : List Char) :
    lowerAfter before (s ++ c :: r) = lowerAfter before s ++ c :: lower r := by
  induction s generalizing before with
  | nil =>
    rw [List.nil_append, lowerAfter_cons, lowerAt_of_isBlank h,
      ← List.nil_append (c :: before), lowerAfter_context h]
    rfl
  | cons a s ih =>
    have hat : lowerAt before a (s ++ c :: r) = lowerAt before a s := by
      simp only [lowerAt, startsCased_append_blank h]
    rw [List.cons_append, lowerAfter_cons, lowerAfter_cons, hat, ih, List.append_assoc]

/-- What white space parts has its lower case by itself. -/
theorem lower_append_blank {c : Char} (h : isBlank c = true) (s r : List Char) :
    lower (s ++ c :: r) = lower s ++ c :: lower r :=
  lowerAfter_append_blank h [] s r

theorem isBlank_of_mem_lower {s : List Char} (h : ∀ c ∈ s, isBlank c = false) {d : Char}
    (hd : d ∈ lower s) : isBlank d = false := by
  unfold lower at hd
  generalize [] = before at hd
  induction s generalizing before with
  | nil => cases hd
  | cons c s ih =>
    obtain ⟨hc, hs⟩ := List.forall_mem_cons.mp h
    rcases List.mem_append.mp hd with hd | hd
    · exact isBlank_of_mem_lowerAt hc hd
    · exact ih hs _ hd

/-- A text that starts with a letter does so in lower case. -/
theorem trimStart_lower_cons {c : Char} (h : isBlank c = false) (r : List Char) :
    trimStart (lower (c :: r)) = lower (c :: r) := by
  refine dropWhile_eq_self_iff.mpr fun d hd => ?_
  obtain ⟨a, as, hat⟩ := List.exists_cons_of_ne_nil (lowerAt_ne_nil [] c r)
  rw [lower, lowerAfter_cons, hat, List.cons_append, List.head?_cons] at hd
  obtain rfl := Option.some.inj hd
  exact isBlank_of_mem_lowerAt h (hat ▸ List.mem_cons_self)

theorem trimStart_lower (s : List Char) : trimStart (lower s) = lower (trimStart s) := by
  induction s with
  | nil => rfl
  | cons c r ih =>
    cases hc : isBlank c with
    | true =>
      have hlower : lower (c :: r) = c :: lower r := lower_append_blank hc [] r
      rw [hlower, trimStart, trimStart, List.dropWhile_cons_of_pos hc,
        List.dropWhile_cons_of_pos hc]
      exact ih
    | false =>
      have hkept : trimStart (c :: r) = c :: r :=
        List.dropWhile_cons_of_neg (by rw [hc]; exact Bool.false_ne_true)
      rw [hkept, trimStart_lower_cons hc]

theorem exists_lowerAfter_concat (before s : List Char) (c : Char) :
    ∃ start context, lowerAfter before (s ++ [c]) = start ++ lowerAt context c [] := by
  induction s generalizing before with
  | nil => exact ⟨[], before, by rw [List.nil_append, lowerAfter_cons, lowerAfter]; simp⟩
  | cons a s ih =>
    obtain ⟨start, context, hs⟩ := ih (a :: before)
    exact ⟨lowerAt before a (s ++ [c]) ++ start, context, by
      rw [List.cons_append, lowerAfter_cons, hs, List.append_assoc]⟩

theorem trimEnd_concat_of_isBlank {c : Char} (h : isBlank c = true) (s : List Char) :
    trimEnd (s ++ [c]) = trimEnd s := by
  unfold trimEnd
  rw [List.reverse_append, List.reverse_singleton, List.singleton_append,
    List.dropWhile_cons_of_pos h]

theorem trimEnd_lower (s : List Char) : trimEnd (lower s) = lower (trimEnd s) := by
  induction s using List.reverseRecOn with
  | nil => rfl
  | append_singleton s c ih =>
    cases hc : isBlank c with
    | true =>
      have hlower : lower (s ++ [c]) = lower s ++ [c] := lower_append_blank hc s []
      rw [hlower, trimEnd_concat_of_isBlank hc, trimEnd_concat_of_isBlank hc, ih]
    | false =>
      have hkept : trimEnd (s ++ [c]) = s ++ [c] := by
        refine trimEnd_eq_self_iff.mpr fun d hd => ?_
        rw [List.getLast?_concat] at hd
        rw [← Option.some.inj hd, hc]
      rw [hkept]
      obtain ⟨start, context, hs⟩ := exists_lowerAfter_concat [] s c
      refine trimEnd_eq_self_iff.mpr fun d hd => ?_
      rw [lower, hs, List.getLast?_append_of_ne_nil _ (lowerAt_ne_nil context c [])] at hd
      exact isBlank_of_mem_lowerAt hc (List.mem_of_getLast? hd)

theorem trim_lower (s : List Char) : trim (lower s) = lower (trim s) := by
  rw [trim, trimStart_lower, trimEnd_lower, trim]

/-- What stands before the first white space. -/
theorem takeWhile_lower (s : List Char) :
    (lower s).takeWhile (! isBlank ·) = lower (s.takeWhile (! isBlank ·)) := by
  have hword : ∀ c ∈ s.takeWhile (! isBlank ·), isBlank c = false := fun c hc => by
    simpa using List.mem_takeWhile_imp hc
  have hkept : (lower (s.takeWhile (! isBlank ·))).takeWhile (! isBlank ·) =
      lower (s.takeWhile (! isBlank ·)) :=
    List.takeWhile_eq_self_iff.mpr fun d hd => by simp [isBlank_of_mem_lower hword hd]
  have hparts := s.takeWhile_append_dropWhile (p := (! isBlank ·))
  cases hrest : s.dropWhile (! isBlank ·) with
  | nil =>
    rw [hrest, List.append_nil] at hparts
    rw [hparts] at hkept ⊢
    exact hkept
  | cons c r =>
    have hc : isBlank c = true := by
      have hnot := List.head_dropWhile_not (! isBlank ·) (l := s) (by rw [hrest]; simp)
      simpa [hrest] using hnot
    have hlower : lower s = lower (s.takeWhile (! isBlank ·)) ++ c :: lower r := by
      rw [← lower_append_blank hc, ← hrest, hparts]
    rw [hlower, List.takeWhile_append, hkept, if_pos rfl, List.takeWhile_cons_of_neg (by simp [hc]),
      List.append_nil]

theorem firstWord?_lower (s : List Char) : firstWord? (lower s) = (firstWord? s).map lower := by
  unfold firstWord?
  rw [trimStart_lower]
  cases trimStart s with
  | nil => rfl
  | cons c r =>
    obtain ⟨d, t, hd⟩ := List.exists_cons_of_ne_nil (lower_ne_nil (List.cons_ne_nil c r))
    have hword := takeWhile_lower (c :: r)
    rw [hd] at hword ⊢
    exact congrArg some hword

theorem ne_nil_of_firstWord? {s word : List Char} (h : firstWord? s = some word) : word ≠ [] := by
  unfold firstWord? at h
  split at h
  · cases h
  · next c r hstart =>
    have hc : isBlank c = false := by
      have hhead := List.head?_dropWhile_not isBlank s
      rw [trimStart] at hstart
      rw [hstart] at hhead
      simpa using hhead
    obtain rfl := Option.some.inj h
    rw [List.takeWhile_cons_of_pos (by simp [hc])]
    exact List.cons_ne_nil _ _

end SopDocs.Text
