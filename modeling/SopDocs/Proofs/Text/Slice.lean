import Mathlib.Data.List.TakeWhile
import SopDocs.Text.Blank
import SopDocs.Text.Slice

/-!
# Slices give back the parts of a text

A text is cut at byte offsets. Where the offsets are those of a part, the slice is
that part, whatever its characters are and what stands around it.
-/

namespace SopDocs.Text

/-- The bytes of a text in UTF-8. -/
def byteLength : List Char → Nat
  | [] => 0
  | c :: r => c.utf8Size + byteLength r

@[simp] theorem byteLength_nil : byteLength [] = 0 := rfl

@[simp] theorem byteLength_cons (c : Char) (r : List Char) :
    byteLength (c :: r) = c.utf8Size + byteLength r := rfl

@[simp] theorem byteLength_append (a b : List Char) :
    byteLength (a ++ b) = byteLength a + byteLength b := by
  induction a with
  | nil => simp
  | cons c a ih => simp [ih, Nat.add_assoc]

theorem byteDrop?_cons (c : Char) (r : List Char) (n : Nat) :
    byteDrop? (c :: r) (c.utf8Size + n) = byteDrop? r n := by
  have hpos := c.utf8Size_pos
  obtain ⟨m, hm⟩ : ∃ m, c.utf8Size + n = m + 1 := ⟨c.utf8Size + n - 1, by omega⟩
  rw [hm, byteDrop?, if_pos (by omega)]
  congr 1
  omega

theorem byteDrop?_append (a b : List Char) : byteDrop? (a ++ b) (byteLength a) = some b := by
  induction a with
  | nil => cases b <;> rfl
  | cons c a ih =>
    rw [List.cons_append, byteLength_cons, byteDrop?_cons]
    exact ih

theorem byteTake?_cons (c : Char) (r : List Char) (n : Nat) :
    byteTake? (c :: r) (c.utf8Size + n) = (byteTake? r n).map (c :: ·) := by
  have hpos := c.utf8Size_pos
  obtain ⟨m, hm⟩ : ∃ m, c.utf8Size + n = m + 1 := ⟨c.utf8Size + n - 1, by omega⟩
  rw [hm, byteTake?, if_pos (by omega)]
  congr 2
  omega

theorem byteTake?_append (a b : List Char) : byteTake? (a ++ b) (byteLength a) = some a := by
  induction a with
  | nil => cases b <;> rfl
  | cons c a ih =>
    rw [List.cons_append, byteLength_cons, byteTake?_cons, ih]
    rfl

/-- The slice between the offsets of a part is the part. -/
theorem byteSlice?_append (before part after : List Char) :
    byteSlice? (before ++ (part ++ after)) (byteLength before)
      (byteLength before + byteLength part) = some part := by
  rw [byteSlice?, if_pos (by omega), byteDrop?_append, Nat.add_sub_cancel_left]
  exact byteTake?_append part after

/-! ### Text without space around it -/

theorem dropWhile_eq_self_iff {α : Type} {p : α → Bool} {s : List α} :
    s.dropWhile p = s ↔ ∀ a, s.head? = some a → p a = false := by
  cases s with
  | nil => simp
  | cons a r =>
    cases ha : p a with
    | false => simp [ha]
    | true =>
      have hshort : (r.dropWhile p).length ≤ r.length := (List.dropWhile_sublist p).length_le
      rw [List.dropWhile_cons_of_pos ha]
      constructor
      · intro h
        rw [h, List.length_cons] at hshort
        omega
      · intro h
        rw [h a rfl] at ha
        cases ha

/-- What passes a test from the start on goes up to the first element that fails it. -/
theorem eq_takeWhile_iff {α : Type} {p : α → Bool} {s run : List α} :
    run = s.takeWhile p ↔ ∃ rest, s = run ++ rest ∧ (∀ a ∈ run, p a = true) ∧
      ∀ a, rest.head? = some a → p a = false := by
  constructor
  · rintro rfl
    refine ⟨s.dropWhile p, List.takeWhile_append_dropWhile.symm, ?_, ?_⟩
    · exact fun a ha => List.all_eq_true.mp List.all_takeWhile a ha
    · intro a ha
      have hstop := List.head?_dropWhile_not p s
      rw [ha] at hstop
      simpa using hstop
  · rintro ⟨rest, rfl, hrun, hrest⟩
    have hstop : rest.takeWhile p = [] := by
      cases rest with
      | nil => rfl
      | cons a rest => exact List.takeWhile_cons_of_neg (by simp [hrest a rfl])
    rw [List.takeWhile_append_of_pos hrun, hstop, List.append_nil]

theorem trimEnd_eq_self_iff {s : List Char} :
    trimEnd s = s ↔ ∀ c, s.getLast? = some c → isBlank c = false := by
  have hreverse : trimEnd s = s ↔ s.reverse.dropWhile isBlank = s.reverse := by
    unfold trimEnd
    constructor
    · intro h
      rw [← List.reverse_reverse (s.reverse.dropWhile isBlank), h]
    · intro h
      rw [h, List.reverse_reverse]
  rw [hreverse, dropWhile_eq_self_iff, List.head?_reverse]

/-- A text keeps all of itself when trimmed if neither end is white space, and only then. -/
theorem trim_eq_self_iff {s : List Char} :
    trim s = s ↔ (∀ c, s.head? = some c → isBlank c = false) ∧
      ∀ c, s.getLast? = some c → isBlank c = false := by
  have hstart : trim s = s → trimStart s = s := by
    intro h
    have hend : (trimEnd (trimStart s)).length ≤ (trimStart s).length := by
      unfold trimEnd
      rw [List.length_reverse]
      exact Nat.le_trans (List.dropWhile_sublist _).length_le (by simp)
    have hsuffix : trimStart s <:+ s := List.dropWhile_suffix isBlank
    rw [show trimEnd (trimStart s) = s from h] at hend
    exact hsuffix.eq_of_length_le hend
  rw [← dropWhile_eq_self_iff, ← trimEnd_eq_self_iff]
  constructor
  · intro h
    have hs := hstart h
    rw [trim, hs] at h
    exact ⟨hs, h⟩
  · rintro ⟨hs, he⟩
    rw [trim, show trimStart s = s from hs, he]

/-- What is left when a text is trimmed has no white space at its ends. -/
theorem trim_trim (s : List Char) : trim (trim s) = trim s := by
  refine trim_eq_self_iff.mpr ⟨fun c hc => ?_, fun c hc => ?_⟩
  · obtain ⟨rest, hrest⟩ : trim s <+: trimStart s := by
      have hsuffix : (trimStart s).reverse.dropWhile isBlank <:+ (trimStart s).reverse :=
        List.dropWhile_suffix isBlank
      rw [trim, trimEnd, ← List.reverse_suffix, List.reverse_reverse]
      exact hsuffix
    have hstart := List.head?_dropWhile_not isBlank s
    rw [← trimStart, ← hrest, List.head?_append, hc] at hstart
    simpa using hstart
  · have hstop := List.head?_dropWhile_not isBlank (trimStart s).reverse
    rw [trim, trimEnd, List.getLast?_reverse] at hc
    rw [hc] at hstop
    simpa using hstop

/-- Trimming takes away nothing but white space at the two ends. -/
theorem exists_trim (s : List Char) : ∃ before after, s = before ++ (trim s ++ after) ∧
    (∀ c ∈ before, isBlank c = true) ∧ ∀ c ∈ after, isBlank c = true := by
  refine ⟨s.takeWhile isBlank, ((trimStart s).reverse.takeWhile isBlank).reverse, ?_, ?_, ?_⟩
  · have hend : trim s ++ ((trimStart s).reverse.takeWhile isBlank).reverse = trimStart s := by
      unfold trim trimEnd
      rw [← List.reverse_append, List.takeWhile_append_dropWhile, List.reverse_reverse]
    rw [hend]
    exact List.takeWhile_append_dropWhile.symm
  · intro c hc
    exact List.all_eq_true.mp List.all_takeWhile c hc
  · intro c hc
    exact List.all_eq_true.mp List.all_takeWhile c (List.mem_reverse.mp hc)

/-- Nothing is left of a text exactly if it is all white space. -/
theorem trim_eq_nil_iff {s : List Char} : trim s = [] ↔ ∀ c ∈ s, isBlank c = true := by
  constructor
  · intro hnil c hc
    obtain ⟨before, after, hs, hbefore, hafter⟩ := exists_trim s
    rw [hs, hnil, List.nil_append] at hc
    rcases List.mem_append.mp hc with hc | hc
    · exact hbefore c hc
    · exact hafter c hc
  · intro hblank
    have hstart : trimStart s = [] := List.dropWhile_eq_nil_iff.mpr hblank
    rw [trim, hstart]
    rfl

/-- White space around a text that has none at its ends is what trimming takes away. -/
theorem trim_append_blank {before s after : List Char} (hs : trim s = s) (hne : s ≠ [])
    (hbefore : ∀ c ∈ before, isBlank c = true) (hafter : ∀ c ∈ after, isBlank c = true) :
    trim (before ++ (s ++ after)) = s := by
  obtain ⟨hhead, hlast⟩ := trim_eq_self_iff.mp hs
  have hhead' : ∀ c, (s ++ after).head? = some c → isBlank c = false := by
    intro c hc
    obtain ⟨d, s, rfl⟩ := List.exists_cons_of_ne_nil hne
    exact hhead c hc
  have hstart : trimStart (before ++ (s ++ after)) = s ++ after := by
    unfold trimStart
    rw [List.dropWhile_append_of_pos hbefore, dropWhile_eq_self_iff.mpr hhead']
  have hlast' : ∀ c, s.reverse.head? = some c → isBlank c = false := by
    intro c hc
    rw [List.head?_reverse] at hc
    exact hlast c hc
  have hafter' : ∀ c ∈ after.reverse, isBlank c = true := by
    intro c hc
    exact hafter c (List.mem_reverse.mp hc)
  unfold trim trimEnd
  rw [hstart, List.reverse_append, List.dropWhile_append_of_pos hafter',
    dropWhile_eq_self_iff.mpr hlast', List.reverse_reverse]

end SopDocs.Text
