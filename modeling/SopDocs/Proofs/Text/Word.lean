import SopDocs.Proofs.Text.Slice
import SopDocs.Text.Word

/-!
# The words of a text are its maximal runs of word characters

A word stands at a position of a text if it is a run of word characters with no such character on
either side. The words that are read are those that stand at the positions of the text, from left
to right.
-/

namespace SopDocs.Text

theorem isUpper_iff {c : Char} : c.isUpper = true ↔ 'A' ≤ c ∧ c ≤ 'Z' := decide_eq_true_iff

/-- A word stands at a position: it can be made longer neither to the left nor to the right. -/
def WordAt (text : List Char) (start : Nat) (word : List Char) : Prop :=
  ∃ before after, text = before ++ (word ++ after) ∧ before.length = start ∧ word ≠ [] ∧
    (∀ c ∈ word, isWordChar c = true) ∧ (∀ c ∈ before.getLast?, isWordChar c = false) ∧
    ∀ c ∈ after.head?, isWordChar c = false

/-- The word that begins at a position, if one does. -/
def wordFrom? (text : List Char) (start : Nat) : Option (List Char) :=
  if (text.take start).getLast?.any isWordChar then none
  else (some ((text.drop start).takeWhile isWordChar)).filter (! ·.isEmpty)

variable {text word : List Char} {start : Nat}

theorem WordAt.wordFrom? (h : WordAt text start word) : wordFrom? text start = some word := by
  obtain ⟨before, after, rfl, rfl, hne, hword, hbefore, hafter⟩ := h
  have hleft : before.getLast?.any isWordChar = false := by
    cases hlast : before.getLast? with
    | none => rfl
    | some c => exact hbefore c hlast
  have hrun : word = (word ++ after).takeWhile isWordChar :=
    eq_takeWhile_iff.mpr ⟨after, rfl, hword, hafter⟩
  unfold Text.wordFrom?
  rw [List.take_left, List.drop_left, hleft, ← hrun]
  simp [hne]

theorem wordAt_of_wordFrom? (h : wordFrom? text start = some word) : WordAt text start word := by
  unfold wordFrom? at h
  split at h
  · cases h
  next hleft =>
    obtain ⟨hrun, hne⟩ := Option.filter_eq_some_iff.mp h
    obtain ⟨after, hafter, hword, hstop⟩ := eq_takeWhile_iff.mp (Option.some.inj hrun).symm
    have hne : word ≠ [] := by simpa using hne
    have hstart : start ≤ text.length := by
      apply Nat.le_of_not_lt
      intro hlt
      rw [List.drop_eq_nil_of_le (Nat.le_of_lt hlt)] at hafter
      exact hne (List.append_eq_nil_iff.mp hafter.symm).1
    refine ⟨text.take start, after, ?_, List.length_take_of_le hstart, hne, hword, ?_, hstop⟩
    · rw [← hafter, List.take_append_drop]
    · intro c hc
      rw [hc] at hleft
      simpa using hleft

theorem wordFrom?_eq_some_iff : wordFrom? text start = some word ↔ WordAt text start word :=
  ⟨wordAt_of_wordFrom?, WordAt.wordFrom?⟩

theorem WordAt.lt_length (h : WordAt text start word) : start < text.length := by
  obtain ⟨before, after, rfl, rfl, hne, -⟩ := h
  have hpos := List.length_pos_iff.mpr hne
  simp only [List.length_append]
  omega

/-! ### From one position to the next -/

theorem wordFrom?_cons_zero (c : Char) (r : List Char) :
    wordFrom? (c :: r) 0 =
      if isWordChar c then some (c :: r.takeWhile isWordChar) else none := by
  unfold wordFrom?
  cases hc : isWordChar c <;> simp [hc]

theorem wordFrom?_cons_one (c : Char) (r : List Char) :
    wordFrom? (c :: r) 1 = if isWordChar c then none else wordFrom? r 0 := by
  unfold wordFrom?
  cases hc : isWordChar c <;> simp [hc]

theorem wordFrom?_cons_cons (c d : Char) (r : List Char) (start : Nat) :
    wordFrom? (c :: d :: r) (start + 2) = wordFrom? (d :: r) (start + 1) := rfl

theorem filterMap_range_succ {α : Type} (f : Nat → Option α) (n : Nat) :
    (List.range (n + 1)).filterMap f =
      (f 0).toList ++ (List.range n).filterMap fun i => f (i + 1) := by
  rw [List.range_succ_eq_map, List.filterMap_cons, List.filterMap_map]
  cases f 0 <;> rfl

/-- The words that are read are those that stand in the text, from left to right. -/
theorem words_eq_filterMap (text : List Char) :
    words text = (List.range text.length).filterMap (wordFrom? text) := by
  induction text with
  | nil => rfl
  | cons c r ih =>
    rw [List.length_cons, filterMap_range_succ, wordFrom?_cons_zero]
    cases r with
    | nil => cases hc : isWordChar c <;> simp [words, joinWord, hc]
    | cons d r =>
      -- what a character in front changes is the word that begins right behind it
      have hlater : ∀ start, wordFrom? (c :: d :: r) (start + 1 + 1) =
          wordFrom? (d :: r) (start + 1) := wordFrom?_cons_cons c d r
      rw [List.length_cons, filterMap_range_succ] at ih ⊢
      rw [words, ih, wordFrom?_cons_one, wordFrom?_cons_zero]
      simp only [hlater]
      cases hc : isWordChar c <;> cases hd : isWordChar d <;> simp [joinWord, hd]

end SopDocs.Text
