import SopDocs.Text.Search

/-!
# Finding a key in a text

Looking for a key finds it exactly if it is a part of the text. A key without a certain mark
does not reach over that mark, so it is a part of what stands before or of what stands after. Two
texts that part before either of them ends stay apart, whatever is put behind them.
-/

namespace SopDocs.Text

/-- The key stands somewhere in the text. -/
def Mentions (text key : String) : Prop := key.toList <:+: text.toList

theorem occurs_iff {needle s : List Char} : occurs needle s = true ↔ needle <:+: s := by
  induction s with
  | nil => rw [occurs, List.isEmpty_iff, List.infix_nil]
  | cons c r ih =>
    rw [occurs, Bool.or_eq_true, List.isPrefixOf_iff_prefix, ih, List.infix_cons_iff]

theorem contains_iff {text key : String} : contains text key = true ↔ Mentions text key :=
  occurs_iff

instance (text key : String) : Decidable (Mentions text key) := decidable_of_iff _ contains_iff

theorem prefix_cons_of_not_mem {mark : Char} {needle after : List Char} (hmark : mark ∉ needle)
    (h : needle <+: mark :: after) : needle = [] := by
  rcases List.prefix_cons_iff.mp h with hnil | ⟨rest, rfl, -⟩
  · exact hnil
  · exact absurd List.mem_cons_self hmark

theorem infix_cut_iff {mark : Char} {needle before after : List Char} (hmark : mark ∉ needle) :
    needle <:+: before ++ mark :: after ↔ needle <:+: before ∨ needle <:+: after := by
  rw [List.infix_append_iff, List.infix_cons_iff]
  constructor
  · rintro (hbefore | (hstart | hafter) | ⟨left, right, rfl, hleft, hright⟩)
    · exact Or.inl hbefore
    · rw [prefix_cons_of_not_mem hmark hstart]
      exact Or.inl List.nil_infix
    · exact Or.inr hafter
    · have hnil : right = [] :=
        prefix_cons_of_not_mem (fun hmem => hmark (List.mem_append_right _ hmem)) hright
      rw [hnil, List.append_nil]
      exact Or.inl hleft.isInfix
  · rintro (hbefore | hafter)
    · exact Or.inl hbefore
    · exact Or.inr (Or.inl (Or.inr hafter))

/-- A mark that a test refuses cuts a text behind the letters that the test accepts. -/
theorem append_cons_inj {test : Char → Bool} {mark : Char} (hmark : test mark = false)
    {a b r s : List Char} (ha : ∀ c ∈ a, test c = true) (hb : ∀ c ∈ b, test c = true)
    (h : a ++ mark :: r = b ++ mark :: s) : a = b ∧ r = s := by
  have htaken : ∀ {u v : List Char}, (∀ c ∈ u, test c = true) →
      (u ++ mark :: v).takeWhile test = u := by
    intro u v hu
    rw [List.takeWhile_append_of_pos hu, List.takeWhile_cons_of_neg (by simp [hmark]),
      List.append_nil]
  obtain rfl : a = b := by rw [← htaken ha (v := r), h, htaken hb]
  exact ⟨rfl, (List.cons.inj (List.append_cancel_left h)).2⟩

/-- A text that two fixed ones stand around can be read off the whole. -/
theorem around_inj {before after a b : String} (h : before ++ a ++ after = before ++ b ++ after) :
    a = b := by
  have hend : before ++ a = before ++ b := (String.append_left_inj after).mp h
  exact (String.append_right_inj before).mp hend

/-! ### Starts -/

/-- Neither text is a start of the other. -/
def Apart (a b : String) : Prop := ¬ a.toList <+: b.toList ∧ ¬ b.toList <+: a.toList

instance (a b : String) : Decidable (Apart a b) := inferInstanceAs (Decidable (_ ∧ _))

theorem Apart.append {a b : String} (h : Apart a b) (c : String) : Apart (a ++ c) b := by
  unfold Apart
  rw [String.toList_append]
  refine ⟨fun hab => h.1 ((List.prefix_append _ _).trans hab), fun hba => ?_⟩
  rcases List.prefix_or_prefix_of_prefix hba (List.prefix_append _ _) with hstart | hstart
  · exact h.2 hstart
  · exact h.1 hstart

/-- A text that is written out is told apart by its characters. -/
theorem apart_ofList {s t : List Char} (h : ¬ s <+: t ∧ ¬ t <+: s) :
    Apart (String.ofList s) (String.ofList t) := by
  unfold Apart
  rwa [String.toList_ofList, String.toList_ofList]

theorem startsWith_append {a start : String} (h : startsWith a start = true) (b : String) :
    startsWith (a ++ b) start = true := by
  unfold startsWith at h ⊢
  rw [List.isPrefixOf_iff_prefix] at h ⊢
  rw [String.toList_append]
  exact h.trans (List.prefix_append _ _)

theorem Apart.startsWith_eq_false {a b : String} (h : Apart a b) : startsWith a b = false := by
  unfold startsWith
  rw [← Bool.not_eq_true, List.isPrefixOf_iff_prefix]
  exact h.2

end SopDocs.Text
