import SopDocs.Procedure

/-!
# The path of a step heading

A step heading starts with `8.` and a dotted path: numerals with dots between, as many as
there are. The grammar below says which rest may follow such a path, so that no reading
stops early. Reading a path or its first numeral finds what the grammar says.
-/

namespace SopDocs.Procedure

open SopDocs.Text

def StartsWithDigit : List Char → Prop
  | [] => False
  | c :: _ => isDecimalDigit c = true

/-- A text that would make a path in front of it longer. -/
def GoesOn (rest : List Char) : Prop :=
  StartsWithDigit rest ∨ ∃ r, rest = '.' :: r ∧ StartsWithDigit r

/-- A run of decimal digits of any script. -/
structure Numeral (s : List Char) : Prop where
  nonempty : s ≠ []
  digits : ∀ c ∈ s, isDecimalDigit c = true

/-- A text that starts with numerals between dots, and what follows the last of them. -/
inductive Dotted : List Char → List (List Char) → List Char → Prop
  | last {numeral rest : List Char} :
      Numeral numeral → ¬ GoesOn rest → Dotted (numeral ++ rest) [numeral] rest
  | more {numeral text : List Char} {others : List (List Char)} {rest : List Char} :
      Numeral numeral → Dotted text others rest →
      Dotted (numeral ++ '.' :: text) (numeral :: others) rest

/-- A heading of a step: its text after `8.` is a dotted path and a rest. -/
def StepHeading (text : List Char) (components : List (List Char)) (rest : List Char) : Prop :=
  ∃ s, text = stepStart ++ s ∧ Dotted s components rest

/-- The components of a path with dots between them. -/
def dottedPath (components : List (List Char)) : List Char := ['.'].intercalate components

/-! ### Runs of digits -/

theorem digits_eq_nil_iff {s : List Char} : digits s = [] ↔ ¬ StartsWithDigit s := by
  cases s with
  | nil => simp [digits, StartsWithDigit]
  | cons c s => simp [digits, StartsWithDigit, List.takeWhile_cons]

theorem digits_append {numeral : List Char} (h : Numeral numeral) {rest : List Char}
    (hrest : ¬ StartsWithDigit rest) : digits (numeral ++ rest) = numeral := by
  have hnone : rest.takeWhile isDecimalDigit = [] := digits_eq_nil_iff.mpr hrest
  unfold digits
  rw [List.takeWhile_append_of_pos h.digits, hnone, List.append_nil]

theorem numeral_digits {s : List Char} (h : digits s ≠ []) : Numeral (digits s) :=
  ⟨h, List.all_eq_true.mp List.all_takeWhile⟩

theorem digits_append_drop (s : List Char) : digits s ++ s.drop (digits s).length = s := by
  have hprefix : digits s = s.take (digits s).length :=
    List.prefix_iff_eq_take.mp (List.takeWhile_prefix _)
  calc digits s ++ s.drop (digits s).length
      = s.take (digits s).length ++ s.drop (digits s).length := by rw [← hprefix]
    _ = s := List.take_append_drop _ _

/-- The digits at the start of a text are all that there are. -/
theorem not_startsWithDigit_drop (s : List Char) :
    ¬ StartsWithDigit (s.drop (digits s).length) := by
  induction s with
  | nil => exact id
  | cons c s ih =>
    by_cases hc : isDecimalDigit c = true
    · have hdigits : digits (c :: s) = c :: digits s := List.takeWhile_cons_of_pos hc
      rw [hdigits, List.length_cons, List.drop_succ_cons]
      exact ih
    · have hdigits : digits (c :: s) = [] := List.takeWhile_cons_of_neg hc
      rw [hdigits]
      exact hc

theorem not_startsWithDigit_dot (s : List Char) : ¬ StartsWithDigit ('.' :: s) := by
  have hdot : isDecimalDigit '.' = false := by decide
  simp [StartsWithDigit, hdot]

/-! ### Reading what the grammar says -/

theorem Dotted.digits {s : List Char} {numeral : List Char} {others : List (List Char)}
    {rest : List Char} (h : Dotted s (numeral :: others) rest) :
    Procedure.digits s = numeral := by
  cases h with
  | last hnumeral hrest => exact digits_append hnumeral fun hdigit => hrest (Or.inl hdigit)
  | more hnumeral _ => exact digits_append hnumeral (not_startsWithDigit_dot _)

theorem Dotted.exists_cons {s : List Char} {components : List (List Char)} {rest : List Char}
    (h : Dotted s components rest) :
    ∃ numeral others, components = numeral :: others ∧ Numeral numeral := by
  cases h with
  | last hnumeral _ => exact ⟨_, _, rfl, hnumeral⟩
  | more hnumeral _ => exact ⟨_, _, rfl, hnumeral⟩

theorem Dotted.digits_ne_nil {s : List Char} {components : List (List Char)} {rest : List Char}
    (h : Dotted s components rest) : Procedure.digits s ≠ [] := by
  obtain ⟨numeral, others, rfl, hnumeral⟩ := h.exists_cons
  rw [h.digits]
  exact hnumeral.nonempty

theorem moreComponents_eq_nil {bound : Nat} {rest : List Char} (h : ¬ GoesOn rest) :
    moreComponents bound rest = [] := by
  cases bound with
  | zero => rfl
  | succ bound =>
    unfold moreComponents
    split
    · next r =>
      have hr : digits r = [] := digits_eq_nil_iff.mpr fun hdigit => h (Or.inr ⟨r, rfl, hdigit⟩)
      rw [if_pos hr]
    · rfl

/-- Reading takes the whole path, within any bound that the text does not exceed. -/
theorem Dotted.read {s : List Char} {components : List (List Char)} {rest : List Char}
    (h : Dotted s components rest) {bound : Nat} (hbound : s.length ≤ bound) :
    Procedure.digits s ++ moreComponents bound (s.drop (Procedure.digits s).length) =
      dottedPath components := by
  induction h generalizing bound with
  | @last numeral rest hnumeral hrest =>
    rw [(Dotted.last hnumeral hrest).digits, List.drop_left, moreComponents_eq_nil hrest]
    simp [dottedPath]
  | @more numeral text others rest hnumeral hothers ih =>
    rw [List.length_append, List.length_cons] at hbound
    obtain ⟨b, rfl⟩ : ∃ b, bound = b + 1 := ⟨bound - 1, by omega⟩
    obtain ⟨second, further, rfl, -⟩ := hothers.exists_cons
    rw [(Dotted.more hnumeral hothers).digits, List.drop_left]
    have hread := ih (show text.length ≤ b by omega)
    simp only [moreComponents, if_neg hothers.digits_ne_nil, hread]
    simp [dottedPath, List.intercalate]

theorem stepPath?_of_stepHeading {text : List Char} {components : List (List Char)}
    {rest : List Char} (h : StepHeading text components rest) :
    stepPath? text = some (dottedPath components) := by
  obtain ⟨s, htext, hdotted⟩ := h
  unfold stepPath?
  rw [dropStart?_eq_some_iff.mpr htext, Option.bind_some, if_neg hdotted.digits_ne_nil,
    hdotted.read (Nat.le_refl _)]

theorem stepDigits?_of_stepHeading {text numeral : List Char} {others : List (List Char)}
    {rest : List Char} (h : StepHeading text (numeral :: others) rest) :
    stepDigits? text = some numeral := by
  obtain ⟨s, htext, hdotted⟩ := h
  have hne := hdotted.digits_ne_nil
  rw [hdotted.digits] at hne
  unfold stepDigits?
  rw [dropStart?_eq_some_iff.mpr htext, Option.bind_some, hdotted.digits, if_neg hne]

/-! ### Each step heading has a path -/

theorem exists_dotted {s : List Char} (h : digits s ≠ []) :
    ∃ components rest, Dotted s components rest := by
  have hnumeral := numeral_digits h
  have hdrop := not_startsWithDigit_drop s
  have hsplit := digits_append_drop s
  by_cases hgoes : GoesOn (s.drop (digits s).length)
  · obtain ⟨r, hr, hdigit⟩ := hgoes.resolve_left hdrop
    have hlength : r.length < s.length := by
      have hlengths := congrArg List.length hr
      simp only [List.length_drop, List.length_cons] at hlengths
      omega
    have hne : digits r ≠ [] := fun hnil => digits_eq_nil_iff.mp hnil hdigit
    obtain ⟨others, rest, hothers⟩ := exists_dotted hne
    rw [hr] at hsplit
    have hmore := Dotted.more hnumeral hothers
    rw [hsplit] at hmore
    exact ⟨_, rest, hmore⟩
  · have hlast := Dotted.last hnumeral hgoes
    rw [hsplit] at hlast
    exact ⟨_, _, hlast⟩
termination_by s.length

theorem exists_stepHeading {text numeral : List Char} (h : stepDigits? text = some numeral) :
    ∃ others rest, StepHeading text (numeral :: others) rest := by
  unfold stepDigits? at h
  obtain ⟨s, hs, hnumeral⟩ := Option.bind_eq_some_iff.mp h
  have htext := dropStart?_eq_some_iff.mp hs
  have hne : digits s ≠ [] := by
    intro hnil
    rw [if_pos hnil] at hnumeral
    cases hnumeral
  rw [if_neg hne] at hnumeral
  obtain ⟨components, rest, hdotted⟩ := exists_dotted hne
  obtain ⟨first, others, rfl, -⟩ := hdotted.exists_cons
  rw [hdotted.digits] at hnumeral
  cases hnumeral
  exact ⟨others, rest, s, htext, hdotted⟩

/-! ### Numbers -/

/-- The digits of a step are all those that follow `8.` at the start of its heading. -/
theorem stepDigits?_eq_some_iff {text numeral : List Char} :
    stepDigits? text = some numeral ↔
      ∃ rest, text = stepStart ++ (numeral ++ rest) ∧ Numeral numeral ∧ ¬ StartsWithDigit rest := by
  unfold stepDigits?
  rw [Option.bind_eq_some_iff]
  constructor
  · rintro ⟨s, hs, hnumeral⟩
    have hne : digits s ≠ [] := by
      intro hnil
      rw [if_pos hnil] at hnumeral
      cases hnumeral
    rw [if_neg hne] at hnumeral
    obtain rfl := Option.some.inj hnumeral
    refine ⟨s.drop (digits s).length, ?_, numeral_digits hne, not_startsWithDigit_drop s⟩
    rw [digits_append_drop]
    exact dropStart?_eq_some_iff.mp hs
  · rintro ⟨rest, htext, hnumeral, hrest⟩
    have hdigits := digits_append hnumeral hrest
    refine ⟨numeral ++ rest, dropStart?_eq_some_iff.mpr htext, ?_⟩
    rw [hdigits, if_neg hnumeral.nonempty]

theorem stepNumber?_eq_some_iff {text : List Char} {n : Nat} :
    stepNumber? text = some n ↔ ∃ numeral, stepDigits? text = some numeral ∧
      (∀ c ∈ numeral, c.isDigit = true) ∧ digitsValue numeral = n ∧ n ≤ maxStep := by
  unfold stepNumber?
  rw [Option.bind_eq_some_iff]
  constructor
  · rintro ⟨numeral, hnumeral, hvalue⟩
    split at hvalue
    · next h =>
      obtain rfl := Option.some.inj hvalue
      exact ⟨numeral, hnumeral, List.all_eq_true.mp h.1, rfl, h.2⟩
    · cases hvalue
  · rintro ⟨numeral, hnumeral, hdigits, rfl, hmax⟩
    exact ⟨numeral, hnumeral, if_pos ⟨List.all_eq_true.mpr hdigits, hmax⟩⟩

/-- A heading of a step whose number is read: the first component of its path spells it. -/
theorem stepNumber?_eq_some {text : List Char} {n : Nat} (h : stepNumber? text = some n) :
    ∃ numeral, stepDigits? text = some numeral ∧ (∀ c ∈ numeral, c.isDigit = true) ∧
      digitsValue numeral = n := by
  obtain ⟨numeral, hnumeral, hdigits, hvalue, -⟩ := stepNumber?_eq_some_iff.mp h
  exact ⟨numeral, hnumeral, hdigits, hvalue⟩

end SopDocs.Procedure
