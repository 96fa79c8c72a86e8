import SopDocs.Proofs.Config.Settings
import SopDocs.Proofs.Json.Document
import SopDocs.Proofs.Path
import SopDocs.Review.Tracker

/-!
# Which texts are configurations

What the schema allows is said of terms, that is of what a text says, and not of the values that
are read. A value has no violation and is taken over exactly if its term is allowed and its number
fits the setting; the one does not follow from the other, since the schema also allows a number
with a fraction of zeros and numbers of any size.
-/

namespace SopDocs.Config

open Json (Value Term Says Numeral KeyedBy)

variable {config : Config} {key pointer : String} {shape : Shape} {v : Value} {term : Term}
  {nonEmpty : Bool}

/-! ### What the schema allows -/

/-- A string, which may be empty if nothing else is asked for. -/
def IsText (nonEmpty : Bool) (term : Term) : Prop :=
  ∃ s, term = .string s ∧ (nonEmpty = true → s ≠ "")

/-- Half of a repository name: characters, but no slash and no blank of the pattern. -/
def IsPart (s : String) : Prop := s ≠ "" ∧ ∀ c ∈ s.toList, c ≠ '/' ∧ c ∉ repositoryBlanks

/-- The terms of a shape. -/
def Shape.Allows : Shape → Term → Prop
  | .text, term => IsText false term
  | .someText, term => IsText true term
  | .repositoryName, term =>
    ∃ owner name, term = .string (owner ++ "/" ++ name) ∧ IsPart owner ∧ IsPart name
  | .flag, term => ∃ b, term = .bool b
  | .whole minimum, term => ∃ (n : Numeral) (z : Int), term = .number n ∧ n.value = z ∧ minimum ≤ z
  | .texts, term => ∃ items, term = .array items ∧ ∀ item ∈ items, IsText false item
  | .someTexts, term => ∃ items, term = .array items ∧ ∀ item ∈ items, IsText true item

/-- Whether a term is an object of known keys with terms of their shapes. -/
def Satisfies (term : Term) : Prop :=
  ∃ members, term = .object members ∧
    ∀ m ∈ members, ∃ shape, (m.1, shape) ∈ schema ∧ shape.Allows m.2

/-- Whether a number for a setting is written as digits only, and not too great for it. -/
def Fits (key : String) (term : Term) : Prop :=
  ∀ n, term = .number n →
    (key = "requestTimeoutSecs" → n.IsUnsigned (2 ^ 64 - 1)) ∧
    (key = "reviewDays" → n.IsUnsigned (2 ^ 63 - 1))

/-- Whether the numbers of an object fit the settings they are for. -/
def NumbersFit (term : Term) : Prop :=
  ∀ members, term = .object members → ∀ m ∈ members, Fits m.1 m.2

/-! ### Texts -/

theorem textViolation?_eq_none_iff (h : term.Stands v) :
    textViolation? nonEmpty v = none ↔ IsText nonEmpty term := by
  cases h with
  | string s => cases nonEmpty <;> simp [textViolation?, IsText]
  | number h =>
    rcases h.isInt_or_isFloat with ⟨z, -, rfl⟩ | ⟨-, x, rfl⟩ <;> simp [textViolation?, IsText]
  | _ => simp [textViolation?, IsText]

theorem itemViolation?_eq_none_iff {items : List Term} {vs : List Value}
    (h : List.Forall₂ Term.Stands items vs) (i : Nat) :
    itemViolation? nonEmpty pointer i vs = none ↔ ∀ item ∈ items, IsText nonEmpty item := by
  induction h generalizing i with
  | nil => simp [itemViolation?]
  | cons hitem hitems ih =>
    rw [List.forall_mem_cons, ← textViolation?_eq_none_iff hitem, ← ih (i + 1), itemViolation?]
    split
    · next hviolation => simp [hviolation]
    · next hnone => simp [hnone]

/-- Texts stand for strings, so that a list of them is taken over. -/
theorem exists_map_string {items : List Term} {vs : List Value}
    (h : List.Forall₂ Term.Stands items vs) (htext : ∀ item ∈ items, IsText nonEmpty item) :
    ∃ l : List String, vs = l.map .string := by
  induction h with
  | nil => exact ⟨[], rfl⟩
  | cons hitem hitems ih =>
    obtain ⟨⟨s, rfl, -⟩, hrest⟩ := List.forall_mem_cons.mp htext
    obtain ⟨l, rfl⟩ := ih hrest
    cases hitem
    exact ⟨s :: l, rfl⟩

theorem isRepositoryPart_iff {s : String} : isRepositoryPart s.toList = true ↔ IsPart s := by
  simp [isRepositoryPart, IsPart]

/-- A name has one slash, and the parts before and behind it are what it is made of. -/
theorem isRepositoryName_iff {s : String} :
    isRepositoryName s = true ↔
      ∃ owner name, s = owner ++ "/" ++ name ∧ IsPart owner ∧ IsPart name := by
  have htext : ∀ owner name : String,
      (owner ++ "/" ++ name).toList = owner.toList ++ '/' :: name.toList := by simp
  unfold isRepositoryName
  constructor
  · intro h
    simp only at h
    split at h
    · next name heq =>
      rw [Bool.and_eq_true] at h
      have hsplit : s.toList = s.toList.takeWhile (· != '/') ++ '/' :: name := by
        conv_lhs => rw [← List.take_append_drop (s.toList.takeWhile (· != '/')).length s.toList]
        rw [heq, ← List.prefix_iff_eq_take.mp (List.takeWhile_prefix _)]
      refine ⟨String.ofList (s.toList.takeWhile (· != '/')), String.ofList name, ?_, ?_, ?_⟩
      · rw [← String.toList_inj, htext, String.toList_ofList, String.toList_ofList]
        exact hsplit
      · exact isRepositoryPart_iff.mp (by simpa using h.1)
      · exact isRepositoryPart_iff.mp (by simpa using h.2)
    · cases h
  · rintro ⟨owner, name, rfl, howner, hname⟩
    have hleft : (owner.toList ++ '/' :: name.toList).takeWhile (· != '/') = owner.toList := by
      rw [List.takeWhile_append_of_pos fun c hc => by simpa using (howner.2 c hc).1,
        List.takeWhile_cons_of_neg (by simp), List.append_nil]
    simp only [htext, hleft, List.drop_left]
    rw [isRepositoryPart_iff.mpr howner, isRepositoryPart_iff.mpr hname]
    rfl

/-! ### Values and their terms -/

/-- A shape other than that of numbers has no violation exactly if it allows the term. -/
theorem violation?_eq_none_iff (h : term.Stands v) (hshape : ∀ minimum, shape ≠ .whole minimum) :
    shape.violation? pointer v = none ↔ shape.Allows term := by
  have hlist : ∀ {nonEmpty : Bool}, Shape.violation?.items pointer v nonEmpty = none ↔
      ∃ items, term = .array items ∧ ∀ item ∈ items, IsText nonEmpty item := by
    intro nonEmpty
    cases h with
    | array hitems =>
      simpa [Shape.violation?.items] using itemViolation?_eq_none_iff hitems 0
    | number h =>
      rcases h.isInt_or_isFloat with ⟨z, -, rfl⟩ | ⟨-, x, rfl⟩ <;> simp [Shape.violation?.items]
    | _ => simp [Shape.violation?.items]
  cases shape with
  | text => exact Option.map_eq_none_iff.trans (textViolation?_eq_none_iff h)
  | someText => exact Option.map_eq_none_iff.trans (textViolation?_eq_none_iff h)
  | repositoryName =>
    cases h with
    | string s =>
      have hname := isRepositoryName_iff (s := s)
      simp only [Shape.violation?, Shape.Allows, Term.string.injEq, ite_eq_left_iff]
      simpa using hname
    | number h =>
      rcases h.isInt_or_isFloat with ⟨z, -, rfl⟩ | ⟨-, x, rfl⟩ <;>
        simp [Shape.violation?, Shape.Allows]
    | _ => simp [Shape.violation?, Shape.Allows]
  | flag =>
    cases h with
    | number h =>
      rcases h.isInt_or_isFloat with ⟨z, -, rfl⟩ | ⟨-, x, rfl⟩ <;>
        simp [Shape.violation?, Shape.Allows]
    | _ => simp [Shape.violation?, Shape.Allows]
  | whole minimum => exact absurd rfl (hshape minimum)
  | texts => exact hlist
  | someTexts => exact hlist

/-- What such a shape allows is no number and is taken over. -/
theorem suits_of_allows (h : term.Stands v) (hshape : ∀ minimum, shape ≠ .whole minimum)
    (hallows : shape.Allows term) : Suits key shape v ∧ Fits key term := by
  have hfits : (∀ n, term ≠ .number n) → Fits key term := fun hno n hn => absurd hn (hno n)
  have htext : ∀ {s : String}, term = .string s → (∃ s, v = .string s) ∧ Fits key term := by
    rintro s rfl
    cases h
    exact ⟨⟨s, rfl⟩, hfits (by simp)⟩
  have hlist : ∀ {nonEmpty : Bool} {items : List Term}, term = .array items →
      (∀ item ∈ items, IsText nonEmpty item) →
      (∃ l : List String, v = .array (l.map .string)) ∧ Fits key term := by
    rintro nonEmpty items rfl hitems
    cases h with
    | array hstands =>
      obtain ⟨l, rfl⟩ := exists_map_string hstands hitems
      exact ⟨⟨l, rfl⟩, hfits (by simp)⟩
  cases shape with
  | text | someText =>
    obtain ⟨s, hs, -⟩ := hallows
    exact htext hs
  | repositoryName =>
    obtain ⟨owner, name, hs, -⟩ := hallows
    exact htext hs
  | flag =>
    obtain ⟨b, rfl⟩ := hallows
    cases h
    exact ⟨⟨b, rfl⟩, hfits (by simp)⟩
  | whole minimum => exact absurd rfl (hshape minimum)
  | texts | someTexts =>
    obtain ⟨items, hterm, hitems⟩ := hallows
    exact hlist hterm hitems

/-- The keys of whole numbers. -/
theorem key_of_whole {minimum : Nat} (hkey : (key, Shape.whole minimum) ∈ schema) :
    key = "requestTimeoutSecs" ∨ key = "reviewDays" := by
  simp only [schema, List.mem_cons, Prod.mk.injEq, reduceCtorEq, and_false, or_false, false_or,
    List.not_mem_nil] at hkey
  exact hkey.imp And.left And.left

/-- The number of a setting that fits is read, and not negative. -/
theorem isUnsigned_of_fits {minimum : Nat} {n : Numeral}
    (hkey : (key, Shape.whole minimum) ∈ schema) (hfits : Fits key (.number n)) :
    n.IsUnsigned Json.maxUnsigned := by
  have hle : 2 ^ 63 - 1 ≤ Json.maxUnsigned := by decide
  rcases key_of_whole hkey with hkey | hkey
  · exact (hfits n rfl).1 hkey
  · obtain ⟨hsign, hfraction, hexponent, hsize⟩ := (hfits n rfl).2 hkey
    exact ⟨hsign, hfraction, hexponent, Nat.le_trans hsize hle⟩

/-- A whole number has no violation and is taken over exactly if it is at least the minimum and is
written as digits that fit its setting. -/
theorem accepted_whole_iff {minimum : Nat} (h : term.Stands v)
    (hkey : (key, Shape.whole minimum) ∈ schema) :
    (wholeViolation? minimum v = none ∧ Suits key (.whole minimum) v) ↔
      Shape.Allows (.whole minimum) term ∧ Fits key term := by
  constructor
  · rintro ⟨hviolation, z, rfl, hrange⟩
    have hmin : (minimum : Int) ≤ z := by
      by_contra hlow
      rw [wholeViolation?, if_pos (Int.not_le.mp hlow)] at hviolation
      cases hviolation
    generalize hv : Value.int z = v at h
    cases h with
    | @number n v hnumber =>
      subst hv
      rcases hnumber.isInt_or_isFloat with ⟨_, hinteger, ⟨⟩⟩ | ⟨-, x, ⟨⟩⟩
      obtain ⟨hn, rfl⟩ := Numeral.isUnsigned_of_integer? hinteger (by omega)
      refine ⟨⟨n, n.magnitude, rfl, by simpa using Numeral.value_of_isUnsigned hn, hmin⟩, ?_⟩
      rintro _ ⟨⟩
      refine ⟨fun _ => hn, fun hdays => ?_⟩
      have hne : key ≠ "requestTimeoutSecs" := by rw [hdays]; decide
      rw [if_neg hne] at hrange
      obtain ⟨hsign, hfraction, hexponent, -⟩ := hn
      have hmax : Json.maxSigned = 2 ^ 63 - 1 := rfl
      exact ⟨hsign, hfraction, hexponent, by omega⟩
    | _ => cases hv
  · rintro ⟨⟨n, z, rfl, hvalue, hmin⟩, hfits⟩
    have hn := isUnsigned_of_fits hkey hfits
    have hz : z = n.magnitude := by
      rw [Numeral.value_of_isUnsigned hn] at hvalue
      exact_mod_cast hvalue.symm
    subst hz
    cases h with
    | number hnumber =>
      rw [Numeral.integer?_of_isUnsigned hn] at hnumber
      obtain rfl := hnumber.eq_int
      refine ⟨by rw [wholeViolation?, if_neg (by omega)], n.magnitude, rfl, ?_⟩
      split
      · exact ⟨by omega, by exact_mod_cast hn.2.2.2⟩
      · next hne =>
        have hdays := (key_of_whole hkey).resolve_left hne
        have hsize := ((hfits n rfl).2 hdays).2.2.2
        have hmin : Json.minSigned ≤ 0 := by decide
        have hmax : Json.maxSigned = 2 ^ 63 - 1 := rfl
        omega

/-- A value has no violation and is taken over exactly if its term is allowed and fits. -/
theorem accepted_iff (h : term.Stands v) (hkey : (key, shape) ∈ schema) :
    (shape.violation? pointer v = none ∧ ∃ next, config.set key v = .ok next) ↔
      shape.Allows term ∧ Fits key term := by
  rw [exists_set_iff hkey]
  by_cases hwhole : ∃ minimum, shape = .whole minimum
  · obtain ⟨minimum, rfl⟩ := hwhole
    have hschema : key ≠ "$schema" := by
      rcases key_of_whole hkey with rfl | rfl <;> decide
    rw [or_iff_right hschema, ← accepted_whole_iff h hkey]
    exact and_congr_left' Option.map_eq_none_iff
  · have hshape : ∀ minimum, shape ≠ .whole minimum := fun minimum heq => hwhole ⟨minimum, heq⟩
    rw [violation?_eq_none_iff h hshape]
    refine and_congr_right fun hallows => ?_
    have haccepted : Suits key shape v ∧ Fits key term := suits_of_allows h hshape hallows
    exact iff_of_true (.inr haccepted.1) haccepted.2

end SopDocs.Config
