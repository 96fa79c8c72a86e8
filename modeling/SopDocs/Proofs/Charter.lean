import SopDocs.Charter

/-!
# Known charters answer as the files do

As long as the files stay as they are, every charter that is known holds what its
file holds. A document then gets the same glossary, or the same failure, as if no
charter were known yet.
-/

namespace SopDocs.Charters

variable {files : Files} {charters : Charters}

/-- The same settings with no charter known. -/
def forget (charters : Charters) : Charters := { charters with known := [] }

/-- Every charter that is known holds what its file holds. -/
def Current (files : Files) (charters : Charters) : Prop :=
  ∀ entry ∈ charters.known, read files ⟨entry.1⟩ = .ok entry.2

theorem current_ofConfig (files : Files) (config : Config) : Current files (ofConfig config) := by
  intro entry hentry
  cases hentry

theorem current_add {charter : Path} {glossary : Glossary} (h : Current files charters)
    (hread : read files charter = .ok glossary) :
    Current files (charters.add charter glossary) := by
  intro entry hentry
  rcases List.mem_append.mp hentry with hold | hnew
  · exact h entry hold
  · rw [List.mem_singleton.mp hnew]
    exact hread

theorem read_of_known {charter : Path} {glossary : Glossary} (h : Current files charters)
    (hknown : charters.known? charter = some glossary) : read files charter = .ok glossary := by
  obtain ⟨entry, hfound, rfl⟩ := Option.map_eq_some_iff.mp hknown
  have hkey : entry.1 = charter.text := by simpa using List.find?_some hfound
  have hread := h entry (List.mem_of_find?_eq_some hfound)
  rw [hkey] at hread
  exact hread

/-- What is known does not show in the glossary of a document. -/
theorem glossaryFor_fst (h : Current files charters) (document : Path) :
    (charters.glossaryFor files document).1 = (charters.forget.glossaryFor files document).1 := by
  have hpath : charters.forget.path files document = charters.path files document := rfl
  have hforget : ∀ charter, charters.forget.known? charter = none := fun _ => rfl
  unfold glossaryFor
  rw [hpath]
  cases charters.path files document with
  | error failure => rfl
  | ok charter =>
    simp only [hforget]
    cases hknown : charters.known? charter with
    | none => cases read files charter <;> rfl
    | some glossary => rw [read_of_known h hknown]

theorem forget_glossaryFor (charters : Charters) (files : Files) (document : Path) :
    (charters.glossaryFor files document).2.forget = charters.forget := by
  unfold glossaryFor
  cases charters.path files document with
  | error failure => rfl
  | ok charter =>
    simp only
    cases charters.known? charter with
    | some glossary => rfl
    | none => cases read files charter <;> rfl

theorem current_glossaryFor (h : Current files charters) (document : Path) :
    Current files (charters.glossaryFor files document).2 ∧
      (charters.glossaryFor files document).2.forget = charters.forget := by
  refine ⟨?_, forget_glossaryFor charters files document⟩
  unfold glossaryFor
  cases charters.path files document with
  | error failure => exact h
  | ok charter =>
    cases hknown : charters.known? charter with
    | some glossary => simpa [hknown] using h
    | none =>
      cases hread : read files charter with
      | error failure => simpa [hknown, hread] using h
      | ok glossary =>
        simp only [hknown, hread]
        exact current_add h hread

end SopDocs.Charters
