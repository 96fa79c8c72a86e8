import SopDocs.Conventions

/-!
# Identifiers at the start of file names

An identifier is the fixed start and four decimal digits. A file has one exactly if the stem of
its name is an identifier, an underscore and a title; the name then goes on after the
underscore with the title and what follows the stem.
-/

namespace SopDocs

open Text (isDecimalDigit)

/-- The stem of a name is a start of it. -/
theorem Path.stemOf_prefix (name : List Char) : stemOf name <+: name := by
  unfold stemOf
  have hcut : (name.reverse.dropWhile (· != '.')).reverse <+: name :=
    List.reverse_suffix.mp (by simpa using List.dropWhile_suffix (l := name.reverse) (· != '.'))
  split
  · exact List.prefix_refl name
  · exact List.prefix_refl name
  · exact (List.dropLast_prefix _).trans hcut

namespace Conventions

variable {c : Conventions}

/-- The fixed start and four decimal digits. -/
def IsIdentifier (c : Conventions) (s : List Char) : Prop :=
  ∃ digits, digits.length = 4 ∧ (∀ d ∈ digits, isDecimalDigit d = true) ∧
    s = c.identifierPrefix.toList ++ digits

theorem IsIdentifier.length_eq {s : List Char} (h : c.IsIdentifier s) :
    s.length = c.identifierPrefix.toList.length + 4 := by
  obtain ⟨digits, hlength, -, rfl⟩ := h
  rw [List.length_append, hlength]

/-- An identifier has no mark that the fixed start does not have. -/
theorem IsIdentifier.not_mem {s : List Char} (h : c.IsIdentifier s) {mark : Char}
    (hdigit : isDecimalDigit mark = false) (hmark : mark ∉ c.identifierPrefix.toList) :
    mark ∉ s := by
  obtain ⟨digits, -, hdigits, rfl⟩ := h
  rw [List.mem_append, not_or]
  refine ⟨hmark, fun hmem => ?_⟩
  rw [hdigits mark hmem] at hdigit
  cases hdigit

theorem splitIdentifier?_eq_some_iff {s identifier r : List Char} :
    c.splitIdentifier? s = some (identifier, r) ↔ c.IsIdentifier identifier ∧ s = identifier ++ r := by
  unfold splitIdentifier?
  constructor
  · intro hsplit
    split at hsplit
    · next d₁ d₂ d₃ d₄ rest hdrop =>
      split at hsplit
      · next hdigits =>
        obtain ⟨rfl, rfl⟩ := Prod.mk.inj (Option.some.inj hsplit)
        rw [Text.dropStart?_eq_some_iff] at hdrop
        refine ⟨⟨[d₁, d₂, d₃, d₄], rfl, List.all_eq_true.mp hdigits, rfl⟩, ?_⟩
        rw [hdrop, List.append_assoc]
        rfl
      · cases hsplit
    · cases hsplit
  · rintro ⟨⟨digits, hlength, hdigits, rfl⟩, rfl⟩
    match digits, hlength with
    | [d₁, d₂, d₃, d₄], _ =>
      have hdrop : Text.dropStart? c.identifierPrefix.toList
          (c.identifierPrefix.toList ++ [d₁, d₂, d₃, d₄] ++ r) = some (d₁ :: d₂ :: d₃ :: d₄ :: r) := by
        rw [Text.dropStart?_eq_some_iff, List.append_assoc]
        rfl
      simp only [hdrop]
      rw [if_pos (List.all_eq_true.mpr hdigits)]

theorem splitStem?_eq_some_iff {stem identifier title : List Char} :
    c.splitStem? stem = some (identifier, title) ↔
      c.IsIdentifier identifier ∧ title ≠ [] ∧ '\n' ∉ title ∧ stem = identifier ++ '_' :: title := by
  have hline : ∀ s : List Char, s.all (· != '\n') = true ↔ '\n' ∉ s := by
    intro s
    simp [List.all_eq_true, List.forall_mem_ne']
  unfold splitStem?
  constructor
  · intro hsplit
    split at hsplit
    · next found rest hfound =>
      obtain ⟨hidentifier, rfl⟩ := splitIdentifier?_eq_some_iff.mp hfound
      split at hsplit
      · next htitle =>
        obtain ⟨rfl, rfl⟩ := Prod.mk.inj (Option.some.inj hsplit)
        exact ⟨hidentifier, htitle.1, (hline _).mp htitle.2, rfl⟩
      · cases hsplit
    · cases hsplit
  · rintro ⟨hidentifier, hne, htitle, rfl⟩
    rw [splitIdentifier?_eq_some_iff.mpr ⟨hidentifier, rfl⟩]
    simp only
    rw [if_pos ⟨hne, (hline _).mpr htitle⟩]

/-- The name of a file with an identifier starts with it and an underscore. -/
theorem exists_name_of_fileIdentifier {p : Path} {identifier : String}
    (h : c.fileIdentifier? p = some identifier) :
    c.IsIdentifier identifier.toList ∧ ∃ name rest, p.fileName? = some name ∧
      name.toList = identifier.toList ++ '_' :: rest := by
  unfold fileIdentifier? splitFileName? Path.fileStem? at h
  cases hname : p.fileName? with
  | none => simp [hname] at h
  | some name =>
    simp only [hname, Option.map_some, Option.bind_some, String.toList_ofList, Option.map_map,
      Option.map_eq_some_iff, Prod.exists, Function.comp_apply] at h
    obtain ⟨found, title, hsplit, rfl⟩ := h
    obtain ⟨hidentifier, -, -, hstem⟩ := splitStem?_eq_some_iff.mp hsplit
    obtain ⟨extension, hextension⟩ := Path.stemOf_prefix name.toList
    rw [String.toList_ofList]
    refine ⟨hidentifier, name, title ++ extension, rfl, ?_⟩
    rw [← hextension, hstem, List.append_assoc]
    rfl

end Conventions

end SopDocs
