import SopDocs.Index.Entry
import SopDocs.Proofs.Lint.Title
import SopDocs.Proofs.Markdown.Link

/-!
# Links to documents

The index links each document by the text of its path and labels the link with its file stem, both
as they are written. The link is one to that path exactly if the path is its own destination: blanks
and parentheses that do not nest end a destination early, and a backslash before punctuation or a
character reference stands for another character.
-/

namespace SopDocs.Index

open SopDocs.Markdown (OwnLabel OwnDestination IsLinkDocument Tabless)

theorem toList_documentLink {path : Path} {stem : String} (hstem : path.fileStem? = some stem) :
    (documentLink path).toList =
      '[' :: (stem.toList ++ ']' :: '(' :: (path.text.toList ++ [')'])) := by
  simp [documentLink, hstem, toString]

theorem text_ne_nil {path : Path} {stem : String} (hstem : path.fileStem? = some stem) :
    path.text.toList ≠ [] := by
  intro h
  have hempty : path = ⟨""⟩ := by
    cases path with
    | mk text => exact congrArg Path.mk (String.toList_eq_nil_iff.mp h)
  rw [hempty] at hstem
  cases hstem

/-- **The link to a document with a proper file name leads to its path exactly if the path is its own
destination**, where the file stem is read as it is written. -/
theorem documentLink_iff {ctx : Lint.Context} (hname : Lint.Rule.fileName.Silent ctx)
    (htabless : Tabless ctx.path.text.toList) :
    ∃ stem, ctx.path.fileStem? = some stem ∧
      (OwnLabel stem.toList →
        (IsLinkDocument (Markdown.parse (documentLink ctx.path)) ctx.path.text stem ↔
          OwnDestination ctx.path.text.toList)) := by
  obtain ⟨identifier, title, hsplit⟩ := Lint.exists_split_of_silent hname
  obtain ⟨stem, hstem, -, htitle, -, rfl⟩ := Conventions.splitFileName?_eq_some_iff.mp hsplit
  refine ⟨_, hstem, fun hown => ?_⟩
  have hlabel : (identifier ++ "_" ++ title).toList ≠ [] := by simp
  have hiff := Markdown.isLinkDocument_iff (toList_documentLink hstem) hown hlabel
    (text_ne_nil hstem) htabless
  rw [String.ofList_toList, String.ofList_toList] at hiff
  exact hiff

theorem documentLink_dataAccess :
    Lint.Rule.fileName.Silent
        (Lint.headedContext "european-level/GDI-SOP0001_data-access.md" "") ∧
      Tabless "european-level/GDI-SOP0001_data-access.md".toList ∧
      IsLinkDocument
        (Markdown.parse (documentLink ⟨"european-level/GDI-SOP0001_data-access.md"⟩))
        "european-level/GDI-SOP0001_data-access.md" "GDI-SOP0001_data-access" := by
  have hname : Lint.Rule.fileName.Silent
      (Lint.headedContext "european-level/GDI-SOP0001_data-access.md" "") :=
    Lint.Rule.silent_iff.mpr (List.isEmpty_iff.mp (by decide))
  have htabless : Tabless "european-level/GDI-SOP0001_data-access.md".toList :=
    ⟨by decide, by decide⟩
  obtain ⟨stem, hstem, hiff⟩ := documentLink_iff hname htabless
  obtain rfl : stem = "GDI-SOP0001_data-access" :=
    Option.some.inj (hstem.symm.trans (by decide))
  have hown : OwnLabel ("GDI-SOP0001".toList ++ '_' :: "data-access".toList) :=
    Markdown.ownLabel_of_unmarked (by decide) (by decide)
  exact ⟨hname, htabless,
    (hiff hown).mpr (Markdown.ownDestination_of_unmarked (by decide))⟩

/-- A path with a blank is no destination, so that the document has no link at all; and a title that
is written as emphasis is shown without its marks. -/
theorem documentLink_broken :
    ¬ (∀ ctx : Lint.Context, Lint.Rule.fileName.Silent ctx → ∀ stem,
      ctx.path.fileStem? = some stem →
        IsLinkDocument (Markdown.parse (documentLink ctx.path)) ctx.path.text stem) ∧
      (Markdown.parse (documentLink ⟨"my docs/GDI-SOP0001_x.md"⟩)).findAll .link = [] ∧
      (Markdown.parse (documentLink ⟨"sops/GDI-SOP0001_*x*.md"⟩)).plainText = "GDI-SOP0001_x" := by
  have hblank : (Markdown.parse (documentLink ⟨"my docs/GDI-SOP0001_x.md"⟩)).findAll .link = [] :=
    List.isEmpty_iff.mp (by decide +kernel)
  refine ⟨fun hlinked => ?_, hblank, by decide +kernel⟩
  have hname : Lint.Rule.fileName.Silent (Lint.headedContext "my docs/GDI-SOP0001_x.md" "") :=
    Lint.Rule.silent_iff.mpr (List.isEmpty_iff.mp (by decide))
  obtain ⟨paragraph, link, -, -, -, -, -, -, hlinks⟩ :=
    hlinked _ hname "GDI-SOP0001_x" (by decide)
  cases hblank.symm.trans hlinks

end SopDocs.Index
