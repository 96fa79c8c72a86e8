import Mathlib.Data.List.Nodup
import SopDocs.Proofs.Lint.Severity
import SopDocs.Proofs.Text.Slice
import SopDocs.Proofs.Tree.Section

/-!
# A required section is missing, blank or neither

One rule reports the sections that are not found, another those that are found and blank. Both look
a section up in the same way, so no section is reported by both. What is reported is its label, so
as long as the labels differ no label is reported by both either.
-/

namespace SopDocs.Lint

open SopDocs.Tree

/-- A section is missing: no heading below the root is one that its locator finds. -/
def Missing (root : Node) (locator : Locator) : Prop :=
  ∀ heading ∈ root.findAll .header, ¬ locator.Finds heading

/-- A section is there, and all its nodes have no text but white space. -/
def Blank (root : Node) (locator : Locator) : Prop :=
  ∃ place content, FirstAt root locator place ∧ SectionAt place locator.depth content ∧
    ∀ node ∈ content, ∀ c ∈ node.plainText.toList, Text.isBlank c = true

variable {root : Node} {locator : Locator}

theorem isBlankNode_iff {node : Node} :
    isBlankNode node = true ↔ ∀ c ∈ node.plainText.toList, Text.isBlank c = true := by
  unfold isBlankNode
  rw [beq_iff_eq, Text.trim_eq_nil_iff]

theorem isBlankSection_iff {s : RequiredSection} :
    isBlankSection root s = true ↔ Blank root s.locator := by
  have hsection : ∀ content, root.section? s.locator = some content ↔
      ∃ place, FirstAt root s.locator place ∧ SectionAt place s.locator.depth content :=
    fun _ => Node.section?_eq_some_iff
  unfold isBlankSection Blank
  cases hfound : root.section? s.locator with
  | none =>
    refine ⟨nofun, ?_⟩
    rintro ⟨place, content, hplace, hcontent, -⟩
    have hsome := (hsection content).mpr ⟨place, hplace, hcontent⟩
    rw [hfound] at hsome
    cases hsome
  | some nodes =>
    simp only [List.all_eq_true, isBlankNode_iff]
    constructor
    · intro hblank
      obtain ⟨place, hplace, hcontent⟩ := (hsection nodes).mp hfound
      exact ⟨place, nodes, hplace, hcontent, hblank⟩
    · rintro ⟨place, content, hplace, hcontent, hblank⟩
      have hsome := (hsection content).mpr ⟨place, hplace, hcontent⟩
      obtain rfl : nodes = content := Option.some.inj (hfound.symm.trans hsome)
      exact hblank

theorem Missing.not_blank (h : Missing root locator) : ¬ Blank root locator := by
  rintro ⟨place, content, hplace, hcontent, -⟩
  have hsome := Node.section?_eq_some_iff.mpr ⟨place, hplace, hcontent⟩
  rw [Node.section?_eq_none_iff.mpr h] at hsome
  cases hsome

/-! ### Labels -/

section Reports

variable {rule : Rule} {ctx : Context} {test : RequiredSection → Bool} {P : Locator → Prop}
  {problem : RequiredSection → Problem} {before after : String}

/-- A rule that tells the labels of the sections that pass a test, all in one wording. -/
theorem mem_errors_iff
    (hproblems : rule.problems ctx = (ctx.conventions.requiredSections.filter test).map problem)
    (herror : ∀ s, (problem s).isError = true)
    (hmessage : ∀ s, (problem s).message = before ++ s.label ++ after)
    (htest : ∀ s, test s = true ↔ P s.locator) (strict : Bool) (label : String) :
    before ++ label ++ after ∈ (rule.check ctx strict .empty).errors ↔
      ∃ s ∈ ctx.conventions.requiredSections, s.label = label ∧ P s.locator := by
  have herrors : ∀ p ∈ rule.problems ctx, p.isError = true := by
    rw [hproblems]
    exact List.forall_mem_map.mpr fun s _ => herror s
  rw [Rule.check_of_isError herrors, hproblems, List.map_map, List.mem_map]
  constructor
  · rintro ⟨s, hs, htold⟩
    obtain ⟨hs, hpasses⟩ := List.mem_filter.mp hs
    have hlabel : s.label = label := Text.around_inj ((hmessage s).symm.trans htold)
    exact ⟨s, hs, hlabel, (htest s).mp hpasses⟩
  · rintro ⟨s, hs, rfl, hpasses⟩
    exact ⟨s, List.mem_filter.mpr ⟨hs, (htest s).mpr hpasses⟩, hmessage s⟩

variable (ctx) (strict : Bool) (label : String)

theorem mem_requiredSections_iff :
    s!"Required section '{label}' is missing." ∈
        (Rule.requiredSections.check ctx strict .empty).errors ↔
      ∃ s ∈ ctx.conventions.requiredSections, s.label = label ∧ Missing ctx.root s.locator := by
  have hmissing : ∀ s : RequiredSection,
      (ctx.root.section? s.locator).isNone = true ↔ Missing ctx.root s.locator := by
    intro s
    rw [Option.isNone_iff_eq_none]
    exact Node.section?_eq_none_iff
  exact mem_errors_iff rfl (fun _ => rfl) (fun _ => rfl) hmissing strict label

theorem mem_nonEmptySections_iff :
    s!"The section '{label}' is empty." ∈
        (Rule.nonEmptySections.check ctx strict .empty).errors ↔
      ∃ s ∈ ctx.conventions.requiredSections, s.label = label ∧ Blank ctx.root s.locator := by
  have hblank : ∀ s : RequiredSection, isBlankSection ctx.root s = true ↔
      Blank ctx.root s.locator := fun _ => isBlankSection_iff
  exact mem_errors_iff rfl (fun _ => rfl) (fun _ => rfl) hblank strict label

end Reports

theorem nodup_labels (config : Config) :
    ((Conventions.ofConfig config).requiredSections.map (·.label)).Nodup := by
  show (Tree.requiredSections.map (·.label)).Nodup
  decide

/-- **A section is that of the first heading of its locator, in document order**, and the rules on
required sections see the same sections: one tells the labels of those that no heading below the
root begins, the other those that are there and blank. Of different labels none is told by both. -/
theorem sections_reported (ctx : Context) (strict : Bool) :
    (∀ locator,
      ((ctx.root.section? locator).isSome = true ↔
        ∃ heading ∈ ctx.root.findAll .header, locator.Finds heading) ∧
      ∀ content, ctx.root.section? locator = some content ↔
        ∃ place, FirstAt ctx.root locator place ∧ SectionAt place locator.depth content) ∧
    (∀ locator place, FirstAt ctx.root locator place →
      ctx.root.section? locator = some place.range) ∧
    ctx.root.headings.map Place.node = ctx.root.findAll .header ∧
    (∀ place ∈ ctx.root.headings, place.siblings = ctx.root.children ∨
      ∃ parent ∈ ctx.root.descendants, place.siblings = parent.children) ∧
    (∀ label : String,
      s!"Required section '{label}' is missing." ∈
          (Rule.requiredSections.check ctx strict .empty).errors ↔
        ∃ s ∈ ctx.conventions.requiredSections, s.label = label ∧
          ∀ heading ∈ ctx.root.findAll .header, ¬ s.locator.Finds heading) ∧
    (∀ label : String,
      s!"The section '{label}' is empty." ∈
          (Rule.nonEmptySections.check ctx strict .empty).errors ↔
        ∃ s ∈ ctx.conventions.requiredSections, s.label = label ∧
          ∃ place content, FirstAt ctx.root s.locator place ∧
            SectionAt place s.locator.depth content ∧
            ∀ node ∈ content, ∀ c ∈ node.plainText.toList, Text.isBlank c = true) ∧
    ((ctx.conventions.requiredSections.map (·.label)).Nodup → ∀ label : String,
      s!"Required section '{label}' is missing." ∈
          (Rule.requiredSections.check ctx strict .empty).errors →
        s!"The section '{label}' is empty." ∉
          (Rule.nonEmptySections.check ctx strict .empty).errors) ∧
    ∀ config, ((Conventions.ofConfig config).requiredSections.map (·.label)).Nodup := by
  refine ⟨fun locator => ⟨?_, fun content => Node.section?_eq_some_iff⟩,
    fun locator place hplace => hplace.section?_eq, ctx.root.map_node_headings, ?_,
    mem_requiredSections_iff ctx strict, mem_nonEmptySections_iff ctx strict, ?_, nodup_labels⟩
  · have hnone : ctx.root.section? locator = none ↔ Missing ctx.root locator :=
      Node.section?_eq_none_iff
    rw [Option.isSome_iff_ne_none, Ne, hnone]
    simp only [Missing, not_forall, not_not, exists_prop]
  · intro place hplace
    exact ctx.root.siblings_of_mem_places (List.mem_filter.mp hplace).1
  · intro hlabels label hmissing hblank
    obtain ⟨s, hs, hlabel, hmissing⟩ := (mem_requiredSections_iff ctx strict label).mp hmissing
    obtain ⟨t, ht, hlabel', hblank⟩ := (mem_nonEmptySections_iff ctx strict label).mp hblank
    obtain rfl : s = t := List.inj_on_of_nodup_map hlabels hs ht (hlabel.trans hlabel'.symm)
    exact hmissing.not_blank hblank

end SopDocs.Lint
