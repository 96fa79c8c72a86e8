import SopDocs.Proofs.Glossary
import SopDocs.Proofs.Lint.Severity

/-!
# Terms of a document and of the charter

The terms of a document are read off its first glossary table. Those that the charter does not have
are told one by one in ascending order, so that nothing is told exactly if the charter has them all.
-/

namespace SopDocs.Lint

open SopDocs.Tree

/-- The terms of a glossary that another does not have. -/
def missingTerms (glossary charter : Glossary) : List String :=
  glossary.terms.filter fun term => !charter.contains term

variable {glossary charter : Glossary}

theorem mem_missingTerms_iff {term : String} :
    term ∈ missingTerms glossary charter ↔ term ∈ glossary.terms ∧ term ∉ charter.terms := by
  unfold missingTerms
  rw [List.mem_filter, Bool.not_eq_true', ← Bool.not_eq_true, Glossary.contains_iff]

theorem missingTerms_eq_nil_iff :
    missingTerms glossary charter = [] ↔ ∀ term ∈ glossary.terms, term ∈ charter.terms := by
  unfold missingTerms
  simp only [List.filter_eq_nil_iff, Bool.not_eq_true', Bool.not_eq_false, Glossary.contains_iff]

theorem pairwise_missingTerms (h : glossary.terms.Pairwise (· < ·)) (charter : Glossary) :
    (missingTerms glossary charter).Pairwise (· < ·) :=
  h.filter _

/-- All of them are errors. -/
theorem ofProblems_strayTerms (glossary charter : Glossary) (strict : Bool) :
    Findings.ofProblems strict (strayTerms glossary charter) =
      ⟨(missingTerms glossary charter).map fun term =>
        s!"Glossary term '{term}' is not defined in the charter glossary.", []⟩ := by
  have herrors : ∀ p ∈ strayTerms glossary charter, p.isError = true :=
    List.forall_mem_map.mpr fun _ _ => rfl
  have hmessages : (strayTerms glossary charter).map Problem.message =
      (missingTerms glossary charter).map fun term =>
        s!"Glossary term '{term}' is not defined in the charter glossary." := List.map_map
  rw [Findings.ofProblems_of_isError herrors, hmessages]

theorem isEmpty_strayTerms_iff {strict : Bool} :
    (Findings.ofProblems strict (strayTerms glossary charter)).isEmpty = true ↔
      ∀ term ∈ glossary.terms, term ∈ charter.terms := by
  rw [Findings.isEmpty_ofProblems, ← missingTerms_eq_nil_iff]
  exact List.map_eq_nil_iff

/-- **The glossary is that of the first glossary table**: its terms are the first cells that are not
empty, each with the second cell of the last row that has it, in ascending order. Told are exactly
the terms that the charter does not have, each once and in this order. -/
theorem glossary_reported (root : Node) :
    (∀ term, (Glossary.ofTree root).contains term = true ↔ term ≠ "" ∧
      ∃ table, FirstTable glossaryHeader root table ∧
        ∃ row ∈ table.bodyRows, row.head? = some term) ∧
    (∀ term definition, (Glossary.ofTree root).definition? term = some definition ↔ term ≠ "" ∧
      ∃ table before row after, FirstTable glossaryHeader root table ∧
        table.bodyRows = before ++ row :: after ∧ row.head? = some term ∧
        (∀ later ∈ after, later.head? ≠ some term) ∧ row[1]?.getD "" = definition) ∧
    (Glossary.ofTree root).terms.Pairwise (· < ·) ∧
    (∀ term, term ∈ (Glossary.ofTree root).terms ↔
      (Glossary.ofTree root).contains term = true) ∧
    ∀ ctx strict, ∃ missing : List String,
      Rule.charterGlossary.check ctx strict .empty = ⟨missing.map fun term =>
        s!"Glossary term '{term}' is not defined in the charter glossary.", []⟩ ∧
      (∀ term, term ∈ missing ↔
        term ∈ (Glossary.ofTree ctx.root).terms ∧ term ∉ ctx.charter.terms) ∧
      missing.Pairwise (· < ·) ∧
      ((Rule.charterGlossary.check ctx strict .empty).isEmpty = true ↔
        ∀ term ∈ (Glossary.ofTree ctx.root).terms, term ∈ ctx.charter.terms) := by
  refine ⟨fun _ => Glossary.contains_ofTree_iff, ?_, Glossary.pairwise_terms_ofTree root,
    fun _ => Glossary.contains_iff.symm, ?_⟩
  · intro term definition
    rw [Glossary.definition?_ofTree_eq_some_iff]
    apply and_congr_right
    intro _
    constructor
    · rintro ⟨table, row, hfirst, hrow, hcell⟩
      obtain ⟨hterm, before, after, hrows, hafter⟩ := Glossary.lastRow?_eq_some_iff.mp hrow
      exact ⟨table, before, row, after, hfirst, hrows, hterm, hafter, hcell⟩
    · rintro ⟨table, before, row, after, hfirst, hrows, hterm, hafter, hcell⟩
      have hrow := Glossary.lastRow?_eq_some_iff.mpr ⟨hterm, before, after, hrows, hafter⟩
      exact ⟨table, row, hfirst, hrow, hcell⟩
  · intro ctx strict
    exact ⟨missingTerms ctx.glossary ctx.charter,
      ofProblems_strayTerms ctx.glossary ctx.charter strict, fun _ => mem_missingTerms_iff,
      pairwise_missingTerms (Glossary.pairwise_terms_ofTree ctx.root) ctx.charter,
      isEmpty_strayTerms_iff⟩

end SopDocs.Lint
