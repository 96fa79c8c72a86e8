import Mathlib
import SopDocs.Proofs.Calendar
import SopDocs.Proofs.Index.CleanDocument
import SopDocs.Proofs.Version

/-!
# A history without problems is ordered as a whole

The rule compares a row with the row above it and with no other. What it asks of two
neighbours says that a rank falls from the upper to the lower one: the template version
first, then the instance version, where no instance version ranks below every other. A
rank that falls at each step falls over any distance, so that rows far apart are in
order too and no two rows carry the same versions.
-/

namespace SopDocs.Lint

/-! ### Rows -/

/-- An empty cell holds no instance version, another cell the one that it spells. -/
def InstanceCell (cell : String) : Option Version → Prop
  | none => cell = ""
  | some v => cell ≠ "" ∧ Version.parse? cell = some v

/-- A row that is well formed by itself, with its versions. -/
inductive SoundRow : Tree.Row → RowVersions → Prop
  | intro {template instanceCell author description date : String} {v : RowVersions}
      (htemplate : Version.parse? template = some v.template)
      (hinstance : InstanceCell instanceCell v.ofInstance)
      (hauthor : author ≠ "") (hdescription : description ≠ "")
      (hdate : Date.StartsWithDate date) :
      SoundRow [template, instanceCell, author, description, date] v

/-- The versions of two rows, the second of which may stand right below the first. -/
structure Follows (above below : RowVersions) : Prop where
  template : below.template.rank ≤ above.template.rank
  repeated : below.template.rank = above.template.rank → above.ofInstance ≠ none
  instances : ∀ i ∈ above.ofInstance, ∀ j ∈ below.ofInstance, j.rank < i.rank

theorem instanceCell?_eq_some_iff {cell : String} {o : Option Version} :
    instanceCell? cell = some o ↔ InstanceCell cell o := by
  unfold instanceCell?
  by_cases hcell : cell = ""
  · cases o <;> simp [InstanceCell, hcell]
  · cases o <;> simp [InstanceCell, hcell]

theorem rowVersions?_eq_some_iff {template instanceCell : String} {v : RowVersions} :
    rowVersions? template instanceCell = some v ↔
      Version.parse? template = some v.template ∧ InstanceCell instanceCell v.ofInstance := by
  rw [← instanceCell?_eq_some_iff]
  unfold rowVersions?
  split
  · next t i ht hi =>
    rw [ht, hi]
    constructor
    · rintro ⟨⟩
      exact ⟨rfl, rfl⟩
    · rintro ⟨ht', hi'⟩
      rw [Option.some.inj ht', Option.some.inj hi']
  · next hnone =>
    refine ⟨nofun, ?_⟩
    rintro ⟨ht, hi⟩
    exact absurd hi (hnone _ _ ht)

theorem SoundRow.versions_unique {row : Tree.Row} {v w : RowVersions} (hv : SoundRow row v)
    (hw : SoundRow row w) : v = w := by
  obtain ⟨hvTemplate, hvInstance, -, -, -⟩ := hv
  obtain ⟨hwTemplate, hwInstance, -, -, -⟩ := hw
  have hv := rowVersions?_eq_some_iff.mpr ⟨hvTemplate, hvInstance⟩
  have hw := rowVersions?_eq_some_iff.mpr ⟨hwTemplate, hwInstance⟩
  exact Option.some.inj (hv.symm.trans hw)

/-! ### One row below another -/

/-- The order of two rows is in order exactly if the lower one may follow the upper one. -/
theorem orderProblems_eq_nil_iff {above below : RowVersions} {row : Tree.Row} :
    orderProblems above below row = [] ↔ Follows above below := by
  have htemplate := Version.compare_compares below.template above.template
  have hfirst : (below.template.compare above.template = .gt ∨
      (below.template.compare above.template = .eq ∧ above.ofInstance.isNone = true)) ↔
      ¬ (below.template.rank ≤ above.template.rank ∧
        (below.template.rank = above.template.rank → above.ofInstance ≠ none)) := by
    rw [← htemplate.ne_gt, ← htemplate.eq_eq, Option.isNone_iff_eq_none]
    tauto
  have hsecond : ∀ i j : Version, (j.compare i).isGE = true ↔ ¬ j.rank < i.rank := by
    intro i j
    have hlt : j.compare i = .lt ↔ j.rank < i.rank := (Version.compare_compares j i).eq_lt
    rw [← hlt]
    cases j.compare i <;> decide
  unfold orderProblems
  simp only [List.append_eq_nil_iff, hfirst, ite_eq_right_iff, List.cons_ne_nil, imp_false,
    not_not]
  constructor
  · rintro ⟨⟨hle, hrepeated⟩, hinstances⟩
    refine ⟨hle, hrepeated, ?_⟩
    intro i hi j hj
    rw [Option.mem_def] at hi hj
    rw [hi, hj] at hinstances
    simpa [hsecond] using hinstances
  · intro h
    refine ⟨⟨h.template, h.repeated⟩, ?_⟩
    split
    · next j i hj hi =>
      have hlt := h.instances i hi j hj
      simp [hsecond, hlt]
    · rfl

theorem versionProblems_eq_nil_iff {above : Option RowVersions} {template instanceCell : String}
    {row : Tree.Row} :
    versionProblems above template instanceCell row = [] ↔
      ∃ v, rowVersions? template instanceCell = some v ∧ ∀ a ∈ above, Follows a v := by
  unfold versionProblems rowVersions? Version.isValid
  cases Version.parse? template with
  | none => simp
  | some t =>
    cases instanceCell? instanceCell with
    | none => simp
    | some i =>
      cases above with
      | none => simp
      | some a => simp [orderProblems_eq_nil_iff]

/-- **What one row amounts to**: it is sound and may follow the row that it is compared with. -/
theorem historyRowProblems_eq_nil_iff {above : Option RowVersions} {row : Tree.Row} :
    historyRowProblems above row = [] ↔ ∃ v, SoundRow row v ∧ ∀ a ∈ above, Follows a v := by
  unfold historyRowProblems
  split
  · next template instanceCell author description date =>
    simp only [List.append_eq_nil_iff, versionProblems_eq_nil_iff, ite_eq_left_iff,
      ite_eq_right_iff, List.cons_ne_nil, imp_false, not_not, Date.startsLikeDate_iff]
    constructor
    · rintro ⟨⟨⟨⟨v, hv, hfollows⟩, hauthor⟩, hdescription⟩, hdate⟩
      obtain ⟨htemplate, hinstance⟩ := rowVersions?_eq_some_iff.mp hv
      exact ⟨v, .intro htemplate hinstance hauthor hdescription hdate, hfollows⟩
    · rintro ⟨v, ⟨htemplate, hinstance, hauthor, hdescription, hdate⟩, hfollows⟩
      have hv := rowVersions?_eq_some_iff.mpr ⟨htemplate, hinstance⟩
      exact ⟨⟨⟨⟨v, hv, hfollows⟩, hauthor⟩, hdescription⟩, hdate⟩
  · next hlength =>
    refine ⟨nofun, ?_⟩
    rintro ⟨v, ⟨⟩, -⟩
    exact absurd rfl (hlength _ _ _ _ _)

theorem SoundRow.versionsBelow {above : Option RowVersions} {row : Tree.Row} {v : RowVersions}
    (h : SoundRow row v) : versionsBelow above row = some v := by
  obtain ⟨htemplate, hinstance, -, -, -⟩ := h
  unfold Lint.versionsBelow
  simp only [rowVersions?_eq_some_iff.mpr ⟨htemplate, hinstance⟩]

/-! ### All rows -/

/-- Without problems the row compared with is the row right above, so that the comparisons
are those of neighbours. -/
theorem historyProblems_eq_nil_iff {above : Option RowVersions} {rows : List Tree.Row} :
    historyProblems above rows = [] ↔
      ∃ versions, List.Forall₂ SoundRow rows versions ∧
        (above.toList ++ versions).IsChain Follows := by
  induction rows generalizing above with
  | nil =>
    simp only [historyProblems, List.forall₂_nil_left_iff, exists_eq_left, List.append_nil,
      true_iff]
    cases above <;> simp
  | cons row rows ih =>
    have hchain : ∀ v versions, (above.toList ++ v :: versions).IsChain Follows ↔
        (∀ a ∈ above, Follows a v) ∧ (v :: versions).IsChain Follows := by
      intro v versions
      cases above with
      | none => simp
      | some a => simp [List.isChain_cons_cons]
    rw [historyProblems, List.append_eq_nil_iff, historyRowProblems_eq_nil_iff]
    constructor
    · rintro ⟨⟨v, hv, hfollows⟩, hrest⟩
      rw [hv.versionsBelow, ih] at hrest
      obtain ⟨versions, hversions, hordered⟩ := hrest
      exact ⟨v :: versions, .cons hv hversions, (hchain v versions).mpr ⟨hfollows, hordered⟩⟩
    · rintro ⟨versions, hversions, hordered⟩
      obtain ⟨v, others, hv, hothers, rfl⟩ := List.forall₂_cons_left_iff.mp hversions
      obtain ⟨hfollows, hordered⟩ := (hchain v others).mp hordered
      refine ⟨⟨v, hv, hfollows⟩, ?_⟩
      rw [hv.versionsBelow, ih]
      exact ⟨others, hothers, hordered⟩

/-! ### Rows far apart -/

/-- The place of an instance version; to have none is below every other place. -/
def instanceRank : Option Version → WithBot (Lex (Nat → Nat))
  | none => ⊥
  | some v => v.rank

/-- The place of a row: its template version first, then its instance version. -/
def RowVersions.rank (v : RowVersions) : Lex (Nat → Nat) ×ₗ WithBot (Lex (Nat → Nat)) :=
  toLex (v.template.rank, instanceRank v.ofInstance)

/-- The rank falls from a row to the row right below. -/
theorem Follows.rank_lt {above below : RowVersions} (h : Follows above below) :
    below.rank < above.rank := by
  refine Prod.Lex.toLex_lt_toLex.mpr ?_
  rcases h.template.lt_or_eq with hlt | heq
  · exact Or.inl hlt
  · refine Or.inr ⟨heq, ?_⟩
    obtain ⟨i, hi⟩ := Option.ne_none_iff_exists'.mp (h.repeated heq)
    cases hj : below.ofInstance with
    | none =>
      rw [hi]
      exact WithBot.bot_lt_coe _
    | some j =>
      rw [hi]
      exact WithBot.coe_lt_coe.mpr (h.instances i hi j hj)

theorem pairwise_rank_lt {versions : List RowVersions} (h : versions.IsChain Follows) :
    versions.Pairwise fun above below => below.rank < above.rank := by
  have : Trans (fun a b : RowVersions => b.rank < a.rank)
      (fun a b : RowVersions => b.rank < a.rank) (fun a b : RowVersions => b.rank < a.rank) :=
    ⟨fun hab hbc => hbc.trans hab⟩
  exact List.isChain_iff_pairwise.mp (h.imp fun _ _ hfollows => hfollows.rank_lt)

/-- The rule accepts a history exactly if its rows are sound and each may follow the one above. -/
theorem isEmpty_check_documentHistory {ctx : Context} {strict : Bool} {table : Tree.Node}
    (htable : Tree.tableWith? Tree.historyHeader ctx.root = some table) :
    (Rule.documentHistory.check ctx strict .empty).isEmpty = true ↔
      ∃ versions, List.Forall₂ SoundRow (History.rows table) versions ∧
        versions.IsChain Follows := by
  have hproblems : Rule.documentHistory.problems ctx =
      historyProblems none (History.rows table) := by
    change documentHistory ctx = _
    unfold documentHistory
    rw [htable]
  rw [Rule.isEmpty_check, hproblems]
  exact historyProblems_eq_nil_iff

/-- **An accepted history is ordered as a whole.** It is accepted exactly if its rows are
sound and each may follow the one above. Then template versions fall or stay over any
distance, and no two rows carry the same versions. -/
theorem documentHistory_silent_iff (ctx : Context) (strict : Bool) {table : Tree.Node}
    (htable : Tree.tableWith? Tree.historyHeader ctx.root = some table) :
    ((Rule.documentHistory.check ctx strict .empty).isEmpty = true ↔
      ∃ versions, List.Forall₂ SoundRow (History.rows table) versions ∧
        versions.IsChain Follows) ∧
    ((Rule.documentHistory.check ctx strict .empty).isEmpty = true →
      ∀ versions, List.Forall₂ SoundRow (History.rows table) versions →
        versions.Pairwise fun above below =>
          below.template.rank ≤ above.template.rank ∧
          (above.template.rank, instanceRank above.ofInstance) ≠
            (below.template.rank, instanceRank below.ofInstance)) := by
  refine ⟨isEmpty_check_documentHistory htable, ?_⟩
  intro hsilent versions hversions
  obtain ⟨others, hothers, hordered⟩ := (isEmpty_check_documentHistory htable).mp hsilent
  have hunique : Relator.RightUnique SoundRow := fun _ _ _ hv hw => hv.versions_unique hw
  rw [hunique.forall₂ hothers hversions] at hordered
  refine (pairwise_rank_lt hordered).imp ?_
  intro above below hlt
  refine ⟨?_, ?_⟩
  · rcases Prod.Lex.toLex_lt_toLex.mp hlt with hlt | ⟨heq, -⟩
    · exact hlt.le
    · exact heq.le
  · intro heq
    exact hlt.ne (congrArg toLex heq).symm

/-- A document with two revisions of one template version, spelled differently, above the
version itself. -/
def revisedDocument : Context where
  path := ⟨"node-specific/GDI-SOP0002_access.md"⟩
  root := ⟨.document, ⟨0, 0⟩, none, .none, [
    textTable [Tree.historyHeader,
      ["v1.10", "", "A", "Second version", "2024.05.01"],
      ["1.2", "v2", "B", "Node changed", "2024.04.31 (draft)"],
      ["v1.2.0", "V1.9", "B", "Node added", "2024.03.01"],
      ["`v1.2`", "", "A", "First version", "`2024.01.01`"]]]⟩
  conventions := .ofConfig .standard
  inputs := []
  charter := .empty
  found := fun _ => false
  probe := none

theorem documentHistory_silent_revisedDocument :
    ∃ table, Tree.tableWith? Tree.historyHeader revisedDocument.root = some table ∧
      (History.rows table).length = 4 ∧
      (Rule.documentHistory.check revisedDocument true .empty).isEmpty = true ∧
      ∃ versions, List.Forall₂ SoundRow (History.rows table) versions ∧
        versions.IsChain Follows ∧
        versions.Pairwise fun above below =>
          below.template.rank ≤ above.template.rank ∧
          (above.template.rank, instanceRank above.ofInstance) ≠
            (below.template.rank, instanceRank below.ofInstance) := by
  have hlength : (Tree.tableWith? Tree.historyHeader revisedDocument.root).map
      (fun table => (History.rows table).length) = some 4 := by decide +kernel
  obtain ⟨table, htable, hrows⟩ := Option.map_eq_some_iff.mp hlength
  have hsilent : (Rule.documentHistory.check revisedDocument true .empty).isEmpty = true := by
    cbv
  obtain ⟨hiff, hfar⟩ := documentHistory_silent_iff revisedDocument true htable
  obtain ⟨versions, hversions, hordered⟩ := hiff.mp hsilent
  exact ⟨table, htable, hrows, hsilent, versions, hversions, hordered,
    hfar hsilent versions hversions⟩

end SopDocs.Lint
