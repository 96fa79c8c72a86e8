import SopDocs.Proofs.Lint.HistoryOrder

/-!
# Rows without an instance version stand between falling ones

The rule compares the instance version of a row with that of the row right above. A row without
one is compared with nothing, and neither is the row below it. So along rows that all have an
instance version these fall, and across a row that has none they may rise. Only the comparisons
across such rows are missing: if each of them falls, all instance versions of the history do.
-/

namespace SopDocs.Lint

/-- The instance version falls from one row to another, if both have one. -/
def Falls (above below : RowVersions) : Prop :=
  ∀ i ∈ above.ofInstance, ∀ j ∈ below.ofInstance, j.rank < i.rank

/-- One row of a history, the rows that follow it, and the row right below these. -/
def Stretch (versions : List RowVersions) (above : RowVersions) (between : List RowVersions)
    (below : RowVersions) : Prop :=
  (above :: (between ++ [below])) <:+: versions

variable {versions : List RowVersions}

/-- Any two rows bound a stretch. -/
theorem pairwise_falls_iff : versions.Pairwise Falls ↔
    ∀ above between below, Stretch versions above between below → Falls above below := by
  rw [List.pairwise_iff_forall_sublist]
  constructor
  · intro h above between below hstretch
    have hends : [above, below].Sublist (above :: (between ++ [below])) :=
      (List.sublist_append_right between [below]).cons_cons above
    exact h (hends.trans hstretch.sublist)
  · intro h above below hends
    obtain ⟨upper, lower, rfl, habove, hbelow⟩ := List.cons_sublist_iff.mp hends
    obtain ⟨before, first, rfl⟩ := List.append_of_mem habove
    obtain ⟨last, after, rfl⟩ := List.append_of_mem (List.singleton_sublist.mp hbelow)
    refine h above (first ++ last) below ⟨before, after, ?_⟩
    simp only [List.append_assoc, List.cons_append, List.nil_append]

theorem Stretch.isChain {above below : RowVersions} {between : List RowVersions}
    (h : Stretch versions above between below) (hordered : versions.IsChain Follows) :
    (above :: (between ++ [below])).IsChain Follows :=
  hordered.infix h

/-- A row in the middle cuts a stretch in two. -/
theorem Stretch.split {above middle below : RowVersions} {upper lower : List RowVersions}
    (h : Stretch versions above (upper ++ middle :: lower) below) :
    Stretch versions above upper middle ∧ Stretch versions middle lower below := by
  obtain ⟨before, after, hversions⟩ := h
  refine ⟨⟨before, lower ++ below :: after, ?_⟩, ⟨before ++ above :: upper, after, ?_⟩⟩
  · rw [← hversions]
    simp only [List.append_assoc, List.cons_append, List.nil_append]
  · rw [← hversions]
    simp only [List.append_assoc, List.cons_append, List.nil_append]

/-- Falling is passed on by a row that has an instance version. -/
theorem Falls.trans {above middle below : RowVersions} (h : Falls above middle)
    (h' : Falls middle below) (hmiddle : middle.ofInstance ≠ none) : Falls above below := by
  obtain ⟨k, hk⟩ := Option.ne_none_iff_exists'.mp hmiddle
  intro i hi j hj
  have hupper : k.rank < i.rank := h i hi k hk
  have hlower : j.rank < k.rank := h' k hk j hj
  exact hlower.trans hupper

/-- What holds across rows without an instance version holds across all rows: the induction goes
down a stretch, and `gap` holds the rows since the last one that has an instance version. -/
theorem falls_of_gaps
    (hgaps : ∀ above gap below, Stretch versions above gap below →
      (∀ v ∈ gap, v.ofInstance = none) → Falls above below)
    {above below : RowVersions} {gap between : List RowVersions}
    (hgap : ∀ v ∈ gap, v.ofInstance = none)
    (hstretch : Stretch versions above (gap ++ between) below) : Falls above below := by
  induction between generalizing above gap with
  | nil =>
    rw [List.append_nil] at hstretch
    exact hgaps above gap below hstretch hgap
  | cons middle between ih =>
    by_cases hmiddle : middle.ofInstance = none
    · have hlonger : ∀ v ∈ gap ++ [middle], v.ofInstance = none := by
        intro v hv
        rcases List.mem_append.mp hv with hv | hv
        · exact hgap v hv
        · rw [List.mem_singleton.mp hv]
          exact hmiddle
      apply ih hlonger
      rwa [List.append_assoc, List.singleton_append]
    · obtain ⟨hupper, hlower⟩ := hstretch.split
      have habove : Falls above middle := hgaps above gap middle hupper hgap
      have hbelow : Falls middle below := ih (List.forall_mem_nil _) hlower
      exact habove.trans hbelow hmiddle

/-- Neighbours are compared by the rule. -/
theorem falls_of_neighbours (hordered : versions.IsChain Follows) {above below : RowVersions}
    (h : Stretch versions above [] below) : Falls above below := by
  have hpair : [above, below].IsChain Follows := h.isChain hordered
  have hfollows : Follows above below := List.isChain_pair.mp hpair
  exact hfollows.instances

/-- Rows that all have an instance version let nothing rise. -/
theorem falls_of_forall (hordered : versions.IsChain Follows) {above below : RowVersions}
    {between : List RowVersions} (h : Stretch versions above between below)
    (hall : ∀ v ∈ between, v.ofInstance ≠ none) : Falls above below := by
  induction between generalizing above with
  | nil => exact falls_of_neighbours hordered h
  | cons middle between ih =>
    have hstretch : Stretch versions above ([] ++ middle :: between) below := h
    obtain ⟨hupper, hlower⟩ := hstretch.split
    have hmiddle : middle.ofInstance ≠ none := hall middle List.mem_cons_self
    have habove : Falls above middle := falls_of_neighbours hordered hupper
    have hbelow : Falls middle below :=
      ih hlower fun v hv => hall v (List.mem_cons_of_mem _ hv)
    exact habove.trans hbelow hmiddle

/-- Below a row without an instance version the template version has changed. -/
theorem template_lt_of_gap (hordered : versions.IsChain Follows) {above below : RowVersions}
    {between : List RowVersions} (h : Stretch versions above between below) {v : RowVersions}
    (hv : v ∈ between) (hnone : v.ofInstance = none) :
    below.template.rank < above.template.rank := by
  have hfall : (above :: (between ++ [below])).Pairwise
      fun above below => below.rank < above.rank := pairwise_rank_lt (h.isChain hordered)
  obtain ⟨hfirst, hrest⟩ := List.pairwise_cons.mp hfall
  have habove : v.rank < above.rank := hfirst v (List.mem_append_left _ hv)
  have hbelow : below.rank < v.rank :=
    (List.pairwise_append.mp hrest).2.2 v hv below (List.mem_singleton.mpr rfl)
  have hupper : v.template.rank ≤ above.template.rank := by
    rcases Prod.Lex.toLex_lt_toLex.mp habove with hlt | ⟨heq, -⟩
    · exact hlt.le
    · exact heq.le
  -- nothing ranks below a row of the same template version that has no instance version
  have hlower : below.template.rank < v.template.rank := by
    rcases Prod.Lex.toLex_lt_toLex.mp hbelow with hlt | ⟨-, hinstance⟩
    · exact hlt
    · rw [hnone] at hinstance
      exact absurd hinstance not_lt_bot
  exact hlower.trans_le hupper

/-- **How the instance versions of an accepted history run.** Where one does not fall, a row
without an instance version stands in between and the template version has fallen. All of them
fall exactly if they do across each stretch of rows without one. -/
theorem documentHistory_instances (ctx : Context) (strict : Bool) {table : Tree.Node}
    (htable : Tree.tableWith? Tree.historyHeader ctx.root = some table)
    (hsilent : (Rule.documentHistory.check ctx strict .empty).isEmpty = true) :
    ∃ versions, List.Forall₂ SoundRow (History.rows table) versions ∧
      (∀ above between below, Stretch versions above between below → ¬ Falls above below →
        (∃ v ∈ between, v.ofInstance = none) ∧ below.template.rank < above.template.rank) ∧
      (versions.Pairwise Falls ↔
        ∀ above gap below, Stretch versions above gap below → gap ≠ [] →
          (∀ v ∈ gap, v.ofInstance = none) → Falls above below) := by
  obtain ⟨versions, hversions, hordered⟩ := (isEmpty_check_documentHistory htable).mp hsilent
  refine ⟨versions, hversions, ?_, ?_⟩
  · intro above between below hstretch hrises
    have hgap : ∃ v ∈ between, v.ofInstance = none := by
      by_contra hnone
      exact hrises (falls_of_forall hordered hstretch fun v hv h => hnone ⟨v, hv, h⟩)
    obtain ⟨v, hv, hnone⟩ := hgap
    exact ⟨⟨v, hv, hnone⟩, template_lt_of_gap hordered hstretch hv hnone⟩
  · rw [pairwise_falls_iff]
    constructor
    · intro hall above gap below hstretch _ _
      exact hall above gap below hstretch
    · intro hgaps above between below hstretch
      have hacross : ∀ above gap below, Stretch versions above gap below →
          (∀ v ∈ gap, v.ofInstance = none) → Falls above below := by
        intro above gap below hstretch hgap
        by_cases hempty : gap = []
        · subst hempty
          exact falls_of_neighbours hordered hstretch
        · exact hgaps above gap below hstretch hempty hgap
      have hall : Stretch versions above ([] ++ between) below := hstretch
      exact falls_of_gaps hacross (List.forall_mem_nil _) hall

/-! ### A history that rises -/

/-- A history in which the instance version starts again below a row that has none. -/
def resumedDocument : Context := { revisedDocument with
  root := ⟨.document, ⟨0, 0⟩, none, .none, [
    textTable [Tree.historyHeader,
      ["v2.0", "v1", "A", "Node added", "2024.05.01"],
      ["v1.5", "", "A", "Template revised", "2024.04.01"],
      ["v1.0", "v2", "B", "Node changed", "2024.03.01"]]]⟩ }

def addedRow : RowVersions := ⟨⟨[2, 0]⟩, some ⟨[1]⟩⟩

def revisedRow : RowVersions := ⟨⟨[1, 5]⟩, none⟩

def changedRow : RowVersions := ⟨⟨[1, 0]⟩, some ⟨[2]⟩⟩

/-- Rows are sound with the versions that the rule reads in them. -/
theorem map_versionsBelow_of_sound {rows : List Tree.Row} {versions : List RowVersions}
    (h : List.Forall₂ SoundRow rows versions) :
    rows.map (versionsBelow none) = versions.map some := by
  induction h with
  | nil => rfl
  | cons hrow _ ih => rw [List.map_cons, List.map_cons, hrow.versionsBelow, ih]

theorem versions_resumedDocument : ∃ table,
    Tree.tableWith? Tree.historyHeader resumedDocument.root = some table ∧
    ∀ versions, List.Forall₂ SoundRow (History.rows table) versions →
      versions = [addedRow, revisedRow, changedRow] := by
  refine ⟨_, rfl, ?_⟩
  intro versions hversions
  have hread := map_versionsBelow_of_sound hversions
  apply List.map_injective_iff.mpr (Option.some_injective RowVersions)
  rw [← hread]
  cbv

theorem silent_resumedDocument :
    (Rule.documentHistory.check resumedDocument true .empty).isEmpty = true := by
  cbv

theorem stretch_resumed :
    Stretch [addedRow, revisedRow, changedRow] addedRow [revisedRow] changedRow :=
  List.infix_refl _

theorem not_falls_resumed : ¬ Falls addedRow changedRow := by
  intro hfalls
  have hlt : Version.rank ⟨[2]⟩ < Version.rank ⟨[1]⟩ := hfalls ⟨[1]⟩ rfl ⟨[2]⟩ rfl
  have hgt : Version.rank ⟨[1]⟩ < Version.rank ⟨[2]⟩ :=
    Version.padded_lt_of_head (by decide) [] []
  exact lt_asymm hlt hgt

/-- The rule accepts it. -/
theorem instances_rise_resumedDocument :
    ∃ table versions, Tree.tableWith? Tree.historyHeader resumedDocument.root = some table ∧
      (Rule.documentHistory.check resumedDocument true .empty).isEmpty = true ∧
      List.Forall₂ SoundRow (History.rows table) versions ∧ ¬ versions.Pairwise Falls := by
  obtain ⟨table, htable, hunique⟩ := versions_resumedDocument
  obtain ⟨versions, hversions, -⟩ :=
    (isEmpty_check_documentHistory htable).mp silent_resumedDocument
  refine ⟨table, versions, htable, silent_resumedDocument, hversions, ?_⟩
  rw [hunique versions hversions, pairwise_falls_iff]
  intro hall
  exact not_falls_resumed (hall _ _ _ stretch_resumed)

/-- The template version has fallen where the instance version rises. -/
theorem documentHistory_instances_resumedDocument :
    ∃ table, Tree.tableWith? Tree.historyHeader resumedDocument.root = some table ∧
      (Rule.documentHistory.check resumedDocument true .empty).isEmpty = true ∧
      ∃ above between below,
        List.Forall₂ SoundRow (History.rows table) (above :: (between ++ [below])) ∧
        ¬ Falls above below ∧ (∃ v ∈ between, v.ofInstance = none) ∧
        below.template.rank < above.template.rank := by
  obtain ⟨table, htable, hunique⟩ := versions_resumedDocument
  obtain ⟨versions, hversions, hrises, -⟩ :=
    documentHistory_instances resumedDocument true htable silent_resumedDocument
  obtain rfl := hunique versions hversions
  obtain ⟨hgap, htemplate⟩ := hrises _ _ _ stretch_resumed not_falls_resumed
  exact ⟨table, htable, silent_resumedDocument, addedRow, [revisedRow], changedRow, hversions,
    not_falls_resumed, hgap, htemplate⟩

end SopDocs.Lint
