import Mathlib.Data.List.Nodup
import Mathlib.Data.List.Perm.Basic
import SopDocs.Index.Build
import SopDocs.Index.Render
import SopDocs.Proofs.Steps

/-!
# An index does not depend on the order of its documents

Every document is read by itself, the first one without an entry being the failure, and the entries
are then sorted by identifier alone. Entries that share an identifier keep the order of their
paths; where no two share one, any order of the paths gives the same list and so the same text.
-/

namespace SopDocs

namespace Index

/-! ### Reading one after the other -/

section Reading

variable {α β ε : Type} {f : α → Except ε β}

theorem mapM_cons_eq_ok_iff {a : α} {as : List α} {bs : List β} :
    (a :: as).mapM f = .ok bs ↔
      ∃ b bs', f a = .ok b ∧ as.mapM f = .ok bs' ∧ bs = b :: bs' := by
  rw [List.mapM_cons]
  cases f a <;> cases as.mapM f <;> simp [bind, Except.bind, pure, Except.pure, eq_comm]

theorem mapM_cons_eq_error_iff {a : α} {as : List α} {e : ε} :
    (a :: as).mapM f = .error e ↔
      f a = .error e ∨ (∃ b, f a = .ok b) ∧ as.mapM f = .error e := by
  rw [List.mapM_cons]
  cases f a <;> cases as.mapM f <;> simp [bind, Except.bind, pure, Except.pure]

/-- All are read exactly if each one is. -/
theorem mapM_eq_ok_iff {as : List α} {bs : List β} :
    as.mapM f = .ok bs ↔ List.Forall₂ (fun a b => f a = .ok b) as bs := by
  induction as generalizing bs with
  | nil =>
    rw [List.forall₂_nil_left_iff, List.mapM_nil]
    exact ⟨fun h => (Except.ok.inj h).symm, fun h => h ▸ rfl⟩
  | cons a as ih =>
    rw [List.forall₂_cons_left_iff, mapM_cons_eq_ok_iff]
    simp only [ih]

/-- What comes first in a list is its head or comes first behind it. -/
theorem exists_first_cons {P Q : α → Prop} {a : α} {as : List α} :
    (∃ before a' after, a :: as = before ++ a' :: after ∧ (∀ b ∈ before, P b) ∧ Q a') ↔
      Q a ∨ P a ∧ ∃ before a' after, as = before ++ a' :: after ∧ (∀ b ∈ before, P b) ∧ Q a' := by
  constructor
  · rintro ⟨before, a', after, has, hbefore, ha'⟩
    cases before with
    | nil =>
      cases has
      exact .inl ha'
    | cons b before =>
      cases has
      obtain ⟨ha, hbefore⟩ := List.forall_mem_cons.mp hbefore
      exact .inr ⟨ha, before, a', after, rfl, hbefore, ha'⟩
  · rintro (ha | ⟨ha, before, a', after, rfl, hbefore, ha'⟩)
    · exact ⟨[], a, as, rfl, nofun, ha⟩
    · exact ⟨a :: before, a', after, rfl, List.forall_mem_cons.mpr ⟨ha, hbefore⟩, ha'⟩

/-- A failure is that of the first one that is not read. -/
theorem mapM_eq_error_iff {as : List α} {e : ε} :
    as.mapM f = .error e ↔ ∃ before a after, as = before ++ a :: after ∧
      (∀ earlier ∈ before, ∃ b, f earlier = .ok b) ∧ f a = .error e := by
  induction as with
  | nil =>
    rw [List.mapM_nil]
    exact ⟨nofun, fun ⟨before, a, after, has, _⟩ => by simp at has⟩
  | cons a as ih => rw [mapM_cons_eq_error_iff, exists_first_cons, ← ih]

end Reading

/-! ### Sorting -/

/-- Whether a list has the entries of another one in ascending order of their identifiers, those
that share an identifier in the order that they had. -/
structure InOrder (index entries : List Entry) : Prop where
  perm : index.Perm entries
  ascending : index.Pairwise fun a b => a.identifier ≤ b.identifier
  stable : ∀ identifier,
    index.filter (·.identifier = identifier) = entries.filter (·.identifier = identifier)

theorem inOrder_sortEntries (entries : List Entry) : InOrder (sortEntries entries) entries := by
  have htrans : ∀ a b c : Entry, decide (a.identifier ≤ b.identifier) = true →
      decide (b.identifier ≤ c.identifier) = true →
      decide (a.identifier ≤ c.identifier) = true := by
    intro a b c hab hbc
    exact decide_eq_true (String.le_trans (of_decide_eq_true hab) (of_decide_eq_true hbc))
  have htotal : ∀ a b : Entry, (decide (a.identifier ≤ b.identifier) ||
      decide (b.identifier ≤ a.identifier)) = true := by
    intro a b
    simpa using String.le_total a.identifier b.identifier
  have hperm : (sortEntries entries).Perm entries := List.mergeSort_perm _ _
  refine ⟨hperm, ?_, fun identifier => ?_⟩
  · exact (List.pairwise_mergeSort htrans htotal entries).imp of_decide_eq_true
  · -- Those with the identifier ascend as they stand, so that sorting keeps them as a sublist.
    have hties : (entries.filter (·.identifier = identifier)).Pairwise fun a b =>
        decide (a.identifier ≤ b.identifier) = true := by
      refine List.pairwise_of_forall_mem_list fun a ha b hb => ?_
      rw [of_decide_eq_true (List.mem_filter.mp ha).2, of_decide_eq_true (List.mem_filter.mp hb).2]
      exact decide_eq_true (String.le_refl identifier)
    have hsublist : (entries.filter (·.identifier = identifier)).Sublist (sortEntries entries) :=
      List.sublist_mergeSort htrans htotal hties List.filter_sublist
    have hkept := hsublist.filter (·.identifier = identifier)
    rw [List.filter_filter] at hkept
    simp only [Bool.and_self] at hkept
    exact (hkept.eq_of_length (hperm.filter _).length_eq.symm).symm

/-- Entries with identifiers of their own have one order only. -/
theorem InOrder.eq_of_perm {index other entries others : List Entry} (h : InOrder index entries)
    (hother : InOrder other others) (hperm : others.Perm entries)
    (hnodup : (entries.map (·.identifier)).Nodup) : other = index := by
  refine List.Perm.eq_of_pairwise ?_ hother.ascending h.ascending
    (hother.perm.trans (hperm.trans h.perm.symm))
  intro a b ha hb hab hba
  have ha' : a ∈ entries := hperm.mem_iff.mp (hother.perm.mem_iff.mp ha)
  exact List.inj_on_of_nodup_map hnodup ha' (h.perm.mem_iff.mp hb) (String.le_antisymm hab hba)

/-! ### Building -/

variable {files : Files} {paths others : List Path} {entries : List Entry}

/-- Whether entries are those of documents, one for each path and in the order of the paths. -/
def Singles (files : Files) (paths : List Path) (entries : List Entry) : Prop :=
  List.Forall₂ (fun path entry => readEntry files path = .ok entry) paths entries

theorem build_of_ne_nil (files : Files) (h : paths ≠ []) :
    build files paths = (paths.mapM (readEntry files)).map sortEntries := by
  have hempty : paths.isEmpty = false := by simpa using h
  rw [build, hempty, if_neg Bool.false_ne_true]

theorem build_eq_ok_iff (hne : paths ≠ []) {index : List Entry} :
    build files paths = .ok index ↔
      ∃ entries, Singles files paths entries ∧ index = sortEntries entries := by
  rw [build_of_ne_nil files hne, map_eq_ok]
  simp only [Singles, mapM_eq_ok_iff, eq_comm (b := index)]

theorem build_eq_error_iff (hne : paths ≠ []) {failure : Failure} :
    build files paths = .error failure ↔ ∃ before path after, paths = before ++ path :: after ∧
      (∀ earlier ∈ before, ∃ entry, readEntry files earlier = .ok entry) ∧
      readEntry files path = .error failure := by
  rw [build_of_ne_nil files hne, ← mapM_eq_error_iff]
  cases paths.mapM (readEntry files) <;> simp [Except.map]

theorem Singles.exists_of_mem (h : Singles files paths entries) :
    ∀ path ∈ paths, ∃ entry, readEntry files path = .ok entry := by
  unfold Singles at h
  induction h with
  | nil => nofun
  | @cons path entry _ _ hentry _ ih => exact List.forall_mem_cons.mpr ⟨⟨entry, hentry⟩, ih⟩

theorem exists_build_iff (hne : paths ≠ []) :
    (∃ index, build files paths = .ok index) ↔
      ∀ path ∈ paths, ∃ entry, readEntry files path = .ok entry := by
  constructor
  · rintro ⟨index, hindex⟩
    obtain ⟨entries, hentries, -⟩ := (build_eq_ok_iff hne).mp hindex
    exact hentries.exists_of_mem
  · intro hall
    cases hbuild : build files paths with
    | ok index => exact ⟨index, rfl⟩
    | error failure =>
      obtain ⟨before, path, after, rfl, -, hfailure⟩ := (build_eq_error_iff hne).mp hbuild
      obtain ⟨entry, hentry⟩ := hall path (by simp)
      cases hentry.symm.trans hfailure

/-- Documents with identifiers of their own have one index, whatever their order is. -/
theorem Singles.build_of_perm (h : Singles files paths entries) (hne : paths ≠ [])
    (hnodup : (entries.map (·.identifier)).Nodup) (hperm : others.Perm paths) :
    build files others = .ok (sortEntries entries) := by
  obtain ⟨entries', hentries', hsame⟩ : ∃ entries', Singles files others entries' ∧
    entries'.Perm entries := List.perm_comp_forall₂ hperm h
  have hne' : others ≠ [] := by
    rintro rfl
    exact hne hperm.nil_eq.symm
  have hsorted : sortEntries entries' = sortEntries entries :=
    (inOrder_sortEntries entries).eq_of_perm (inOrder_sortEntries entries') hsame hnodup
  exact (build_eq_ok_iff hne').mpr ⟨entries', hentries', hsorted.symm⟩

/-- **The order of the documents shows only where two share an identifier.** There is an index
exactly if each document has an entry, the failure being that of the first one without. It has the
entries of the documents in ascending order of their identifiers, and in the order of the paths
where these are equal. If no two are equal, the documents in any order are written to the same text
in each format. -/
theorem build_in_order (files : Files) {paths : List Path} (hne : paths ≠ []) :
    ((∃ index, build files paths = .ok index) ↔
      ∀ path ∈ paths, ∃ entry, readEntry files path = .ok entry) ∧
    (∀ failure, build files paths = .error failure ↔
      ∃ before path after, paths = before ++ path :: after ∧
        (∀ earlier ∈ before, ∃ entry, readEntry files earlier = .ok entry) ∧
        readEntry files path = .error failure) ∧
    (∀ index, build files paths = .ok index →
      ∃ entries, Singles files paths entries ∧ InOrder index entries) ∧
    ∀ entries, Singles files paths entries → (entries.map (·.identifier)).Nodup →
      ∀ format, ∃ text, ∀ others : List Path, others.Perm paths →
        (build files others).map (render format) = .ok text := by
  refine ⟨exists_build_iff hne, fun _ => build_eq_error_iff hne, ?_, ?_⟩
  · intro index hindex
    obtain ⟨entries, hentries, rfl⟩ := (build_eq_ok_iff hne).mp hindex
    exact ⟨entries, hentries, inOrder_sortEntries entries⟩
  · intro entries hentries hnodup format
    refine ⟨render format (sortEntries entries), fun others hperm => ?_⟩
    rw [hentries.build_of_perm hne hnodup hperm]
    rfl

/-- The least document that has an entry with an identifier. -/
def bareDocument (identifier : String) : Files.Entry :=
  .file (.text ("Metadata|Value\n-|-\nTemplate SOP number|" ++ identifier ++ "\n\n" ++
    "Template Version|Instance version|Author(s)|Description of changes|Date\n" ++
    "-|-|-|-|-\n||||||\n"))

/-- Two documents, with names in the order opposite to that of their identifiers. -/
def crossedDocuments : Files where
  top := .dir [("access.md", bareDocument "SOP2"), ("transfer.md", bareDocument "SOP1")]
  current := []

theorem build_in_order_crossed :
    [⟨"access.md"⟩, ⟨"transfer.md"⟩] ≠ ([] : List Path) ∧ ∀ format, ∃ text,
      (build crossedDocuments [⟨"access.md"⟩, ⟨"transfer.md"⟩]).map (render format) = .ok text ∧
      (build crossedDocuments [⟨"transfer.md"⟩, ⟨"access.md"⟩]).map (render format) = .ok text := by
  have hne : [⟨"access.md"⟩, ⟨"transfer.md"⟩] ≠ ([] : List Path) := by decide
  have hidentifiers : ([⟨"access.md"⟩, ⟨"transfer.md"⟩] : List Path).map
      (fun path => (readEntry crossedDocuments path).map (·.identifier)) =
        [.ok "SOP2", .ok "SOP1"] := by decide +kernel
  obtain ⟨-, -, -, hrender⟩ := build_in_order crossedDocuments hne
  simp only [List.map_cons, List.map_nil, List.cons.injEq, and_true] at hidentifiers
  obtain ⟨haccess, htransfer⟩ := hidentifiers
  obtain ⟨access, haccess, haccessName⟩ := map_eq_ok.mp haccess
  obtain ⟨transfer, htransfer, htransferName⟩ := map_eq_ok.mp htransfer
  have hsingles : Singles crossedDocuments [⟨"access.md"⟩, ⟨"transfer.md"⟩] [access, transfer] :=
    .cons haccess (.cons htransfer .nil)
  have hnodup : ([access, transfer].map (·.identifier)).Nodup := by
    simp only [List.map_cons, List.map_nil, haccessName, htransferName]
    decide
  refine ⟨hne, fun format => ?_⟩
  obtain ⟨text, htext⟩ := hrender [access, transfer] hsingles hnodup format
  exact ⟨text, htext _ (List.Perm.refl _), htext _ (List.Perm.swap _ _ _)⟩

end Index

end SopDocs
