import Mathlib.Data.List.Pairwise
import SopDocs.Lint.FileName
import SopDocs.Proofs.Files.Place

/-!
# Each path is collected once, each file as often as it is spelled

The collected paths are in strictly ascending order, so none of them comes twice. A path is not a
file: inputs that reach a file under different components leave both paths. How inputs are
spelled where they overlap decides whether each file is collected once.
-/

namespace SopDocs.Files

open SopDocs.Path (Extends)

/-! ### Sorting and dropping -/

namespace Finder

variable {finder : Finder} {files : Files} {inputs : List Path} {p q : Path} {paths : List Path}

theorem dropRepeatedAfter_sublist (p : Path) (paths : List Path) :
    (dropRepeatedAfter p paths).Sublist paths := by
  induction paths generalizing p with
  | nil => exact List.Sublist.refl _
  | cons q paths ih =>
    unfold dropRepeatedAfter
    split
    · exact (ih p).cons q
    · exact (ih q).cons_cons q

theorem dropRepeated_sublist (paths : List Path) : (dropRepeated paths).Sublist paths := by
  cases paths with
  | nil => exact List.Sublist.refl _
  | cons p paths => exact (dropRepeatedAfter_sublist p paths).cons_cons p

/-- A path that is dropped equals one that is kept. -/
theorem exists_components_eq_of_mem_cons (h : q ∈ p :: paths) :
    ∃ kept ∈ p :: dropRepeatedAfter p paths, kept.components = q.components := by
  induction paths generalizing p with
  | nil => exact ⟨q, h, rfl⟩
  | cons next paths ih =>
    unfold dropRepeatedAfter
    rcases List.mem_cons.mp h with rfl | h
    · exact ⟨q, List.mem_cons_self, rfl⟩
    · split
      · next hsame =>
        rcases List.mem_cons.mp h with rfl | hmem
        · exact ⟨p, List.mem_cons_self, Path.same_iff.mp hsame⟩
        · exact ih (List.mem_cons_of_mem _ hmem)
      · obtain ⟨kept, hkept, heq⟩ := ih h
        exact ⟨kept, List.mem_cons_of_mem _ hkept, heq⟩

theorem exists_components_eq_of_mem (h : q ∈ paths) :
    ∃ kept ∈ dropRepeated paths, kept.components = q.components := by
  cases paths with
  | nil => cases h
  | cons p paths => exact exists_components_eq_of_mem_cons h

/-- Of paths in ascending order those that are kept are in strictly ascending order. -/
theorem pairwise_dropRepeatedAfter
    (h : (p :: paths).Pairwise fun p q => (p.compare q).isLE = true) :
    (p :: dropRepeatedAfter p paths).Pairwise fun p q => p.compare q = .lt := by
  induction paths generalizing p with
  | nil => exact List.pairwise_singleton _ p
  | cons q paths ih =>
    obtain ⟨hp, hq⟩ := List.pairwise_cons.mp h
    unfold dropRepeatedAfter
    split
    · refine ih (List.pairwise_cons.mpr ⟨fun r hr => ?_, (List.pairwise_cons.mp hq).2⟩)
      exact hp r (List.mem_cons_of_mem _ hr)
    · next hdiffer =>
      have hfirst : p.compare q = .lt :=
        Path.compare_eq_lt (hp q List.mem_cons_self) fun heq => hdiffer (Path.same_iff.mpr heq)
      have hrest := ih hq
      refine List.pairwise_cons.mpr ⟨fun r hr => ?_, hrest⟩
      rcases List.mem_cons.mp hr with rfl | hr
      · exact hfirst
      · exact Path.compare_lt_trans hfirst ((List.pairwise_cons.mp hrest).1 r hr)

theorem pairwise_dropRepeated (h : paths.Pairwise fun p q => (p.compare q).isLE = true) :
    (dropRepeated paths).Pairwise fun p q => p.compare q = .lt := by
  cases paths with
  | nil => exact List.Pairwise.nil
  | cons p paths => exact pairwise_dropRepeatedAfter h

theorem pairwise_sortPaths (paths : List Path) :
    (sortPaths paths).Pairwise fun p q => (p.compare q).isLE = true := by
  refine List.pairwise_mergeSort (fun p q r hpq hqr => ?_) Path.isLE_compare_total paths
  exact Path.isLE_compare_trans hpq hqr

/-! ### What is collected -/

theorem pairwise_collect (finder : Finder) (files : Files) (inputs : List Path) :
    (finder.collect files inputs).Pairwise fun p q => p.compare q = .lt :=
  pairwise_dropRepeated (pairwise_sortPaths _)

theorem exists_input_of_mem_collect (h : p ∈ finder.collect files inputs) :
    ∃ input ∈ inputs, p ∈ finder.ofInput files input :=
  List.mem_flatMap.mp (List.mem_mergeSort.mp ((dropRepeated_sublist _).subset h))

theorem exists_mem_collect {input : Path} (hinput : input ∈ inputs)
    (h : p ∈ finder.ofInput files input) :
    ∃ kept ∈ finder.collect files inputs, kept.components = p.components :=
  exists_components_eq_of_mem (List.mem_mergeSort.mpr (List.mem_flatMap.mpr ⟨input, hinput, h⟩))

end Finder

/-! ### Paths of one file -/

/-- Two paths that lead to the same place. -/
def SameFile (files : Files) (p q : Path) : Prop :=
  ∃ l, files.locate true p = .ok l ∧ files.locate true q = .ok l

/-- Where an input lies below another one, it goes on with names where the other one ends. -/
def SpelledAlike (files : Files) (inputs : List Path) : Prop :=
  ∀ i ∈ inputs, ∀ j ∈ inputs, ∀ l names, files.locate true i = .ok l →
    files.locate true j = .ok (l ++ names) → Extends i j names

variable {files : Files} {finder : Finder} {inputs : List Path} {p q : Path}

theorem sameFile_iff_place (hplain : files.Plain) (hp : files.isFile p = true)
    (hq : files.isFile q = true) : files.SameFile p q ↔ files.place p = files.place q := by
  obtain ⟨l, hl⟩ := exists_locate_of_isFile hp
  obtain ⟨m, hm⟩ := exists_locate_of_isFile hq
  have hplaceP := locate_eq_ok hplain hl
  have hplaceQ := locate_eq_ok hplain hm
  constructor
  · rintro ⟨n, hpn, hqn⟩
    rw [← locate_eq_ok hplain hpn, ← locate_eq_ok hplain hqn]
  · intro heq
    refine ⟨l, hl, ?_⟩
    rw [hm, hplaceP, hplaceQ, heq]

theorem place_eq_of_components_eq (h : p.components = q.components) :
    files.place p = files.place q := by
  unfold place
  rw [h]

theorem SameFile.symm (h : files.SameFile p q) : files.SameFile q p := by
  obtain ⟨l, hp, hq⟩ := h
  exact ⟨l, hq, hp⟩

theorem SameFile.congr (hplain : files.Plain) {p' q' : Path} (h : files.SameFile p q)
    (hpfile : files.isFile p = true) (hqfile : files.isFile q = true)
    (hpfile' : files.isFile p' = true) (hqfile' : files.isFile q' = true)
    (hp : p'.components = p.components) (hq : q'.components = q.components) :
    files.SameFile p' q' := by
  rw [sameFile_iff_place hplain hpfile' hqfile', place_eq_of_components_eq hp,
    place_eq_of_components_eq hq]
  exact (sameFile_iff_place hplain hpfile hqfile).mp h

theorem isFile_of_mem_ofInput (hplain : files.Plain) {input : Path}
    (h : p ∈ finder.ofInput files input) : files.isFile p = true :=
  (Finder.of_mem_ofInput hplain h).2.1

theorem isFile_of_mem_collect (hplain : files.Plain) (h : p ∈ finder.collect files inputs) :
    files.isFile p = true := by
  obtain ⟨input, -, hinput⟩ := Finder.exists_input_of_mem_collect h
  exact isFile_of_mem_ofInput hplain hinput

/-- Each file is collected once exactly if no two inputs reach a file under different
components. -/
theorem collect_once_iff (hplain : files.Plain) :
    (finder.collect files inputs).Pairwise (fun p q => ¬ files.SameFile p q) ↔
      ∀ i ∈ inputs, ∀ j ∈ inputs, ∀ p ∈ finder.ofInput files i, ∀ q ∈ finder.ofInput files j,
        files.SameFile p q → p.components = q.components := by
  constructor
  · intro honce i hi j hj p hp q hq hsame
    -- The kept paths of the two are the same path, as they lead to one file.
    obtain ⟨p', hp', hpcomponents⟩ := Finder.exists_mem_collect hi hp
    obtain ⟨q', hq', hqcomponents⟩ := Finder.exists_mem_collect hj hq
    have hkept : files.SameFile p' q' :=
      hsame.congr hplain (isFile_of_mem_ofInput hplain hp) (isFile_of_mem_ofInput hplain hq)
        (isFile_of_mem_collect hplain hp') (isFile_of_mem_collect hplain hq')
        hpcomponents hqcomponents
    have : Std.Symm fun p q => ¬ files.SameFile p q := ⟨fun _ _ hnot h => hnot h.symm⟩
    have heq : p' = q' := by_contra fun hne => honce.forall hp' hq' hne hkept
    rw [← hpcomponents, ← hqcomponents, heq]
  · intro hagree
    refine (Finder.pairwise_collect finder files inputs).imp_of_mem fun hp hq hlt hsame => ?_
    obtain ⟨i, hi, hpi⟩ := Finder.exists_input_of_mem_collect hp
    obtain ⟨j, hj, hqj⟩ := Finder.exists_input_of_mem_collect hq
    rw [Path.compare_eq_iff.mpr (hagree i hi j hj _ hpi _ hqj hsame)] at hlt
    cases hlt

/-- A file below an input has the components of any input spelled like this one. -/
theorem components_eq_of_place_eq (hplain : files.Plain) (halike : files.SpelledAlike inputs)
    {i j : Path} (hi : i ∈ inputs) (hj : j ∈ inputs) {l m : Location}
    (hl : files.locate true i = .ok l) (hm : files.locate true j = .ok m)
    {below names : List String} (hp : Extends i p (names ++ below)) (hq : Extends j q below)
    (hplace : files.place j = files.place i ++ names) : p.components = q.components := by
  have hjm : files.locate true j = .ok (l ++ names) := by
    rw [hm, locate_eq_ok hplain hm, hplace, locate_eq_ok hplain hl]
  have hij := halike i hi j hj l names hl hjm
  unfold Extends at hp hq hij
  rw [hp, hq, hij, List.map_append, List.append_assoc]

theorem collect_once_of_spelledAlike (hplain : files.Plain) (halike : files.SpelledAlike inputs) :
    (finder.collect files inputs).Pairwise fun p q => ¬ files.SameFile p q := by
  refine (collect_once_iff hplain).mpr fun i hi j hj p hp q hq hsame => ?_
  obtain ⟨⟨l, hl⟩, hpfile, pnames, hpnames⟩ := Finder.of_mem_ofInput hplain hp
  obtain ⟨⟨m, hm⟩, hqfile, qnames, hqnames⟩ := Finder.of_mem_ofInput hplain hq
  have hplace := (sameFile_iff_place hplain hpfile hqfile).mp hsame
  rw [place_of_extends hpnames, place_of_extends hqnames] at hplace
  -- One of the two inputs lies below the other one, as both lie above the file.
  rcases List.append_eq_append_iff.mp hplace with ⟨names, hbelow, rfl⟩ | ⟨names, hbelow, rfl⟩
  · exact components_eq_of_place_eq hplain halike hi hj hl hm hpnames hqnames hbelow
  · exact (components_eq_of_place_eq hplain halike hj hi hm hl hqnames hpnames hbelow).symm

/-- Inputs that are names below one start are spelled alike. -/
theorem spelledAlike_of_extends (hplain : files.Plain) {base : Path}
    (h : ∀ i ∈ inputs, ∃ names, Extends base i names) : files.SpelledAlike inputs := by
  intro i hi j hj l names hl hm
  obtain ⟨inames, hinames⟩ := h i hi
  obtain ⟨jnames, hjnames⟩ := h j hj
  have hplace := locate_eq_ok hplain hm
  rw [locate_eq_ok hplain hl, place_of_extends hinames, place_of_extends hjnames,
    List.append_assoc] at hplace
  obtain rfl := List.append_cancel_left hplace
  unfold Extends at hinames hjnames ⊢
  rw [hinames, hjnames, List.map_append, List.append_assoc]

/-- Among paths of different files an identifier that is used twice is that of two files. -/
theorem exists_carriers {paths : List Path} {c : Conventions} {identifier : String}
    (honce : paths.Pairwise fun p q => ¬ files.SameFile p q)
    (huses : 1 < Lint.identifierUses c paths identifier) :
    ∃ p ∈ paths, ∃ q ∈ paths, ¬ files.SameFile p q ∧
      c.fileIdentifier? p = some identifier ∧ c.fileIdentifier? q = some identifier := by
  unfold Lint.identifierUses at huses
  rw [List.countP_eq_length_filter] at huses
  have hpairs := honce.filter fun p => c.fileIdentifier? p == some identifier
  have hmem : ∀ p ∈ paths.filter fun p => c.fileIdentifier? p == some identifier,
      p ∈ paths ∧ c.fileIdentifier? p = some identifier := by
    intro p hp
    simpa using List.mem_filter.mp hp
  match hcarriers : paths.filter fun p => c.fileIdentifier? p == some identifier with
  | [] => simp [hcarriers] at huses
  | [p] => simp [hcarriers] at huses
  | p :: q :: r =>
    rw [hcarriers] at hpairs hmem
    obtain ⟨hp, hpcarries⟩ := hmem p List.mem_cons_self
    obtain ⟨hq, hqcarries⟩ := hmem q (List.mem_cons_of_mem _ List.mem_cons_self)
    exact ⟨p, hp, q, hq, (List.pairwise_cons.mp hpairs).1 q List.mem_cons_self,
      hpcarries, hqcarries⟩

/-- **Each path is collected once, and each file too if inputs that overlap are spelled alike.**
The collected paths ascend strictly by their components. In a tree without links two of them
lead to one file exactly if two inputs reach it under different components. So no file is
collected twice, and an identifier used twice is that of two files, where an input that lies
below another one goes on with names from there, and where all inputs are names below one
start. -/
theorem collected_once (hplain : files.Plain) (finder : Finder) (inputs : List Path) :
    let collected := finder.collect files inputs
    let once := collected.Pairwise fun p q => ¬ files.SameFile p q
    collected.Pairwise (fun p q => p.compare q = .lt) ∧
    (once ↔ ∀ i ∈ inputs, ∀ j ∈ inputs, ∀ p ∈ finder.ofInput files i,
      ∀ q ∈ finder.ofInput files j, files.SameFile p q → p.components = q.components) ∧
    (once → ∀ c identifier, 1 < Lint.identifierUses c collected identifier →
      ∃ p ∈ collected, ∃ q ∈ collected, ¬ files.SameFile p q ∧
        c.fileIdentifier? p = some identifier ∧ c.fileIdentifier? q = some identifier) ∧
    (files.SpelledAlike inputs → once) ∧
    ∀ base, (∀ i ∈ inputs, ∃ names, Extends base i names) → once :=
  ⟨Finder.pairwise_collect finder files inputs, collect_once_iff hplain,
    fun honce _ _ => exists_carriers honce, collect_once_of_spelledAlike hplain,
    fun _ h => collect_once_of_spelledAlike hplain (spelledAlike_of_extends hplain h)⟩

/-- A directory with one document, below the current directory. -/
def oneDocument : Files where
  top := .dir [("work", .dir [("sops", .dir [("GDI-SOP0001_a.md", .file (.text ""))])])]
  current := ["work"]

def finderWithoutExcludes : Finder := ⟨Conventions.ofConfig .standard, []⟩

/-- A directory, the document in it and the directory once more hold one document. -/
theorem collected_once_overlapping :
    oneDocument.Plain ∧
    finderWithoutExcludes.collect oneDocument
      [⟨"sops"⟩, ⟨"sops/GDI-SOP0001_a.md"⟩, ⟨"sops//."⟩] ≠ [] ∧
    (finderWithoutExcludes.collect oneDocument
      [⟨"sops"⟩, ⟨"sops/GDI-SOP0001_a.md"⟩, ⟨"sops//."⟩]).Pairwise
        fun p q => ¬ oneDocument.SameFile p q := by
  have hplain : oneDocument.Plain := by decide +kernel
  obtain ⟨-, -, -, -, hnames⟩ := collected_once hplain finderWithoutExcludes
    [⟨"sops"⟩, ⟨"sops/GDI-SOP0001_a.md"⟩, ⟨"sops//."⟩]
  refine ⟨hplain, fun hnone => ?_, hnames ⟨""⟩ fun i hi => ?_⟩
  · have hfound : (⟨"sops/GDI-SOP0001_a.md"⟩ : Path) ∈
        finderWithoutExcludes.ofInput oneDocument ⟨"sops"⟩ := by decide +kernel
    obtain ⟨kept, hkept, -⟩ := Finder.exists_mem_collect List.mem_cons_self hfound
    rw [hnone] at hkept
    cases hkept
  · simp only [List.mem_cons, List.not_mem_nil, or_false] at hi
    rcases hi with rfl | rfl | rfl
    · exact ⟨["sops"], by decide⟩
    · exact ⟨["sops", "GDI-SOP0001_a.md"], by decide⟩
    · exact ⟨["sops"], by decide⟩

/-- The directory under two spellings holds the document twice, and so its identifier is taken
to be used twice. -/
theorem collected_twice :
    oneDocument.Plain ∧
    finderWithoutExcludes.collect oneDocument [⟨"./sops"⟩, ⟨"sops"⟩] =
      [⟨"./sops/GDI-SOP0001_a.md"⟩, ⟨"sops/GDI-SOP0001_a.md"⟩] ∧
    oneDocument.SameFile ⟨"./sops/GDI-SOP0001_a.md"⟩ ⟨"sops/GDI-SOP0001_a.md"⟩ ∧
    ¬ (finderWithoutExcludes.collect oneDocument [⟨"./sops"⟩, ⟨"sops"⟩]).Pairwise
      (fun p q => ¬ oneDocument.SameFile p q) ∧
    Lint.identifierUses finderWithoutExcludes.conventions
      (finderWithoutExcludes.collect oneDocument [⟨"./sops"⟩, ⟨"sops"⟩]) "GDI-SOP0001" = 2 := by
  have hfound : ([⟨"./sops"⟩, ⟨"sops"⟩] : List Path).flatMap
      (finderWithoutExcludes.ofInput oneDocument) =
        [⟨"./sops/GDI-SOP0001_a.md"⟩, ⟨"sops/GDI-SOP0001_a.md"⟩] := by
    decide +kernel
  have hcollect : finderWithoutExcludes.collect oneDocument [⟨"./sops"⟩, ⟨"sops"⟩] =
      [⟨"./sops/GDI-SOP0001_a.md"⟩, ⟨"sops/GDI-SOP0001_a.md"⟩] := by
    unfold Finder.collect Finder.sortPaths
    rw [hfound, List.mergeSort_of_pairwise (by decide +kernel)]
    decide +kernel
  have hsame : oneDocument.SameFile ⟨"./sops/GDI-SOP0001_a.md"⟩ ⟨"sops/GDI-SOP0001_a.md"⟩ :=
    ⟨["work", "sops", "GDI-SOP0001_a.md"], by rfl, by rfl⟩
  refine ⟨by decide +kernel, hcollect, hsame, fun honce => ?_, ?_⟩
  · rw [hcollect] at honce
    exact (List.pairwise_cons.mp honce).1 _ (List.mem_singleton.mpr rfl) hsame
  · rw [hcollect]
    decide +kernel

end SopDocs.Files
