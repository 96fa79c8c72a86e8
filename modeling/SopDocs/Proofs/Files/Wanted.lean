import Mathlib.Data.List.Sort
import SopDocs.Proofs.Conventions
import SopDocs.Proofs.Files.Collect
import SopDocs.Proofs.Naming

/-!
# What is collected

An input that is a file is wanted as it is; of an input directory the files with document names
are wanted. What an exclude pattern matches is never wanted. The collected paths spell what is
wanted, each list of components once and in ascending order. So they depend on which inputs there
are and neither on their order nor on how often they are given, and they stand for themselves when
they are collected again.
-/

namespace SopDocs.Files.Finder

variable {finder : Finder} {files : Files} {inputs : List Path} {p : Path}

/-! ### What inputs stand for -/

/-- A path with a file name that is an identifier, anything on one line, and `.md`. -/
def Named (finder : Finder) (p : Path) : Prop :=
  ∃ name identifier body, p.fileName? = some name ∧ finder.conventions.IsIdentifier identifier ∧
    '\n' ∉ body ∧ name.toList = identifier ++ (body ++ ".md".toList)

/-- The paths that inputs stand for: files among them, and named files below directories among
them. -/
inductive Wanted (finder : Finder) (files : Files) (inputs : List Path) : Path → Prop where
  | given {p : Path} (hinput : p ∈ inputs) (hfile : files.isFile p = true)
      (hkept : finder.ignores p = false) : Wanted finder files inputs p
  | below {input p : Path} (hinput : input ∈ inputs) (hdir : files.isDir input = true)
      (hbelow : p ∈ files.filesBelow input) (hnamed : finder.Named p)
      (hkept : finder.ignores p = false) : Wanted finder files inputs p

theorem isDocument_iff : finder.isDocument p = true ↔ finder.Named p := by
  unfold isDocument Named
  cases p.fileName? with
  | none => simp
  | some name => simp [Conventions.isDocumentName_iff]

theorem isFile_eq_false_of_isDir {input : Path} (h : files.isDir input = true) :
    files.isFile input = false := by
  unfold isDir at h
  unfold isFile
  split at h
  · next hlookup => rw [hlookup]
  · cases h

theorem isFile_of_mem_filesBelow {dir : Path} (h : p ∈ files.filesBelow dir) :
    files.isFile p = true := by
  unfold filesBelow at h
  split at h
  · exact (List.mem_filter.mp h).2
  · cases h

/-- A wanted path is that of a file. -/
theorem Wanted.isFile (h : finder.Wanted files inputs p) : files.isFile p = true := by
  cases h with
  | given _ hfile _ => exact hfile
  | below _ _ hbelow _ _ => exact isFile_of_mem_filesBelow hbelow

theorem Wanted.kept (h : finder.Wanted files inputs p) : finder.ignores p = false := by
  cases h with
  | given _ _ hkept => exact hkept
  | below _ _ _ _ hkept => exact hkept

theorem ofInput_of_isFile (hfile : files.isFile p = true) (hkept : finder.ignores p = false) :
    finder.ofInput files p = [p] := by
  unfold ofInput
  rw [if_pos hfile]
  simp [hkept]

/-- What an input is searched for is what it stands for. -/
theorem mem_ofInput_iff {input : Path} :
    p ∈ finder.ofInput files input ↔ finder.Wanted files [input] p := by
  unfold ofInput
  constructor
  · intro h
    split at h
    · next hfile =>
      obtain ⟨hp, hkept⟩ := List.mem_filter.mp h
      obtain rfl := List.mem_singleton.mp hp
      exact .given List.mem_cons_self hfile (by simpa using hkept)
    · split at h
      · next hdir =>
        obtain ⟨hbelow, htest⟩ := List.mem_filter.mp h
        rw [Bool.and_eq_true, isDocument_iff, Bool.not_eq_true'] at htest
        exact .below List.mem_cons_self hdir hbelow htest.1 htest.2
      · cases h
  · intro h
    cases h with
    | given hinput hfile hkept =>
      obtain rfl := List.mem_singleton.mp hinput
      rw [if_pos hfile]
      simp [hkept]
    | below hinput hdir hbelow hnamed hkept =>
      obtain rfl := List.mem_singleton.mp hinput
      rw [if_neg (by simp [isFile_eq_false_of_isDir hdir]), if_pos hdir, List.mem_filter,
        Bool.and_eq_true, isDocument_iff, Bool.not_eq_true']
      exact ⟨hbelow, hnamed, hkept⟩

theorem wanted_iff :
    finder.Wanted files inputs p ↔ ∃ input ∈ inputs, finder.Wanted files [input] p := by
  constructor
  · intro h
    cases h with
    | given hinput hfile hkept => exact ⟨p, hinput, .given List.mem_cons_self hfile hkept⟩
    | below hinput hdir hbelow hnamed hkept =>
      exact ⟨_, hinput, .below List.mem_cons_self hdir hbelow hnamed hkept⟩
  · rintro ⟨input, hinput, h⟩
    cases h with
    | given hmem hfile hkept =>
      obtain rfl := List.mem_singleton.mp hmem
      exact .given hinput hfile hkept
    | below hmem hdir hbelow hnamed hkept =>
      obtain rfl := List.mem_singleton.mp hmem
      exact .below hinput hdir hbelow hnamed hkept

theorem wanted_of_mem_collect (h : p ∈ finder.collect files inputs) :
    finder.Wanted files inputs p := by
  obtain ⟨input, hinput, hp⟩ := exists_input_of_mem_collect h
  exact wanted_iff.mpr ⟨input, hinput, mem_ofInput_iff.mp hp⟩

theorem exists_mem_collect_of_wanted (h : finder.Wanted files inputs p) :
    ∃ kept ∈ finder.collect files inputs, kept.components = p.components := by
  obtain ⟨input, hinput, hp⟩ := wanted_iff.mp h
  exact exists_mem_collect hinput (mem_ofInput_iff.mpr hp)

/-! ### One list for one set of inputs -/

/-- The components of one path come before those of another one. -/
def Precedes (c d : List Path.Component) : Prop := Path.compareComponents c d = .lt

instance : Std.Irrefl Precedes where
  irrefl c h := by
    have heq : Path.compareComponents c c = .eq := Std.ReflCmp.compare_self
    rw [Precedes, heq] at h
    cases h

instance : Std.Antisymm Precedes where
  antisymm c d hcd hdc := by
    have hswap : Path.compareComponents c d = (Path.compareComponents d c).swap :=
      Std.OrientedCmp.eq_swap
    rw [Precedes, hswap, hdc] at hcd
    cases hcd

theorem pairwise_components_collect (finder : Finder) (files : Files) (inputs : List Path) :
    ((finder.collect files inputs).map Path.components).Pairwise Precedes :=
  List.pairwise_map.mpr (pairwise_collect finder files inputs)

/-- Inputs that stand for the same paths are collected to the same list. -/
theorem components_collect_eq {others : List Path}
    (h : ∀ p, finder.Wanted files inputs p ↔ finder.Wanted files others p) :
    (finder.collect files inputs).map Path.components =
      (finder.collect files others).map Path.components := by
  have hsubset : ∀ {these those : List Path},
      (∀ p, finder.Wanted files these p → finder.Wanted files those p) →
      ∀ c ∈ (finder.collect files these).map Path.components,
        c ∈ (finder.collect files those).map Path.components := by
    intro these those himp c hc
    obtain ⟨p, hp, rfl⟩ := List.mem_map.mp hc
    obtain ⟨kept, hkept, heq⟩ := exists_mem_collect_of_wanted (himp p (wanted_of_mem_collect hp))
    exact List.mem_map.mpr ⟨kept, hkept, heq⟩
  refine List.Pairwise.eq_of_mem_iff (pairwise_components_collect finder files inputs)
    (pairwise_components_collect finder files others) fun c => ⟨?_, ?_⟩
  · exact hsubset (fun p => (h p).mp) c
  · exact hsubset (fun p => (h p).mpr) c

theorem wanted_congr {others : List Path} (h : ∀ p, p ∈ inputs ↔ p ∈ others) :
    finder.Wanted files inputs p ↔ finder.Wanted files others p := by
  rw [wanted_iff, wanted_iff]
  simp only [h]

/-! ### Collecting again -/

theorem dropRepeatedAfter_of_pairwise {paths : List Path}
    (h : (p :: paths).Pairwise fun p q => p.compare q = .lt) : dropRepeatedAfter p paths = paths := by
  induction paths generalizing p with
  | nil => rfl
  | cons q paths ih =>
    obtain ⟨hp, hq⟩ := List.pairwise_cons.mp h
    have hdiffer : ¬ p.same q = true := by
      intro hsame
      have hlt := hp q List.mem_cons_self
      rw [Path.compare_eq_iff.mpr (Path.same_iff.mp hsame)] at hlt
      cases hlt
    rw [dropRepeatedAfter, if_neg hdiffer, ih hq]

theorem dropRepeated_of_pairwise {paths : List Path}
    (h : paths.Pairwise fun p q => p.compare q = .lt) : dropRepeated paths = paths := by
  cases paths with
  | nil => rfl
  | cons p paths => rw [dropRepeated, dropRepeatedAfter_of_pairwise h]

theorem sortPaths_of_pairwise {paths : List Path}
    (h : paths.Pairwise fun p q => p.compare q = .lt) : sortPaths paths = paths :=
  List.mergeSort_of_pairwise (h.imp fun hlt => by rw [hlt]; rfl)

/-- Paths of files in ascending order of which none is ignored are collected as they are. -/
theorem collect_of_pairwise {paths : List Path}
    (horder : paths.Pairwise fun p q => p.compare q = .lt)
    (hfile : ∀ p ∈ paths, files.isFile p = true) (hkept : ∀ p ∈ paths, finder.ignores p = false) :
    finder.collect files paths = paths := by
  have hinputs : paths.flatMap (finder.ofInput files) = paths := by
    calc paths.flatMap (finder.ofInput files) = paths.flatMap fun p => [p] :=
          List.flatMap_congr fun p hp => ofInput_of_isFile (hfile p hp) (hkept p hp)
      _ = paths := List.flatMap_singleton' paths
  rw [collect, hinputs, sortPaths_of_pairwise horder, dropRepeated_of_pairwise horder]

/-- **The collected paths are what is wanted, in strictly ascending order.** Each of them is
wanted, and whatever is wanted has the components of one of them. Inputs in another order or
repeated are collected to the same components, and the collected paths to themselves. -/
theorem collect_exact (finder : Finder) (files : Files) (inputs : List Path) :
    let collected := finder.collect files inputs
    collected.Pairwise (fun p q => p.compare q = .lt) ∧
    (∀ p ∈ collected, finder.Wanted files inputs p) ∧
    (∀ p, finder.Wanted files inputs p → ∃ kept ∈ collected, kept.components = p.components) ∧
    (∀ others : List Path, (∀ p, p ∈ others ↔ p ∈ inputs) →
      (finder.collect files others).map Path.components = collected.map Path.components) ∧
    finder.collect files collected = collected := by
  have horder := pairwise_collect finder files inputs
  refine ⟨horder, fun _ => wanted_of_mem_collect, fun _ => exists_mem_collect_of_wanted, ?_, ?_⟩
  · intro others hothers
    exact components_collect_eq fun _ => wanted_congr hothers
  · refine collect_of_pairwise horder (fun p hp => ?_) fun p hp => ?_
    · exact (wanted_of_mem_collect hp).isFile
    · exact (wanted_of_mem_collect hp).kept

/-- A readme beside a directory with a document and a draft. -/
def documentAndDraft : Files where
  top := .dir [("README.md", .file (.text "")), ("sops", .dir [
    ("GDI-SOP0001_a.md", .file (.text "")),
    ("drafts", .dir [("GDI-SOP0002_b.md", .file (.text ""))])])]
  current := []

def finderWithoutDrafts : Finder :=
  ⟨Conventions.ofConfig .standard, (Glob.parseAll ["**/drafts/**"]).toOption.getD []⟩

/-- A file is wanted whatever its name is, a document below a directory unless it is excluded;
the directory may be given before or after the file, once or twice. -/
theorem collect_exact_documentAndDraft :
    (∃ kept ∈ finderWithoutDrafts.collect documentAndDraft [⟨"sops/."⟩, ⟨"README.md"⟩],
      kept.components = [.name "sops", .name "GDI-SOP0001_a.md"]) ∧
    ⟨"sops/./drafts/GDI-SOP0002_b.md"⟩ ∉
      finderWithoutDrafts.collect documentAndDraft [⟨"sops/."⟩, ⟨"README.md"⟩] ∧
    (∀ p, p ∈ ([⟨"README.md"⟩, ⟨"sops/."⟩, ⟨"README.md"⟩] : List Path) ↔
      p ∈ ([⟨"sops/."⟩, ⟨"README.md"⟩] : List Path)) ∧
    (finderWithoutDrafts.collect documentAndDraft
        [⟨"README.md"⟩, ⟨"sops/."⟩, ⟨"README.md"⟩]).map Path.components =
      (finderWithoutDrafts.collect documentAndDraft [⟨"sops/."⟩, ⟨"README.md"⟩]).map
        Path.components := by
  have hmembers : ∀ p, p ∈ ([⟨"README.md"⟩, ⟨"sops/."⟩, ⟨"README.md"⟩] : List Path) ↔
      p ∈ ([⟨"sops/."⟩, ⟨"README.md"⟩] : List Path) := by
    intro p
    simp only [List.mem_cons, List.not_mem_nil, or_false]
    exact ⟨fun h => h.elim .inr id, .inr⟩
  obtain ⟨-, hwanted, hfound, hothers, -⟩ :=
    collect_exact finderWithoutDrafts documentAndDraft [⟨"sops/."⟩, ⟨"README.md"⟩]
  refine ⟨?_, fun hdraft => ?_, hmembers, hothers _ hmembers⟩
  · have hdocument : finderWithoutDrafts.Wanted documentAndDraft [⟨"sops/."⟩, ⟨"README.md"⟩]
        ⟨"sops/./GDI-SOP0001_a.md"⟩ :=
      wanted_iff.mpr ⟨⟨"sops/."⟩, List.mem_cons_self, mem_ofInput_iff.mp (by decide +kernel)⟩
    exact hfound _ hdocument
  · exact absurd (hwanted _ hdraft).kept (by decide +kernel)

end SopDocs.Files.Finder
