import SopDocs.Proofs.Charter
import SopDocs.Proofs.Files.Place

/-!
# Each charter is read once, by the first document that can

Documents ask for the glossary of their charter one after the other, and the files may change
between two of them. What is known of a charter is what the first successful read of its file
gave; it is never read again, changed or forgotten. A document that gets no glossary leaves
nothing behind.
-/

namespace SopDocs.Charters

open SopDocs.Path (IsName)

/-- A document asks for its glossary while the files are in some state. -/
structure Request where
  files : Files
  document : Path

/-- The charters known after requests. -/
def after (charters : Charters) (requests : List Request) : Charters :=
  requests.foldl (fun known r => (known.glossaryFor r.files r.document).2) charters

/-- What a request reads of a charter from its file, if the charter is that of its document. -/
def readBy? (config : Config) (charter : Path) (r : Request) : Option Glossary :=
  match (ofConfig config).path r.files r.document with
  | .error _ => none
  | .ok path => if path = charter then (read r.files charter).toOption else none

/-- The glossary that the first request with a successful read finds in a charter. -/
def firstRead? (config : Config) (requests : List Request) (charter : Path) : Option Glossary :=
  requests.findSome? (readBy? config charter)

/-- A directory above a place, marked as the root of a repository, with no marked directory
between the two. -/
structure IsRepositoryOf (config : Config) (files : Files) (place directory : Files.Location) :
    Prop where
  above : directory <+: place ∧ directory ≠ place
  marked : (ofConfig config).marks files directory = true
  nearest : ∀ other, other <+: place → other ≠ place →
    (ofConfig config).marks files other = true → other <+: directory

variable {config : Config} {charters : Charters} {files : Files}

/-! ### The root of a repository -/

theorem above_eq (place : Files.Location) :
    Files.above place = (List.range place.length).reverse.map place.take := by
  cases place <;> rfl

theorem mem_above {place directory : Files.Location} :
    directory ∈ Files.above place ↔ directory <+: place ∧ directory ≠ place := by
  rw [above_eq]
  simp only [List.mem_map, List.mem_reverse, List.mem_range]
  constructor
  · rintro ⟨n, hn, rfl⟩
    refine ⟨List.take_prefix n place, fun heq => ?_⟩
    have hlength := congrArg List.length heq
    rw [List.length_take] at hlength
    omega
  · rintro ⟨hbelow, hne⟩
    refine ⟨directory.length, ?_, (List.prefix_iff_eq_take.mp hbelow).symm⟩
    refine Nat.lt_of_le_of_ne hbelow.length_le fun hlength => hne ?_
    exact hbelow.eq_of_length hlength

/-- The directories above a place are listed from the nearest to the farthest. -/
theorem pairwise_above (place : Files.Location) :
    (Files.above place).Pairwise fun near far => far <+: near := by
  rw [above_eq, List.pairwise_map, List.pairwise_reverse]
  exact List.pairwise_lt_range.imp fun hlt => List.take_prefix_take_left (Nat.le_of_lt hlt)

theorem IsRepositoryOf.unique {place directory other : Files.Location}
    (h : IsRepositoryOf config files place directory)
    (hother : IsRepositoryOf config files place other) : directory = other := by
  have hle := hother.nearest directory h.above.1 h.above.2 h.marked
  have hge := h.nearest other hother.above.1 hother.above.2 hother.marked
  exact hle.eq_of_length (Nat.le_antisymm hle.length_le hge.length_le)

theorem isRepositoryOf_of_find? {place directory : Files.Location}
    (h : (Files.above place).find? ((ofConfig config).marks files) = some directory) :
    IsRepositoryOf config files place directory := by
  have hmarked := List.find?_some h
  obtain ⟨-, nearer, farther, hlist, hunmarked⟩ := List.find?_eq_some_iff_append.mp h
  refine ⟨mem_above.mp (List.mem_of_find?_eq_some h), hmarked, ?_⟩
  intro other hbelow hne hother
  have hmem := mem_above.mpr ⟨hbelow, hne⟩
  have hpairs := pairwise_above place
  rw [hlist] at hmem hpairs
  rcases List.mem_append.mp hmem with hnearer | hmem
  · have hnot := hunmarked other hnearer
    rw [hother] at hnot
    cases hnot
  · rcases List.mem_cons.mp hmem with rfl | hfarther
    · exact List.prefix_refl _
    · exact (List.pairwise_cons.mp (List.pairwise_append.mp hpairs).2.1).1 other hfarther

theorem isRepositoryOf_iff_of_find? {place directory : Files.Location}
    (h : (Files.above place).find? ((ofConfig config).marks files) = some directory)
    (other : Files.Location) : IsRepositoryOf config files place other ↔ other = directory := by
  have hroot := isRepositoryOf_of_find? h
  exact ⟨fun hother => hother.unique hroot, fun heq => heq ▸ hroot⟩

theorem not_isRepositoryOf_of_find? {place : Files.Location}
    (h : (Files.above place).find? ((ofConfig config).marks files) = none)
    (directory : Files.Location) : ¬ IsRepositoryOf config files place directory := by
  intro hroot
  exact List.find?_eq_none.mp h directory (mem_above.mpr hroot.above) hroot.marked

/-- The charter of a document stands below the nearest marked directory above it. -/
theorem path_eq_ok_iff {document charter : Path} :
    (ofConfig config).path files document = .ok charter ↔
      ∃ place directory, files.locate true document = .ok place ∧
        IsRepositoryOf config files place directory ∧
        charter = (Files.pathOf directory).join ⟨config.charterPath⟩ := by
  unfold path root
  cases hplace : files.locate true document with
  | error fault => simp [Except.map]
  | ok place =>
    simp only [Except.ok.injEq, exists_and_left, exists_eq_left']
    cases hfind : (Files.above place).find? ((ofConfig config).marks files) with
    | none => simp [Except.map, not_isRepositoryOf_of_find? hfind]
    | some directory =>
      simp only [isRepositoryOf_iff_of_find? hfind, exists_eq_left, Except.map, Except.ok.injEq]
      exact eq_comm

/-- Charters are told apart by their texts: two that are the same path have the same text. -/
theorem charter_eq_of_same {directory other : Files.Location} {p : Path}
    (hdirectory : ∀ name ∈ directory, IsName name) (hother : ∀ name ∈ other, IsName name)
    (h : ((Files.pathOf directory).join p).same ((Files.pathOf other).join p) = true) :
    (Files.pathOf directory).join p = (Files.pathOf other).join p := by
  have hne : ∀ l, (Files.pathOf l).text ≠ "" := by
    intro l heq
    have hlist := congrArg String.toList heq
    rw [Files.pathOf, String.toList_append] at hlist
    cases hlist
  cases hp : p.isAbsolute with
  | true =>
    unfold Path.join
    rw [if_pos hp, if_pos hp]
  | false =>
    rw [Path.same_iff, Path.components_join (hne _) hp, Path.components_join (hne _) hp,
      Files.components_pathOf hdirectory, Files.components_pathOf hother] at h
    have hnames := (List.cons.inj (List.append_cancel_right h)).2
    have heq : directory = other :=
      (List.map_inj_right fun _ _ h => Path.Component.name.inj h).mp hnames
    rw [heq]

/-! ### One request -/

theorem known?_add (charters : Charters) (charter other : Path) (glossary : Glossary) :
    (charters.add charter glossary).known? other =
      (charters.known? other).or (if charter = other then some glossary else none) := by
  have htext : charter.text = other.text ↔ charter = other := by
    cases charter
    cases other
    simp
  unfold known? add
  rw [List.find?_append, Option.map_or]
  by_cases h : charter = other <;> simp [htext, h]

theorem path_of_forget (h : charters.forget = ofConfig config) (files : Files) (document : Path) :
    charters.path files document = (ofConfig config).path files document := by
  have hforget : charters.forget.path files document = charters.path files document := rfl
  rw [← hforget, h]

/-- A request adds what it reads of its charter, unless that charter was known. -/
theorem known?_glossaryFor (h : charters.forget = ofConfig config) (r : Request) (charter : Path) :
    (charters.glossaryFor r.files r.document).2.known? charter =
      (charters.known? charter).or (readBy? config charter r) := by
  unfold glossaryFor readBy?
  rw [path_of_forget h]
  cases (ofConfig config).path r.files r.document with
  | error failure => simp
  | ok path =>
    by_cases hpath : path = charter
    · subst hpath
      simp only
      cases hknown : charters.known? path with
      | some glossary => simp [hknown]
      | none =>
        cases hread : read r.files path with
        | error failure => simp [hknown, Except.toOption]
        | ok glossary => simp [Except.toOption, known?_add, hknown]
    · simp only [if_neg hpath, Option.or_none]
      cases charters.known? path with
      | some glossary => rfl
      | none =>
        cases read r.files path with
        | error failure => rfl
        | ok glossary => simp [known?_add, hpath]

/-- A request gets what is known of its charter from then on. -/
theorem glossaryFor_eq_ok_iff (h : charters.forget = ofConfig config) (r : Request)
    {glossary : Glossary} :
    (charters.glossaryFor r.files r.document).1 = .ok glossary ↔
      ∃ charter, charters.path r.files r.document = .ok charter ∧
        (charters.glossaryFor r.files r.document).2.known? charter = some glossary := by
  simp only [known?_glossaryFor h]
  unfold glossaryFor readBy?
  rw [path_of_forget h]
  cases (ofConfig config).path r.files r.document with
  | error failure => simp
  | ok charter =>
    simp only [Except.ok.injEq, exists_eq_left', if_true]
    cases charters.known? charter with
    | some known => simp
    | none => cases read r.files charter <;> simp [Except.toOption]

/-- A request that fails leaves what is known as it is. -/
theorem snd_of_error {document : Path} {failure : Failure}
    (h : (charters.glossaryFor files document).1 = .error failure) :
    (charters.glossaryFor files document).2 = charters := by
  revert h
  unfold glossaryFor
  cases charters.path files document with
  | error failure => exact fun _ => rfl
  | ok charter =>
    simp only
    cases charters.known? charter with
    | some glossary => exact fun _ => rfl
    | none =>
      cases read files charter with
      | error failure => exact fun _ => rfl
      | ok glossary =>
        intro h
        cases h

/-! ### A run of requests -/

theorem forget_after (charters : Charters) (requests : List Request) :
    (charters.after requests).forget = charters.forget := by
  induction requests generalizing charters with
  | nil => rfl
  | cons r requests ih => exact (ih _).trans (forget_glossaryFor charters r.files r.document)

/-- What is known after a run is what was known before and, of the others, the first read. -/
theorem known?_after (h : charters.forget = ofConfig config) (requests : List Request)
    (charter : Path) :
    (charters.after requests).known? charter =
      (charters.known? charter).or (firstRead? config requests charter) := by
  induction requests generalizing charters with
  | nil => exact (Option.or_none).symm
  | cons r requests ih =>
    have hstep := ih ((forget_glossaryFor charters r.files r.document).trans h)
    rw [known?_glossaryFor h, Option.or_assoc] at hstep
    have hfirst : firstRead? config (r :: requests) charter =
        (readBy? config charter r).or (firstRead? config requests charter) := by
      unfold firstRead?
      rw [List.findSome?_cons]
      cases readBy? config charter r <;> rfl
    rw [hfirst]
    exact hstep

theorem known?_after_ofConfig (config : Config) (requests : List Request) (charter : Path) :
    ((ofConfig config).after requests).known? charter = firstRead? config requests charter :=
  known?_after rfl requests charter

/-- As long as the files stay as they are, the charters that are known hold what the files hold. -/
theorem current_after (requests : List Request) (hfiles : ∀ r ∈ requests, r.files = files)
    (h : Current files charters) : Current files (charters.after requests) := by
  induction requests generalizing charters with
  | nil => exact h
  | cons r requests ih =>
    obtain rfl := hfiles r List.mem_cons_self
    exact ih (fun e he => hfiles e (List.mem_cons_of_mem _ he)) (current_glossaryFor h r.document).1

/-- **What is known of charters does not show.** After any requests, in whatever states of the
files, a document gets the glossary that the first successful read of its charter found, in an
earlier state or now, and fails if there was none. What is known stays known as it is, and a
request that fails changes nothing. As long as the files do not change, the answer is that of
a run which knows no charter yet. The charter is looked for below the nearest marked directory
above the place of the document. -/
theorem known_charters_transparent (config : Config) (earlier : List Request) (r : Request) :
    let known := (ofConfig config).after earlier
    let answer := known.glossaryFor r.files r.document
    (∀ glossary, answer.1 = .ok glossary ↔
      ∃ charter, known.path r.files r.document = .ok charter ∧
        firstRead? config (earlier ++ [r]) charter = some glossary) ∧
    (∀ charter glossary, known.known? charter = some glossary →
      answer.2.known? charter = some glossary) ∧
    (∀ failure, answer.1 = .error failure → answer.2 = known) ∧
    ((∀ e ∈ earlier, e.files = r.files) →
      answer.1 = ((ofConfig config).glossaryFor r.files r.document).1) ∧
    ∀ charter, known.path r.files r.document = .ok charter ↔
      ∃ place directory, r.files.locate true r.document = .ok place ∧
        IsRepositoryOf config r.files place directory ∧
        charter = (Files.pathOf directory).join ⟨config.charterPath⟩ := by
  intro known answer
  have hforget : known.forget = ofConfig config := forget_after _ earlier
  have hpath : known.path r.files r.document = (ofConfig config).path r.files r.document :=
    path_of_forget hforget r.files r.document
  have hknown : ∀ charter, answer.2.known? charter = firstRead? config (earlier ++ [r]) charter := by
    intro charter
    rw [← known?_after_ofConfig, after, List.foldl_append]
    rfl
  refine ⟨fun glossary => ?_, fun charter glossary hsome => ?_, fun failure => snd_of_error,
    fun hfiles => ?_, fun charter => ?_⟩
  · rw [glossaryFor_eq_ok_iff hforget]
    simp only [← hknown]
    exact Iff.rfl
  · show (known.glossaryFor r.files r.document).2.known? charter = some glossary
    rw [known?_glossaryFor hforget, hsome, Option.some_or]
  · have hcurrent := current_after earlier hfiles (current_ofConfig r.files config)
    have hanswer := glossaryFor_fst hcurrent r.document
    rw [forget_after] at hanswer
    exact hanswer
  · rw [hpath]
    exact path_eq_ok_iff

/-- A repository with two documents and the given directory of charters. -/
def repository (charters : List (String × Files.Entry)) : Files where
  top := .dir [("work", .dir [
    (".git", .dir []),
    ("docs", .dir charters),
    ("GDI-SOP0001_a.md", .file (.text "")),
    ("GDI-SOP0002_b.md", .file (.text ""))])]
  current := ["work"]

def chartered : Files := repository
  [("GDI-SOP_charter.md", .file (.text "| Term | Definition |\n|---|---|\n| ELSI | ethics |\n"))]

def firstRequest : Request := ⟨chartered, ⟨"GDI-SOP0001_a.md"⟩⟩

/-- After the charter is gone a second document still gets its glossary, one that is not there
changes nothing, and as long as the charter is there the answer is that of a run of its own. -/
theorem known_charters_transparent_removed :
    let charter : Path := ⟨"/work/docs/GDI-SOP_charter.md"⟩
    let glossary : Glossary := ⟨[("ELSI", "ethics")]⟩
    let known := (ofConfig .standard).after [firstRequest]
    (known.glossaryFor (repository []) ⟨"GDI-SOP0002_b.md"⟩).1 = .ok glossary ∧
    (known.glossaryFor (repository []) ⟨"GDI-SOP0002_b.md"⟩).2.known? charter = some glossary ∧
    (known.glossaryFor (repository []) ⟨"GDI-SOP0003_c.md"⟩).2 = known ∧
    (known.glossaryFor chartered ⟨"GDI-SOP0002_b.md"⟩).1 =
      ((ofConfig .standard).glossaryFor chartered ⟨"GDI-SOP0002_b.md"⟩).1 := by
  intro charter glossary known
  have hknown : known.known? charter = some glossary := by decide +kernel
  have hpath : (known.path (repository []) ⟨"GDI-SOP0002_b.md"⟩).toOption = some charter := by
    decide +kernel
  have hmissing : (known.glossaryFor (repository []) ⟨"GDI-SOP0003_c.md"⟩).1.toOption = none := by
    decide +kernel
  obtain ⟨hanswer, hkept, -⟩ := known_charters_transparent .standard [firstRequest]
    ⟨repository [], ⟨"GDI-SOP0002_b.md"⟩⟩
  obtain ⟨-, -, hfailed, -⟩ := known_charters_transparent .standard [firstRequest]
    ⟨repository [], ⟨"GDI-SOP0003_c.md"⟩⟩
  obtain ⟨-, -, -, hsame, -⟩ := known_charters_transparent .standard [firstRequest]
    ⟨chartered, ⟨"GDI-SOP0002_b.md"⟩⟩
  refine ⟨(hanswer glossary).mpr ⟨charter, ?_, by decide +kernel⟩, hkept charter glossary hknown,
    ?_, hsame fun e he => ?_⟩
  · cases h : known.path (repository []) ⟨"GDI-SOP0002_b.md"⟩ with
    | error failure => simp [h, Except.toOption] at hpath
    | ok path => simpa [h, Except.toOption] using hpath
  · cases h : (known.glossaryFor (repository []) ⟨"GDI-SOP0003_c.md"⟩).1 with
    | error failure => exact hfailed failure h
    | ok glossary => simp [h, Except.toOption] at hmissing
  · rw [List.mem_singleton.mp he]
    rfl

end SopDocs.Charters
