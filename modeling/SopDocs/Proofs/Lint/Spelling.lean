import SopDocs.Proofs.Lint.MetadataTable
import SopDocs.Proofs.Path
import SopDocs.Proofs.Text.Search

/-!
# The directory of a document is read off the spelling of its path

The rule on the metadata table takes the name of the directory from the path as it is written. A
path that names a directory on the way to the document is read like the same path below any other.
A path that names none, such as the file name alone, is taken to be in a directory without a name,
so where a type is given it is refused wherever the document is. This is the only way in which the
spelling of a relative path matters: below the current directory the same document may be accepted.
-/

namespace SopDocs

namespace Path

/-- A path with a component other than a dot in front of the last one. -/
def NamesDirectory (p : Path) : Prop := ∃ c ∈ p.components.dropLast, c ≠ .here

instance (p : Path) : Decidable p.NamesDirectory := inferInstanceAs (Decidable (∃ c ∈ _, _))

theorem not_namesDirectory_iff {p : Path} :
    ¬ p.NamesDirectory ↔ ∀ c ∈ p.components.dropLast, c = .here := by
  simp only [NamesDirectory, not_exists, not_and, not_not]

/-- The name of a file alone names no directory. -/
theorem not_namesDirectory_of_isName {name : String} (h : IsName name) :
    ¬ NamesDirectory ⟨name⟩ := by
  rw [not_namesDirectory_iff, components_eq, not_isAbsolute_of_isName h, ofPieces_name h]
  exact List.forall_mem_nil _

end Path

namespace Lint

open Metadata SopDocs.Path

/-! ### The directory that a path names -/

theorem directoryName_eq (p : Path) :
    directoryName p = (p.components.dropLast.getLast?.map Component.label).getD "" := by
  unfold directoryName
  cases hparent : p.parent? with
  | none =>
    rw [dropLast_components_of_parent?_eq_none hparent]
    rfl
  | some d =>
    rw [Option.bind_some, getD_fileName?, components_parent? hparent]

theorem directoryName_of_not_namesDirectory {p : Path} (h : ¬ p.NamesDirectory) :
    directoryName p = "" := by
  rw [directoryName_eq]
  cases hlast : p.components.dropLast.getLast? with
  | none => rfl
  | some c =>
    have hhere : c = .here := not_namesDirectory_iff.mp h c (List.mem_of_getLast? hlast)
    rw [hhere]
    rfl

/-- A directory that a path names is the same below any other path. -/
theorem directoryName_join {base p : Path} (hbase : base.text ≠ "") (hp : p.isAbsolute = false)
    (h : p.NamesDirectory) : directoryName (base.join p) = directoryName p := by
  obtain ⟨cs, hjoin, -, hcs⟩ := exists_components_join hbase hp
  obtain ⟨c, hc, hne⟩ := h
  rcases List.eq_nil_or_concat' cs with rfl | ⟨directories, last, rfl⟩
  · rcases hcs with hcs | hcs <;> simp [hcs] at hc
  · have hown : p.components.dropLast = directories ∨
        p.components.dropLast = .here :: directories := by
      rcases hcs with hcs | hcs
      · exact Or.inl (by rw [hcs, List.dropLast_concat])
      · exact Or.inr (by rw [hcs, ← List.cons_append, List.dropLast_concat])
    have hmem : c ∈ directories := by
      rcases hown with hown | hown
      · rwa [hown] at hc
      · rw [hown] at hc
        exact (List.mem_cons.mp hc).resolve_left hne
    have hjoined : (base.join p).components.dropLast = base.components ++ directories := by
      rw [hjoin, ← List.append_assoc, List.dropLast_concat]
    have hnamed : directories ≠ [] := List.ne_nil_of_mem hmem
    have hlast : p.components.dropLast.getLast? = directories.getLast? := by
      rcases hown with hown | hown
      · rw [hown]
      · rw [hown, List.getLast?_cons_of_ne_nil hnamed]
    rw [directoryName_eq, directoryName_eq, hjoined, hlast,
      List.getLast?_append_of_ne_nil _ hnamed]

/-! ### The directory that a document asks for -/

/-- The value of the type in the metadata table, with the directory that it asks for. -/
def askedDirectory? (root : Tree.Node) : Option (String × String) :=
  (Tree.tableWith? Tree.metadataHeader root).bind fun table =>
    (MetadataTable.lastGiven? table.bodyRows typeKey).bind fun typeValue =>
      (expectedDirectory? typeValue).map fun name => (typeValue, name)

theorem ne_of_askedDirectory? {root : Tree.Node} {typeValue name : String}
    (h : askedDirectory? root = some (typeValue, name)) : name ≠ "" := by
  obtain ⟨table, -, h⟩ := Option.bind_eq_some_iff.mp h
  obtain ⟨value, -, h⟩ := Option.bind_eq_some_iff.mp h
  obtain ⟨directory, hdirectory, hpair⟩ := Option.map_eq_some_iff.mp h
  obtain ⟨rfl, rfl⟩ := Prod.mk.inj hpair
  exact expectedDirectory?_ne hdirectory

/-- What is wrong with the directory of a document at a path. -/
def directoryProblems (root : Tree.Node) (path : Path) : List Problem :=
  match askedDirectory? root with
  | none => []
  | some (typeValue, name) =>
    if directoryName path = name then [] else [.wrongDirectory (directoryName path) typeValue name]

def Problem.isDirectory : Problem → Bool
  | wrongDirectory _ _ _ => true
  | _ => false

theorem isDirectory_of_mem_metadataValue {c : Conventions} {key value : String} {q : Problem}
    (hq : q ∈ metadataValue c key value) : q.isDirectory = false := by
  unfold metadataValue at hq
  repeat' split at hq
  all_goals first | exact absurd hq List.not_mem_nil | exact List.mem_singleton.mp hq ▸ rfl

/-- Only the last step of the rule looks at the path. -/
theorem exists_metadataProblems_eq (c : Conventions) (table : MetadataTable) :
    ∃ elsewhere : List Problem, (∀ q ∈ elsewhere, q.isDirectory = false) ∧
      ∀ path, metadataProblems c path table = elsewhere ++ metadataDirectory path table.record := by
  refine ⟨_, ?_, fun path => rfl⟩
  have hvalues : ∀ q ∈ metadataValues c table.record, q.isDirectory = false := by
    intro q hq
    obtain ⟨entry, -, hq⟩ := List.mem_flatMap.mp hq
    exact isDirectory_of_mem_metadataValue hq
  have hnode : ∀ q ∈ (if needsNodeKeys table.record then
      (missingKeys table.record nodeKeys).map Problem.missingNodeMetadata else []),
      q.isDirectory = false := by
    split
    · exact List.forall_mem_map.mpr fun _ _ => rfl
    · exact List.forall_mem_nil _
  have hlevel : ∀ q ∈ (if table.record.sopType? = some .europeanLevel ∧
      hasNodeValues table.record then [Problem.nodeValuesAtEuropeanLevel] else []),
      q.isDirectory = false := by
    split
    · exact List.forall_mem_singleton.mpr rfl
    · exact List.forall_mem_nil _
  simp only [List.forall_mem_append, List.forall_mem_map]
  exact ⟨⟨⟨⟨fun _ _ => rfl, hvalues⟩, fun _ _ => rfl⟩, hnode⟩, hlevel⟩

theorem directoryProblems_of_table {root table : Tree.Node} (path : Path)
    (h : Tree.tableWith? Tree.metadataHeader root = some table) :
    metadataDirectory path (MetadataTable.ofTable table).record = directoryProblems root path := by
  have hget : (MetadataTable.ofTable table).record.get? typeKey =
      MetadataTable.lastGiven? table.bodyRows typeKey := MetadataTable.get?_ofRows _ _
  unfold metadataDirectory directoryProblems askedDirectory?
  rw [hget, h, Option.bind_some]
  cases MetadataTable.lastGiven? table.bodyRows typeKey with
  | none => rfl
  | some typeValue =>
    simp only [Option.bind_some]
    cases expectedDirectory? typeValue <;> rfl

theorem exists_metadataTable_eq (ctx : Context) :
    ∃ elsewhere : List Problem, (∀ q ∈ elsewhere, q.isDirectory = false) ∧
      ∀ path, metadataTable { ctx with path := path } =
        elsewhere ++ directoryProblems ctx.root path := by
  unfold metadataTable
  simp only
  cases htable : Tree.tableWith? Tree.metadataHeader ctx.root with
  | none =>
    have hnone : askedDirectory? ctx.root = none := by
      rw [askedDirectory?, htable, Option.bind_none]
    refine ⟨[.noMetadataTable], List.forall_mem_singleton.mpr rfl, fun path => ?_⟩
    rw [directoryProblems, hnone]
    rfl
  | some table =>
    obtain ⟨elsewhere, haway, heq⟩ :=
      exists_metadataProblems_eq ctx.conventions (MetadataTable.ofTable table)
    refine ⟨elsewhere, haway, fun path => ?_⟩
    rw [← directoryProblems_of_table path htable]
    exact heq path

/-! ### Messages up to the directory -/

/-- The words that only the message about the directory starts with. -/
def directoryStart : String := "The document is stored in directory '"

theorem apart_directoryStart {q : Problem} (h : q.isDirectory = false) :
    Text.Apart q.message directoryStart := by
  cases q
  case wrongDirectory => cases h
  -- A message is a fixed text with cells and names put behind it.
  all_goals
    dsimp only [Problem.message]
    repeat with_reducible apply Text.Apart.append
    exact Text.apart_ofList (by decide)

theorem startsWith_wrongDirectory (actual typeValue name : String) :
    Text.startsWith (Problem.wrongDirectory actual typeValue name).message directoryStart =
      true := by
  dsimp only [Problem.message]
  repeat with_reducible apply Text.startsWith_append
  exact List.isPrefixOf_iff_prefix.mpr List.prefix_rfl

/-- Two messages that differ at most in the directory that a document is said to be in. -/
def SameButDirectory (m m' : String) : Prop :=
  m = m' ∨ ∃ actual actual' typeValue name,
    m = (Problem.wrongDirectory actual typeValue name).message ∧
    m' = (Problem.wrongDirectory actual' typeValue name).message

/-- Each message of a list is in another one, up to the directory. -/
def Covered (ms ms' : List String) : Prop := ∀ m ∈ ms, ∃ m' ∈ ms', SameButDirectory m m'

/-- The same set of errors and the same set of warnings, up to the directory. -/
structure SameViolations (f g : Findings) : Prop where
  errors : Covered f.errors g.errors
  errors_back : Covered g.errors f.errors
  warnings : Covered f.warnings g.warnings
  warnings_back : Covered g.warnings f.warnings

theorem Covered.refl (ms : List String) : Covered ms ms := fun m hm => ⟨m, hm, Or.inl rfl⟩

theorem SameViolations.refl (f : Findings) : SameViolations f f :=
  ⟨.refl _, .refl _, .refl _, .refl _⟩

theorem covered_wrongDirectory (ms : List String) (actual actual' typeValue name : String) :
    Covered (ms ++ [(Problem.wrongDirectory actual typeValue name).message])
      (ms ++ [(Problem.wrongDirectory actual' typeValue name).message]) := by
  intro m hm
  rcases List.mem_append.mp hm with hm | hm
  · exact ⟨m, List.mem_append_left _ hm, Or.inl rfl⟩
  · refine ⟨_, List.mem_append_right _ (List.mem_singleton_self _), Or.inr ?_⟩
    exact ⟨actual, actual', typeValue, name, List.mem_singleton.mp hm, rfl⟩

theorem startsWith_of_sameButDirectory {m m' : String} (h : SameButDirectory m m')
    (hm : Text.startsWith m directoryStart = true) : Text.startsWith m' directoryStart = true := by
  rcases h with rfl | ⟨_, actual', typeValue, name, -, rfl⟩
  · exact hm
  · exact startsWith_wrongDirectory actual' typeValue name

/-! ### One document at two paths -/

/-- What the rule on the metadata table reports of a document at a path. -/
def metadataReport (ctx : Context) (strict : Bool) (path : Path) : Findings :=
  Rule.metadataTable.check { ctx with path := path } strict .empty

/-- The path only matters for an error about the directory, which comes last. -/
theorem exists_metadataReport_eq (ctx : Context) (strict : Bool) :
    ∃ rest : Findings, (∀ m ∈ rest.errors, Text.startsWith m directoryStart = false) ∧
      ∀ path, metadataReport ctx strict path =
        ⟨rest.errors ++ (directoryProblems ctx.root path).map Problem.message, rest.warnings⟩ := by
  obtain ⟨elsewhere, haway, heq⟩ := exists_metadataTable_eq ctx
  refine ⟨.ofProblems strict elsewhere, fun m hm => ?_, fun path => ?_⟩
  · obtain ⟨q, hq, rfl⟩ := Findings.exists_of_mem_errors hm
    exact (apart_directoryStart (haway q hq)).startsWith_eq_false
  · have herrors : ∀ q ∈ directoryProblems ctx.root path, q.isError = true := by
      intro q hq
      unfold directoryProblems at hq
      split at hq
      · cases hq
      · split at hq
        · cases hq
        · rw [List.mem_singleton.mp hq]
          rfl
    unfold metadataReport Rule.check
    show Findings.ofProblems strict (metadataTable { ctx with path := path }) = _
    rw [heq path, Findings.ofProblems, Findings.addProblems_append,
      Findings.addProblems_of_isError herrors]
    rfl

section Spelling

variable {ctx : Context} {strict : Bool} {c p : Path} {typeValue name : String}

theorem metadataReport_of_not_asked (h : askedDirectory? ctx.root = none) (path path' : Path) :
    metadataReport ctx strict path = metadataReport ctx strict path' := by
  obtain ⟨rest, -, heq⟩ := exists_metadataReport_eq ctx strict
  rw [heq, heq, directoryProblems, directoryProblems, h]

theorem metadataReport_congr {path path' : Path} (h : directoryName path = directoryName path') :
    metadataReport ctx strict path = metadataReport ctx strict path' := by
  obtain ⟨rest, -, heq⟩ := exists_metadataReport_eq ctx strict
  rw [heq, heq, directoryProblems, directoryProblems, h]

/-- A document in the directory that it asks for, and anywhere else. -/
theorem exists_metadataReport_of_asked (strict : Bool)
    (h : askedDirectory? ctx.root = some (typeValue, name)) :
    ∃ rest : Findings, (∀ m ∈ rest.errors, Text.startsWith m directoryStart = false) ∧
      (∀ path, IsIn path name → metadataReport ctx strict path = rest) ∧
      ∀ path, ¬ IsIn path name → metadataReport ctx strict path =
        ⟨rest.errors ++ [(Problem.wrongDirectory (directoryName path) typeValue name).message],
          rest.warnings⟩ := by
  obtain ⟨rest, haway, heq⟩ := exists_metadataReport_eq ctx strict
  have hname : name ≠ "" := ne_of_askedDirectory? h
  have hproblems : ∀ path, directoryProblems ctx.root path =
      if directoryName path = name then []
      else [.wrongDirectory (directoryName path) typeValue name] := by
    intro path
    unfold directoryProblems
    rw [h]
  refine ⟨rest, haway, fun path hin => ?_, fun path hout => ?_⟩
  · rw [heq, hproblems, if_pos ((directoryName_eq_iff hname).mpr hin), List.map_nil,
      List.append_nil]
  · rw [heq, hproblems, if_neg ((directoryName_eq_iff hname).not.mpr hout)]
    rfl

theorem not_isIn_of_not_namesDirectory (h : askedDirectory? ctx.root = some (typeValue, name))
    (hp : ¬ p.NamesDirectory) : ¬ IsIn p name := by
  have hname : name ≠ "" := ne_of_askedDirectory? h
  rw [← directoryName_eq_iff hname, directoryName_of_not_namesDirectory hp]
  exact Ne.symm hname

/-- The two reports differ if only one of the paths is in the directory that is asked for. -/
theorem not_sameViolations {path path' : Path}
    (h : askedDirectory? ctx.root = some (typeValue, name)) (hout : ¬ IsIn path name)
    (hin : IsIn path' name) :
    ¬ SameViolations (metadataReport ctx strict path) (metadataReport ctx strict path') := by
  obtain ⟨rest, haway, heqIn, heqOut⟩ := exists_metadataReport_of_asked strict h
  rw [heqIn path' hin, heqOut path hout]
  intro hsame
  obtain ⟨m, hm, hmessage⟩ :=
    hsame.errors _ (List.mem_append_right _ (List.mem_singleton_self _))
  have hstarts := startsWith_of_sameButDirectory hmessage (startsWith_wrongDirectory _ _ _)
  exact Bool.false_ne_true ((haway m hm).symm.trans hstarts)

/-- Two paths outside the directory that is asked for lead to the same reports, except that each
names the directory that it is in. -/
theorem sameViolations_of_not_isIn {path path' : Path}
    (h : askedDirectory? ctx.root = some (typeValue, name)) (hout : ¬ IsIn path name)
    (hout' : ¬ IsIn path' name) :
    SameViolations (metadataReport ctx strict path) (metadataReport ctx strict path') := by
  obtain ⟨rest, -, -, heqOut⟩ := exists_metadataReport_of_asked strict h
  rw [heqOut path hout, heqOut path' hout']
  exact ⟨covered_wrongDirectory _ _ _ _ _, covered_wrongDirectory _ _ _ _ _, .refl _, .refl _⟩

end Spelling

/-- A file that is addressed by its name is in the directory that it is joined to. -/
theorem isIn_join_name_iff {c : Path} {file : String} (hc : c.isAbsolute = true)
    (hfile : IsName file) (name : String) :
    IsIn (c.join ⟨file⟩) name ↔ c.fileName? = some name := by
  have hdirectories : (c.join ⟨file⟩).components.dropLast = c.components := by
    rw [components_join_name c hfile, List.dropLast_concat]
  have hroot : c.components ≠ [] := by
    rw [components_eq, if_pos hc]
    exact List.cons_ne_nil _ _
  obtain ⟨directory, hparent⟩ : ∃ directory, (c.join ⟨file⟩).parent? = some directory := by
    rw [← Option.isSome_iff_exists, Option.isSome_iff_ne_none]
    intro hnone
    exact hroot (hdirectories.symm.trans (dropLast_components_of_parent?_eq_none hnone))
  have hname : directory.fileName? = c.fileName? := by
    unfold fileName?
    rw [components_parent? hparent, hdirectories]
  unfold IsIn
  rw [hparent, ← hname]
  simp

/-- A path that goes up at the end is in no directory, though the document is in one. -/
theorem not_isIn_of_up {path : Path} (h : path.components.dropLast.getLast? = some .up)
    (name : String) : ¬ IsIn path name := by
  rintro ⟨directory, hparent, hname⟩
  unfold fileName? at hname
  rw [components_parent? hparent, h] at hname
  cases hname

/-- **The spelling of a relative path matters exactly where it leaves the directory out.** Of a path
the rule looks at the last component in front of the file and at nothing else; where that component
goes up, the path is in no directory. So a path that names a directory leads to the same report
below every current directory. One that names none leads to other violations than below the current
directory exactly if the document asks for the directory that it is in there: it is then refused in
addition, as if it were in no directory. The name of a file alone is such a path, and its directory
is then the current one. -/
theorem metadataReport_spelling (ctx : Context) (strict : Bool) {c p : Path}
    (hc : c.isAbsolute = true) (hp : p.isAbsolute = false) :
    (∀ path path' : Path,
      path.components.dropLast.getLast? = path'.components.dropLast.getLast? →
        metadataReport ctx strict path = metadataReport ctx strict path') ∧
    (∀ path : Path, path.components.dropLast.getLast? = some .up → ∀ name, ¬ IsIn path name) ∧
    (p.NamesDirectory → metadataReport ctx strict p = metadataReport ctx strict (c.join p)) ∧
    (SameViolations (metadataReport ctx strict p) (metadataReport ctx strict (c.join p)) ↔
      ∀ typeValue name, askedDirectory? ctx.root = some (typeValue, name) →
        IsIn (c.join p) name → p.NamesDirectory) ∧
    (∀ typeValue name, askedDirectory? ctx.root = some (typeValue, name) → ¬ p.NamesDirectory →
      IsIn (c.join p) name → metadataReport ctx strict p =
        ⟨(metadataReport ctx strict (c.join p)).errors ++
            [(Problem.wrongDirectory "" typeValue name).message],
          (metadataReport ctx strict (c.join p)).warnings⟩) ∧
    ∀ file, IsName file → p = ⟨file⟩ → ¬ p.NamesDirectory ∧
      ∀ name, IsIn (c.join p) name ↔ c.fileName? = some name := by
  have hbase : c.text ≠ "" := by
    intro hempty
    unfold isAbsolute at hc
    rw [hempty] at hc
    cases hc
  have hnames : p.NamesDirectory →
      metadataReport ctx strict p = metadataReport ctx strict (c.join p) := fun h =>
    metadataReport_congr (directoryName_join hbase hp h).symm
  refine ⟨fun path path' hlast => ?_, fun path hup => not_isIn_of_up hup, hnames,
    ⟨fun hsame typeValue name hasked hin => ?_, fun h => ?_⟩,
    fun typeValue name hasked hnone hin => ?_, fun file hfile hbare => ?_⟩
  · apply metadataReport_congr
    rw [directoryName_eq, directoryName_eq, hlast]
  · by_contra hnone
    exact not_sameViolations hasked (not_isIn_of_not_namesDirectory hasked hnone) hin hsame
  · by_cases hnamed : p.NamesDirectory
    · rw [hnames hnamed]
      exact .refl _
    · cases hasked : askedDirectory? ctx.root with
      | none =>
        rw [metadataReport_of_not_asked hasked p (c.join p)]
        exact .refl _
      | some asked =>
        have hout : ¬ IsIn (c.join p) asked.2 := fun hin => hnamed (h asked.1 asked.2 hasked hin)
        exact sameViolations_of_not_isIn hasked (not_isIn_of_not_namesDirectory hasked hnamed) hout
  · obtain ⟨rest, -, heqIn, heqOut⟩ := exists_metadataReport_of_asked strict hasked
    rw [heqOut p (not_isIn_of_not_namesDirectory hasked hnone), heqIn _ hin,
      directoryName_of_not_namesDirectory hnone]
  · rw [hbare]
    exact ⟨not_namesDirectory_of_isName hfile, isIn_join_name_iff hc hfile⟩

theorem askedDirectory?_nodeDocument :
    askedDirectory? nodeDocument.root = some ("NODE-specific sop", "node-specific") := by
  decide

/-- A document for a node that is accepted, and refused when it is addressed by its name. -/
theorem metadataReport_spelling_nodeDocument :
    (metadataReport nodeDocument true
      (join ⟨"/repo/sops/node-specific"⟩ ⟨"GDI-SOP0002_transfer.md"⟩)).isEmpty = true ∧
    metadataReport nodeDocument true ⟨"GDI-SOP0002_transfer.md"⟩ =
      ⟨[(Problem.wrongDirectory "" "NODE-specific sop" "node-specific").message], []⟩ ∧
    metadataReport nodeDocument true ⟨"./node-specific/GDI-SOP0002_transfer.md"⟩ =
      metadataReport nodeDocument true
        (join ⟨"/repo/sops"⟩ ⟨"./node-specific/GDI-SOP0002_transfer.md"⟩) := by
  have hjoined : metadataReport nodeDocument true
      (join ⟨"/repo/sops/node-specific"⟩ ⟨"GDI-SOP0002_transfer.md"⟩) = ⟨[], []⟩ := by
    decide +kernel
  have hasked := askedDirectory?_nodeDocument
  obtain ⟨-, -, -, -, hrefused, hbare⟩ := metadataReport_spelling nodeDocument true
    (c := ⟨"/repo/sops/node-specific"⟩) (p := ⟨"GDI-SOP0002_transfer.md"⟩) (by decide) (by decide)
  obtain ⟨hnone, hin⟩ := hbare _ (by decide) rfl
  have hown := hrefused _ _ hasked hnone ((hin _).mpr (by decide))
  rw [hjoined] at hown ⊢
  have hnamed := metadataReport_spelling nodeDocument true (c := ⟨"/repo/sops"⟩)
    (p := ⟨"./node-specific/GDI-SOP0002_transfer.md"⟩) (by decide) (by decide)
  exact ⟨rfl, hown, hnamed.2.2.1 (by decide)⟩

/-- A document that is addressed by its name from inside the right directory is refused. -/
theorem metadataReport_not_spelling :
    ¬ ∀ (ctx : Context) (strict : Bool) (c p : Path), c.isAbsolute = true → p.isAbsolute = false →
      SameViolations (metadataReport ctx strict p) (metadataReport ctx strict (c.join p)) := by
  intro hspelling
  have hsame := hspelling nodeDocument true ⟨"/repo/sops/node-specific"⟩
    ⟨"GDI-SOP0002_transfer.md"⟩ (by decide) (by decide)
  have hasked := askedDirectory?_nodeDocument
  have hnone : ¬ NamesDirectory ⟨"GDI-SOP0002_transfer.md"⟩ :=
    not_namesDirectory_of_isName (by decide)
  have hin : IsIn (join ⟨"/repo/sops/node-specific"⟩ ⟨"GDI-SOP0002_transfer.md"⟩)
      "node-specific" := (isIn_join_name_iff (by decide) (by decide) _).mpr (by decide)
  exact not_sameViolations hasked (not_isIn_of_not_namesDirectory hasked hnone) hin hsame

end Lint

end SopDocs
