import SopDocs.Lint.Run
import SopDocs.Proofs.Charter
import SopDocs.Proofs.Sorted

/-!
# The documents of a run do not interfere

A run hands three things from document to document: the charters known so far, the
report, and the list of inputs. The charters answer as the files do, the report keeps
one entry for each path, and of the inputs a document only sees how many carry its own
identifier. So a run finds of each document what it finds of it in a run of its own.
-/

namespace SopDocs.Lint

/-! ### What a document sees of the inputs -/

theorem checkTarget_inputs (ctx : Context) (inputs : List Path) (url : String) (known : Lookups) :
    checkTarget { ctx with inputs } url known = checkTarget ctx url known := rfl

theorem checkTargets_inputs (ctx : Context) (inputs : List Path) (urls : List String)
    (known : Lookups) :
    checkTargets { ctx with inputs } urls known = checkTargets ctx urls known := by
  induction urls generalizing known with
  | nil => rfl
  | cons url urls ih => simp only [checkTargets, checkTarget_inputs, ih]

/-- Whether two lists of inputs carry the identifier of a document equally often. -/
def SameUses (c : Conventions) (path : Path) (inputs inputs' : List Path) : Prop :=
  ∀ identifier, c.fileIdentifier? path = some identifier →
    identifierUses c inputs' identifier = identifierUses c inputs identifier

theorem fileName_inputs {ctx : Context} {inputs : List Path}
    (h : SameUses ctx.conventions ctx.path ctx.inputs inputs) :
    fileName { ctx with inputs } = fileName ctx := by
  unfold fileName
  cases hsplit : ctx.conventions.splitFileName? ctx.path with
  | none => rfl
  | some parts =>
    obtain ⟨identifier, title⟩ := parts
    have huses := h identifier (by simp [Conventions.fileIdentifier?, hsplit])
    simp only [huses]

theorem problems_inputs {ctx : Context} {inputs : List Path}
    (h : SameUses ctx.conventions ctx.path ctx.inputs inputs) (rule : Rule) :
    rule.problems { ctx with inputs } = rule.problems ctx := by
  cases rule with
  | references => exact congrArg Prod.fst (checkTargets_inputs ctx inputs _ _)
  | fileName => exact fileName_inputs h
  | _ => rfl

theorem runRules_inputs {ctx : Context} {inputs : List Path}
    (h : SameUses ctx.conventions ctx.path ctx.inputs inputs) (rules : List Rule) (strict : Bool)
    (f : Findings) :
    rules.foldl (fun f rule => rule.check { ctx with inputs } strict f) f =
      rules.foldl (fun f rule => rule.check ctx strict f) f := by
  unfold Rule.check
  simp only [problems_inputs h]

theorem lintTree_inputs {ctx : Context} {inputs : List Path}
    (h : SameUses ctx.conventions ctx.path ctx.inputs inputs) (strict : Bool) :
    lintTree { ctx with inputs } strict = lintTree ctx strict :=
  runRules_inputs h Rule.all strict .empty

theorem sameUses_of_perm (c : Conventions) (path : Path) {inputs inputs' : List Path}
    (h : inputs'.Perm inputs) : SameUses c path inputs inputs' :=
  fun _ _ => h.countP_eq _

/-- Inputs that do not carry the identifier of a document do not change how often it is used. -/
theorem sameUses_append {c : Conventions} {path : Path} (inputs : List Path) {more : List Path}
    (h : ∀ q ∈ more, ∀ identifier, c.fileIdentifier? path = some identifier →
      c.fileIdentifier? q ≠ some identifier) :
    SameUses c path inputs (inputs ++ more) := by
  intro identifier hpath
  have hnone : more.countP (fun p => c.fileIdentifier? p == some identifier) = 0 := by
    rw [List.countP_eq_zero]
    intro q hq
    simpa using h q hq identifier hpath
  unfold identifierUses
  rw [List.countP_append, hnone, Nat.add_zero]

/-! ### One document -/

namespace Setup

variable {setup : Setup} {config : Config} {charters : Charters} {path : Path}

/-- The findings of one document in a run that knows no charter yet. -/
def alone (setup : Setup) (config : Config) (path : Path) : Except Failure Findings :=
  (setup.lintFile (.ofConfig config) path).1

/-- Whether two files carry the same identifier. -/
def SharesIdentifier (setup : Setup) (path other : Path) : Prop :=
  ∃ identifier, setup.conventions.fileIdentifier? path = some identifier ∧
    setup.conventions.fileIdentifier? other = some identifier

/-- The charters of a run: they answer as the files do and have the settings of the run. -/
def Known (setup : Setup) (config : Config) (charters : Charters) : Prop :=
  charters.Current setup.files ∧ charters.forget = .ofConfig config

theorem known_ofConfig (setup : Setup) (config : Config) :
    setup.Known config (.ofConfig config) :=
  ⟨Charters.current_ofConfig _ _, rfl⟩

theorem context_fst (h : setup.Known config charters) (path : Path) :
    (setup.context charters path).1 = (setup.context (.ofConfig config) path).1 := by
  have hglossary := Charters.glossaryFor_fst h.1 path
  rw [h.2] at hglossary
  unfold context
  cases setup.files.read path with
  | error fault => rfl
  | ok source =>
    cases h₁ : charters.glossaryFor setup.files path with
    | mk r₁ c₁ =>
      cases h₂ : (Charters.ofConfig config).glossaryFor setup.files path with
      | mk r₂ c₂ =>
        rw [h₁, h₂] at hglossary
        simp only at hglossary
        subst hglossary
        cases r₁ <;> rfl

theorem context_snd (h : setup.Known config charters) (path : Path) :
    setup.Known config (setup.context charters path).2 := by
  obtain ⟨hcurrent, hforget⟩ := Charters.current_glossaryFor h.1 path
  rw [h.2] at hforget
  unfold context
  cases setup.files.read path with
  | error fault => exact h
  | ok source =>
    cases hr : charters.glossaryFor setup.files path with
    | mk r c =>
      rw [hr] at hcurrent hforget
      cases r <;> exact ⟨hcurrent, hforget⟩

/-- A document gets the findings it gets alone, and leaves charters of the run behind. -/
theorem lintFile_of_known (h : setup.Known config charters) (path : Path) :
    (setup.lintFile charters path).1 = setup.alone config path ∧
      setup.Known config (setup.lintFile charters path).2 := by
  have hfst := context_fst h path
  have hsnd := context_snd h path
  unfold alone lintFile
  cases h₁ : setup.context charters path with
  | mk r₁ c₁ =>
    cases h₂ : setup.context (.ofConfig config) path with
    | mk r₂ c₂ =>
      rw [h₁, h₂] at hfst
      rw [h₁] at hsnd
      simp only at hfst
      subst hfst
      cases r₁ <;> exact ⟨rfl, hsnd⟩

theorem context_inputs (setup : Setup) (inputs : List Path) (charters : Charters) (path : Path) :
    (Setup.context { setup with inputs } charters path).1 =
      (setup.context charters path).1.map fun ctx => { ctx with inputs } := by
  unfold context
  cases setup.files.read path with
  | error fault => rfl
  | ok source =>
    simp only
    cases charters.glossaryFor setup.files path with
    | mk r c => cases r <;> rfl

theorem context_eq {ctx : Context} (h : (setup.context charters path).1 = .ok ctx) :
    ctx.path = path ∧ ctx.conventions = setup.conventions ∧ ctx.inputs = setup.inputs := by
  unfold context at h
  cases hread : setup.files.read path with
  | error fault => simp [hread] at h
  | ok source =>
    cases hglossary : charters.glossaryFor setup.files path with
    | mk r c =>
      cases r with
      | error failure => simp [hread, hglossary] at h
      | ok charter =>
        simp only [hread, hglossary, Except.ok.injEq] at h
        subst h
        exact ⟨rfl, rfl, rfl⟩

theorem alone_eq (setup : Setup) (config : Config) (path : Path) :
    setup.alone config path =
      (setup.context (.ofConfig config) path).1.map fun ctx => lintTree ctx setup.strict := by
  unfold alone lintFile
  cases setup.context (.ofConfig config) path with
  | mk r c => cases r <;> rfl

/-- Whether a document can be linted at all does not depend on the inputs. -/
theorem alone_ok_inputs (setup : Setup) (config : Config) (inputs : List Path) (path : Path) :
    (∃ f, Setup.alone { setup with inputs } config path = .ok f) ↔
      ∃ f, setup.alone config path = .ok f := by
  simp only [alone_eq, context_inputs]
  cases (setup.context (.ofConfig config) path).1 with
  | error failure => simp [Except.map]
  | ok ctx => simp [Except.map]

/-- Of the inputs a document only sees how many carry its identifier. -/
theorem alone_inputs {inputs : List Path} (config : Config)
    (h : SameUses setup.conventions path setup.inputs inputs) :
    Setup.alone { setup with inputs } config path = setup.alone config path := by
  rw [alone_eq, alone_eq, context_inputs]
  cases hctx : (setup.context (.ofConfig config) path).1 with
  | error failure => rfl
  | ok ctx =>
    obtain ⟨hpath, hconventions, hinputs⟩ := context_eq hctx
    rw [← hpath, ← hconventions, ← hinputs] at h
    exact congrArg Except.ok (lintTree_inputs h setup.strict)

/-! ### All documents -/

/-- What a run puts into the report, as pairs of path text and findings. -/
def entries (found : Path → Findings) (paths : List Path) : List (String × Findings) :=
  paths.map fun p => (p.text, found p)

theorem lintAll_of_alone (found : Path → Findings) {paths : List Path}
    (h : setup.Known config charters)
    (hpaths : ∀ p ∈ paths, setup.alone config p = .ok (found p)) (report : Report) :
    setup.lintAll charters report paths =
      .ok ⟨(entries found paths).foldl (fun t e => Sorted.put e.1 e.2 t) report.files⟩ := by
  induction paths generalizing charters report with
  | nil => rfl
  | cons p paths ih =>
    obtain ⟨hfst, hsnd⟩ := lintFile_of_known h p
    rw [hpaths p List.mem_cons_self] at hfst
    unfold lintAll
    cases hfile : setup.lintFile charters p with
    | mk r c =>
      rw [hfile] at hfst hsnd
      simp only at hfst
      subst hfst
      exact ih hsnd (fun q hq => hpaths q (List.mem_cons_of_mem _ hq)) _

theorem alone_of_lintAll {paths : List Path} {report final : Report}
    (h : setup.Known config charters) (hrun : setup.lintAll charters report paths = .ok final) :
    ∀ p ∈ paths, ∃ f, setup.alone config p = .ok f := by
  induction paths generalizing charters report with
  | nil =>
    intro p hp
    cases hp
  | cons q paths ih =>
    obtain ⟨hfst, hsnd⟩ := lintFile_of_known h q
    unfold lintAll at hrun
    cases hfile : setup.lintFile charters q with
    | mk r c =>
      rw [hfile] at hfst hsnd
      cases r with
      | error failure => simp [hfile] at hrun
      | ok findings =>
        simp only [hfile] at hrun
        intro p hp
        rcases List.mem_cons.mp hp with rfl | hp
        · exact ⟨findings, hfst.symm⟩
        · exact ih hsnd hrun p hp

/-- The findings of a document alone, nothing if it cannot be linted. -/
def found (setup : Setup) (config : Config) (path : Path) : Findings :=
  (setup.alone config path).toOption.getD .empty

theorem alone_eq_found {f : Findings} (h : setup.alone config path = .ok f) :
    setup.alone config path = .ok (setup.found config path) := by
  unfold found
  rw [h]
  rfl

/-- A run succeeds exactly if each document can be linted alone, and then the report is the table
of what is found of each alone. -/
theorem run_eq_ok_iff {report : Report} :
    setup.run config = .ok report ↔
      (∀ p ∈ setup.inputs, ∃ f, setup.alone config p = .ok f) ∧
        report = ⟨Sorted.ofList (entries (setup.found config) setup.inputs)⟩ := by
  have hknown := known_ofConfig setup config
  have hrun := fun h : ∀ p ∈ setup.inputs, ∃ f, setup.alone config p = .ok f =>
    lintAll_of_alone (setup.found config) hknown
      (fun p hp => (h p hp).elim fun _ hf => alone_eq_found hf) .empty
  constructor
  · intro hok
    have halone := alone_of_lintAll hknown hok
    exact ⟨halone, Except.ok.inj (hok.symm.trans (hrun halone))⟩
  · rintro ⟨halone, rfl⟩
    exact hrun halone

theorem get?_entries (found : Path → Findings) (paths : List Path) (path : Path) :
    Report.get? ⟨Sorted.ofList (entries found paths)⟩ path =
      if path ∈ paths then some (found path) else none := by
  have hvalue : ∀ e ∈ entries found paths, e.2 = found ⟨e.1⟩ := by
    intro e he
    obtain ⟨p, -, rfl⟩ := List.mem_map.mp he
    rfl
  have hkeys : path.text ∈ (entries found paths).map (·.1) ↔ path ∈ paths := by
    simp only [entries, List.map_map, List.mem_map, Function.comp]
    constructor
    · rintro ⟨p, hp, htext⟩
      cases p
      cases path
      subst htext
      exact hp
    · exact fun hp => ⟨path, hp, rfl⟩
  unfold Report.get? Sorted.ofList
  rw [Sorted.get?_foldl_put_of_forall (fun key => found ⟨key⟩) hvalue]
  simp only [hkeys, Sorted.get?_nil]

theorem hasErrors_entries (found : Path → Findings) (paths : List Path) :
    Report.hasErrors ⟨Sorted.ofList (entries found paths)⟩ = true ↔
      ∃ p ∈ paths, (found p).hasErrors = true := by
  have hmem : ∀ e, e ∈ Sorted.ofList (entries found paths) ↔
      (if ⟨e.1⟩ ∈ paths then some (found ⟨e.1⟩) else none) = some e.2 := by
    intro e
    rw [Sorted.mem_iff_get? (Sorted.ascending_ofList _), ← get?_entries]
    rfl
  unfold Report.hasErrors
  rw [List.any_eq_true]
  constructor
  · rintro ⟨e, he, herrors⟩
    obtain ⟨hin, hfound⟩ := Option.ite_none_right_eq_some.mp ((hmem e).mp he)
    rw [← Option.some.inj hfound] at herrors
    exact ⟨⟨e.1⟩, hin, herrors⟩
  · rintro ⟨p, hp, herrors⟩
    exact ⟨(p.text, found p), (hmem _).mpr (if_pos hp), herrors⟩

/-- The report does not depend on the order of the inputs. -/
theorem entries_of_perm (found : Path → Findings) {paths paths' : List Path}
    (h : paths'.Perm paths) :
    Sorted.ofList (entries found paths') = Sorted.ofList (entries found paths) := by
  refine Sorted.eq_of_get? (Sorted.ascending_ofList _) (Sorted.ascending_ofList _) ?_
  intro key
  have hpaths := get?_entries found paths ⟨key⟩
  have hpaths' := get?_entries found paths' ⟨key⟩
  simp only [h.mem_iff] at hpaths'
  exact hpaths'.trans hpaths.symm

theorem found_inputs {inputs : List Path} (config : Config)
    (h : SameUses setup.conventions path setup.inputs inputs) :
    Setup.found { setup with inputs } config path = setup.found config path := by
  unfold found
  rw [alone_inputs config h]

theorem run_of_perm {inputs : List Path} {report : Report} (h : inputs.Perm setup.inputs)
    (hrun : setup.run config = .ok report) :
    Setup.run { setup with inputs } config = .ok report := by
  obtain ⟨halone, rfl⟩ := run_eq_ok_iff.mp hrun
  have hfound : Setup.found { setup with inputs } config = setup.found config :=
    funext fun p => found_inputs config (sameUses_of_perm setup.conventions p h)
  refine run_eq_ok_iff.mpr ⟨?_, ?_⟩
  · intro p hp
    exact (alone_ok_inputs setup config inputs p).mpr (halone p (h.mem_iff.mp hp))
  · rw [hfound, entries_of_perm _ h]

theorem run_append {more : List Path} {report : Report} (hrun : setup.run config = .ok report)
    (hmore : ∀ q ∈ more, ∃ f, setup.alone config q = .ok f) :
    ∃ grown, Setup.run { setup with inputs := setup.inputs ++ more } config = .ok grown ∧
      ∀ p ∈ setup.inputs, (∀ q ∈ more, ¬ setup.SharesIdentifier p q) →
        grown.get? p = report.get? p := by
  obtain ⟨halone, rfl⟩ := run_eq_ok_iff.mp hrun
  refine ⟨_, run_eq_ok_iff.mpr ⟨?_, rfl⟩, ?_⟩
  · intro p hp
    rw [alone_ok_inputs]
    exact (List.mem_append.mp hp).elim (halone p) (hmore p)
  · intro p hp hother
    have hsame : SameUses setup.conventions p setup.inputs (setup.inputs ++ more) :=
      sameUses_append setup.inputs
        (fun q hq identifier hpath hq' => hother q hq ⟨identifier, hpath, hq'⟩)
    rw [get?_entries, get?_entries, if_pos hp, if_pos (List.mem_append_left _ hp),
      found_inputs config hsame]

/-- **Documents of a run do not interfere.** A run succeeds exactly if each input can
be linted with no charter known yet, and its report then holds for each input the
findings of that. So it has errors exactly if one of the inputs has, it is the same in
every order of the inputs, and further inputs change nothing for a document whose
identifier they do not carry. -/
theorem run_independent (setup : Setup) (config : Config) :
    ((∃ report, setup.run config = .ok report) ↔
      ∀ p ∈ setup.inputs, ∃ f, setup.alone config p = .ok f) ∧
    ∀ report, setup.run config = .ok report →
      (∀ p ∈ setup.inputs, ∃ f, setup.alone config p = .ok f ∧ report.get? p = some f) ∧
      (∀ p, p ∉ setup.inputs → report.get? p = none) ∧
      (report.hasErrors = true ↔
        ∃ p ∈ setup.inputs, ∃ f, setup.alone config p = .ok f ∧ f.hasErrors = true) ∧
      (∀ inputs, inputs.Perm setup.inputs →
        Setup.run { setup with inputs } config = .ok report) ∧
      (∀ more, (∀ q ∈ more, ∃ f, setup.alone config q = .ok f) →
        ∃ grown, Setup.run { setup with inputs := setup.inputs ++ more } config = .ok grown ∧
          ∀ p ∈ setup.inputs, (∀ q ∈ more, ¬ setup.SharesIdentifier p q) →
            grown.get? p = report.get? p) := by
  refine ⟨?_, ?_⟩
  · constructor
    · rintro ⟨report, hrun⟩
      exact (run_eq_ok_iff.mp hrun).1
    · exact fun halone => ⟨_, run_eq_ok_iff.mpr ⟨halone, rfl⟩⟩
  · intro report hrun
    obtain ⟨halone, hreport⟩ := run_eq_ok_iff.mp hrun
    have hfound : ∀ p ∈ setup.inputs, setup.alone config p = .ok (setup.found config p) :=
      fun p hp => (halone p hp).elim fun _ hf => alone_eq_found hf
    refine ⟨?_, ?_, ?_, fun _ h => run_of_perm h hrun, fun _ h => run_append hrun h⟩
    · intro p hp
      refine ⟨_, hfound p hp, ?_⟩
      rw [hreport, get?_entries, if_pos hp]
    · intro p hp
      rw [hreport, get?_entries, if_neg hp]
    · rw [hreport, hasErrors_entries]
      constructor
      · rintro ⟨p, hp, herrors⟩
        exact ⟨p, hp, _, hfound p hp, herrors⟩
      · rintro ⟨p, hp, f, hf, herrors⟩
        rw [hfound p hp] at hf
        exact ⟨p, hp, Except.ok.inj hf ▸ herrors⟩

end Setup

/-- Two documents with one identifier, in a repository with an empty charter. -/
def twoDocuments : Setup where
  files := {
    top := .dir [
      (".git", .dir []),
      ("docs", .dir [
        ("GDI-SOP_charter.md", .file (.text "")),
        ("GDI-SOP0001_a.md", .file (.text "")),
        ("GDI-SOP0001_b.md", .file (.text ""))])]
    current := ["docs"] }
  conventions := .ofConfig .standard
  inputs := [⟨"GDI-SOP0001_a.md"⟩, ⟨"GDI-SOP0001_b.md"⟩]
  probe := none
  strict := false

theorem run_independent_twoDocuments :
    ∃ report, twoDocuments.run .standard = .ok report ∧ report.hasErrors = true ∧
      Setup.run { twoDocuments with inputs := twoDocuments.inputs.reverse } .standard =
        .ok report := by
  have hrun : ((twoDocuments.run .standard).map Report.hasErrors).toOption = some true := by
    decide +kernel
  cases h : twoDocuments.run .standard with
  | error failure => simp [h, Except.map, Except.toOption] at hrun
  | ok report =>
    rw [h] at hrun
    obtain ⟨-, -, -, hperm, -⟩ := (Setup.run_independent twoDocuments .standard).2 report h
    exact ⟨report, rfl, Option.some.inj hrun, hperm _ (List.reverse_perm _)⟩

end SopDocs.Lint
