import SopDocs.Lint.Rule

/-!
# Every problem is found by one rule

Which rule finds a problem can be read off the kind of the problem: no two rules find problems
of one kind.
-/

namespace SopDocs.Lint

/-- The rule that finds problems of this kind. -/
def Problem.foundBy : Problem → Rule
  | titleStart _ _ | noTitle _ => .titleFormat
  | titleMismatch _ _ | noTitleToCompare _ => .titleMatchesFileName
  | missingSection _ => .requiredSections
  | emptySection _ => .nonEmptySections
  | noMetadataTable | metadataRow _ | metadataPattern _ _ _ | metadataFormat _ _
  | metadataChoice _ _ _ | unexpectedMetadata _ _ | missingMetadata _ | missingNodeMetadata _
  | nodeValuesAtEuropeanLevel | wrongDirectory _ _ _ => .metadataTable
  | noHistoryTable | historyRow _ | historyTemplate _ _ | historyInstance _ _
  | templateOrder _ _ _ | instanceOrder _ _ _ | noAuthor _ | noDescription _
  | historyDate _ _ => .documentHistory
  | noRolesTable | rolesRow _ | missingRole _ => .rolesAndResponsibilities
  | stepMisnumbered _ _ _ | stepUnnumbered _ _ => .stepNumbering
  | noStepTable _ | stepTableStart _ _ | emptyStepTable _ => .stepTables
  | termNotInCharter _ => .charterGlossary
  | undefinedAcronym _ => .undefinedAcronyms
  | missingTarget _ _ | linkNotFound _ | linkUnresolvable _ _ => .references
  | fileName _ | fileTitleCase _ | duplicateIdentifier _ _ => .fileName
  | imageDirectory _ _ => .imagePaths

/-- All problems of the list are of kinds that the rule finds. -/
def FoundBy (rule : Rule) (ps : List Problem) : Prop := ∀ p ∈ ps, p.foundBy = rule

namespace FoundBy

variable {rule : Rule} {ps qs : List Problem} {p : Problem}

theorem nil : FoundBy rule [] := List.forall_mem_nil _

theorem cons (hp : p.foundBy = rule) (hps : FoundBy rule ps) : FoundBy rule (p :: ps) :=
  List.forall_mem_cons.mpr ⟨hp, hps⟩

theorem singleton (hp : p.foundBy = rule) : FoundBy rule [p] := cons hp nil

theorem append (hps : FoundBy rule ps) (hqs : FoundBy rule qs) : FoundBy rule (ps ++ qs) :=
  List.forall_mem_append.mpr ⟨hps, hqs⟩

/-- A list that is there under a condition. -/
theorem ite {c : Prop} [Decidable c] (hps : FoundBy rule ps) (hqs : FoundBy rule qs) :
    FoundBy rule (if c then ps else qs) := by
  split
  · exact hps
  · exact hqs

theorem map {α : Type} {f : α → Problem} {xs : List α} (h : ∀ x, (f x).foundBy = rule) :
    FoundBy rule (xs.map f) := by
  intro p hp
  obtain ⟨x, -, rfl⟩ := List.mem_map.mp hp
  exact h x

theorem flatMap {α : Type} {f : α → List Problem} {xs : List α}
    (h : ∀ x, FoundBy rule (f x)) : FoundBy rule (xs.flatMap f) := by
  intro p hp
  obtain ⟨x, -, hx⟩ := List.mem_flatMap.mp hp
  exact h x p hx

end FoundBy

/-! ### Rule by rule -/

theorem foundBy_titleFormat (ctx : Context) : FoundBy .titleFormat (titleFormat ctx) := by
  unfold titleFormat
  cases ctx.title? with
  | none => exact .singleton rfl
  | some title => exact .ite .nil (.singleton rfl)

theorem foundBy_metadataValue (c : Conventions) (key value : String) :
    FoundBy .metadataTable (metadataValue c key value) := by
  unfold metadataValue
  exact .ite (.ite .nil (.singleton rfl)) <| .ite (.ite .nil (.singleton rfl)) <|
    .ite (.ite .nil (.singleton rfl)) <| .ite (.ite .nil (.singleton rfl)) <|
    .ite (.ite .nil (.singleton rfl)) (.singleton rfl)

theorem foundBy_metadataDirectory (path : Path) (record : Metadata.Record) :
    FoundBy .metadataTable (metadataDirectory path record) := by
  unfold metadataDirectory
  cases record.get? Metadata.typeKey with
  | none => exact .nil
  | some typeValue =>
    simp only
    cases Metadata.expectedDirectory? typeValue with
    | none => exact .nil
    | some expected => exact .ite .nil (.singleton rfl)

theorem foundBy_metadataTable (ctx : Context) : FoundBy .metadataTable (metadataTable ctx) := by
  unfold metadataTable
  cases Tree.tableWith? Tree.metadataHeader ctx.root with
  | none => exact .singleton rfl
  | some table =>
    refine .append (.append (.append (.append (.append ?_ ?_) ?_) ?_) ?_) ?_
    · exact .map fun _ => rfl
    · exact .flatMap fun _ => foundBy_metadataValue _ _ _
    · exact .map fun _ => rfl
    · exact .ite (.map fun _ => rfl) .nil
    · exact .ite (.singleton rfl) .nil
    · exact foundBy_metadataDirectory _ _

theorem foundBy_orderProblems (above current : RowVersions) (row : Tree.Row) :
    FoundBy .documentHistory (orderProblems above current row) := by
  unfold orderProblems
  refine .append (.ite (.singleton rfl) .nil) ?_
  split
  · exact .ite (.singleton rfl) .nil
  · exact .nil

theorem foundBy_historyRowProblems (above : Option RowVersions) (row : Tree.Row) :
    FoundBy .documentHistory (historyRowProblems above row) := by
  unfold historyRowProblems
  split
  · refine .append (.append (.append ?_ ?_) ?_) ?_
    · unfold versionProblems
      refine .append (.append (.ite .nil (.singleton rfl)) (.ite .nil (.singleton rfl))) ?_
      split
      · exact foundBy_orderProblems _ _ _
      · exact .nil
    · exact .ite (.singleton rfl) .nil
    · exact .ite (.singleton rfl) .nil
    · exact .ite .nil (.singleton rfl)
  · exact .singleton rfl

theorem foundBy_historyProblems (above : Option RowVersions) (rows : List Tree.Row) :
    FoundBy .documentHistory (historyProblems above rows) := by
  induction rows generalizing above with
  | nil => exact .nil
  | cons row rows ih => exact .append (foundBy_historyRowProblems above row) (ih _)

theorem foundBy_documentHistory (ctx : Context) :
    FoundBy .documentHistory (documentHistory ctx) := by
  unfold documentHistory
  cases Tree.tableWith? Tree.historyHeader ctx.root with
  | none => exact .singleton rfl
  | some table => exact foundBy_historyProblems none _

theorem foundBy_rolesAndResponsibilities (ctx : Context) :
    FoundBy .rolesAndResponsibilities (rolesAndResponsibilities ctx) := by
  unfold rolesAndResponsibilities
  cases Tree.tableWith? Tree.rolesHeader ctx.root with
  | none => exact .singleton rfl
  | some table => exact .append (.map fun _ => rfl) (.map fun _ => rfl)

theorem foundBy_numberingProblems (expected : Nat) (headings : List Tree.Node) :
    FoundBy .stepNumbering (numberingProblems expected headings) := by
  induction headings generalizing expected with
  | nil => exact .nil
  | cons heading headings ih =>
    unfold numberingProblems
    simp only
    split
    · exact .cons rfl (ih _)
    · exact .append (.ite .nil (.singleton rfl)) (ih _)

theorem foundBy_stepNumbering (ctx : Context) : FoundBy .stepNumbering (stepNumbering ctx) := by
  unfold stepNumbering
  cases Procedure.section? ctx.root with
  | none => exact .nil
  | some siblings => exact foundBy_numberingProblems 1 _

theorem foundBy_stepTableProblems (step : String) (siblings : List Tree.Node) :
    FoundBy .stepTables (stepTableProblems step siblings) := by
  unfold stepTableProblems
  split
  · exact .singleton rfl
  · split
    · exact .singleton rfl
    · exact .ite .nil (.singleton rfl)

theorem foundBy_tableProblems (siblings : List Tree.Node) :
    FoundBy .stepTables (tableProblems siblings) := by
  induction siblings with
  | nil => exact .nil
  | cons node siblings ih =>
    unfold tableProblems
    refine .append ?_ ih
    split
    · exact .nil
    · exact foundBy_stepTableProblems _ _

theorem foundBy_stepTables (ctx : Context) : FoundBy .stepTables (stepTables ctx) := by
  unfold stepTables
  cases Procedure.section? ctx.root with
  | none => exact .nil
  | some siblings => exact foundBy_tableProblems siblings

theorem foundBy_outcomeProblems (url : String) (outcome : Reference.Outcome) :
    FoundBy .references (outcomeProblems url outcome) := by
  cases outcome with
  | reachable => exact .nil
  | notFound => exact .singleton rfl
  | unresolvable cause => exact .singleton rfl

theorem foundBy_checkTarget (ctx : Context) (url : String) (known : Lookups) :
    FoundBy .references (checkTarget ctx url known).1 := by
  unfold checkTarget
  split
  · exact .nil
  · exact .ite .nil (.singleton rfl)
  · cases ctx.probe with
    | none => exact .nil
    | some probe => exact foundBy_outcomeProblems _ _

theorem foundBy_checkTargets (ctx : Context) (urls : List String) (known : Lookups) :
    FoundBy .references (checkTargets ctx urls known).1 := by
  induction urls generalizing known with
  | nil => exact .nil
  | cons url urls ih => exact .append (foundBy_checkTarget ctx url known) (ih _)

theorem foundBy_fileName (ctx : Context) : FoundBy .fileName (fileName ctx) := by
  unfold fileName
  cases ctx.conventions.splitFileName? ctx.path with
  | none => exact .singleton rfl
  | some parts => exact .append (.ite .nil (.singleton rfl)) (.ite (.singleton rfl) .nil)

theorem foundBy_titleMatchesFileName (ctx : Context) :
    FoundBy .titleMatchesFileName (titleMatchesFileName ctx) := by
  unfold titleMatchesFileName
  cases ctx.conventions.splitFileName? ctx.path with
  | none => exact .nil
  | some parts =>
    simp only
    cases ctx.title? with
    | none => exact .singleton rfl
    | some title => exact .ite .nil (.singleton rfl)

/-- **The kind of a problem tells the rule that finds it.** -/
theorem foundBy_problems (rule : Rule) (ctx : Context) : FoundBy rule (rule.problems ctx) := by
  cases rule with
  | titleFormat => exact foundBy_titleFormat ctx
  | requiredSections => exact .map fun _ => rfl
  | nonEmptySections => exact .map fun _ => rfl
  | metadataTable => exact foundBy_metadataTable ctx
  | documentHistory => exact foundBy_documentHistory ctx
  | rolesAndResponsibilities => exact foundBy_rolesAndResponsibilities ctx
  | stepNumbering => exact foundBy_stepNumbering ctx
  | stepTables => exact foundBy_stepTables ctx
  | charterGlossary => exact .map fun _ => rfl
  | undefinedAcronyms => exact .map fun _ => rfl
  | references => exact foundBy_checkTargets ctx _ _
  | fileName => exact foundBy_fileName ctx
  | titleMatchesFileName => exact foundBy_titleMatchesFileName ctx
  | imagePaths => exact .map fun _ => rfl

end SopDocs.Lint
