import SopDocs.History
import SopDocs.Version
import SopDocs.Lint.Context
/-!
The rule about the document history. Rows run from the newest to the oldest: template versions never
increase downwards, one is repeated only below a row with an instance version, and instance versions
decrease. A row is compared with the last one above it that had valid versions.
-/

namespace SopDocs.Lint

/-- The versions of a history row; a row may do without an instance version. -/
structure RowVersions where
  template : Version
  ofInstance : Option Version
deriving Inhabited

/-- The instance version of a cell: none if the cell is empty; a malformed one is reported as none
of the two. -/
def instanceCell? (cell : String) : Option (Option Version) :=
  if cell = "" then some none else (Version.parse? cell).map some

/-- The versions of a row, if both cells are well formed. -/
def rowVersions? (template instanceCell : String) : Option RowVersions :=
  match Version.parse? template, instanceCell? instanceCell with
  | some t, some i => some ⟨t, i⟩
  | _, _ => none

/-- How the versions of a row and those above it break the order. -/
def orderProblems (above current : RowVersions) (row : Tree.Row) : List Problem :=
  let order := current.template.compare above.template
  (if order = .gt ∨ (order = .eq ∧ above.ofInstance.isNone)
    then [.templateOrder current.template above.template row] else []) ++
  match current.ofInstance, above.ofInstance with
  | some i, some j => if (i.compare j).isGE then [.instanceOrder i j row] else []
  | _, _ => []

/-- What is wrong with the versions of a row. -/
def versionProblems (above : Option RowVersions) (template instanceCell : String)
    (row : Tree.Row) : List Problem :=
  (if Version.isValid template then [] else [.historyTemplate template row]) ++
    (if (instanceCell? instanceCell).isSome then [] else [.historyInstance instanceCell row]) ++
    match above, rowVersions? template instanceCell with
    | some above, some current => orderProblems above current row
    | _, _ => []

/-- What is wrong with a row below a row with the versions `above`. -/
def historyRowProblems (above : Option RowVersions) (row : Tree.Row) : List Problem :=
  match row with
  | [template, instanceCell, author, description, date] =>
    versionProblems above template instanceCell row ++
      (if author = "" then [.noAuthor row] else []) ++
      (if description = "" then [.noDescription row] else []) ++
      (if Date.startsLikeDate date then [] else [.historyDate date row])
  | row => [.historyRow row]

/-- The versions that the next row is compared with. -/
def versionsBelow (above : Option RowVersions) (row : Tree.Row) : Option RowVersions :=
  match row with
  | [template, instanceCell, _, _, _] =>
    match rowVersions? template instanceCell with
    | some versions => some versions
    | none => above
  | _ => above

def historyProblems (above : Option RowVersions) : List Tree.Row → List Problem
  | [] => []
  | row :: r => historyRowProblems above row ++ historyProblems (versionsBelow above row) r

def documentHistory (ctx : Context) : List Problem :=
  match Tree.tableWith? Tree.historyHeader ctx.root with
  | none => [.noHistoryTable]
  | some table => historyProblems none (History.rows table)

end SopDocs.Lint
