import SopDocs.Index.Table
import SopDocs.Json.Writer
/-!
Comparison of an existing index with a new one. Rows are matched by identifier; the differences are
the number of rows, the identifiers of one side only, and the columns of the rows of both.
-/

namespace SopDocs.Index

structure ColumnDifference where
  existing : String
  new : String
deriving DecidableEq, Inhabited

inductive Difference where
  | rowCount (existing new : Nat)
  | onlyExisting (identifier : String)
  | onlyNew (identifier : String)
  | columns (identifier : String) (differing : List (String × ColumnDifference))
deriving DecidableEq, Inhabited

structure Comparison where
  existingCount : Nat
  newCount : Nat
  differences : List Difference
deriving DecidableEq, Inhabited

/-- The columns of the existing table in which two rows differ, in ascending order. -/
def differingColumns (existing new : Table) (old current : List String) :
    List (String × ColumnDifference) :=
  Sorted.ofList ((existing.columns.filter (· != identifierColumn)).filterMap fun column =>
    let a := existing.cell old column
    let b := new.cell current column
    if a = b then none else some (column, ⟨a, b⟩))

/-- The difference of a row of the existing table and the new row with its identifier. -/
def rowDifference? (existing new : Table) (newRows : List (String × List String))
    (entry : String × List String) : Option Difference :=
  match Sorted.get? entry.1 newRows with
  | none => none
  | some current =>
    match differingColumns existing new entry.2 current with
    | [] => none
    | differing => some (.columns entry.1 differing)

def differences (existing new : Table) : List Difference :=
  let oldRows := existing.byIdentifier
  let newRows := new.byIdentifier
  (if existing.rows.length = new.rows.length then []
    else [.rowCount existing.rows.length new.rows.length]) ++
    ((Sorted.keys oldRows).filter fun k => !Sorted.contains k newRows).map .onlyExisting ++
    ((Sorted.keys newRows).filter fun k => !Sorted.contains k oldRows).map .onlyNew ++
    oldRows.filterMap (rowDifference? existing new newRows)

def compare (existing new : Table) : Comparison :=
  ⟨existing.rows.length, new.rows.length, differences existing new⟩

namespace Difference

def rowCountMessage (existing new : Nat) : String :=
  s!"Number of SOPs differs: existing ({existing}), new ({new})"

def missingFromNew : String := "Missing from the new index table."

def missingFromExisting : String := "Missing from the existing index table."

def toJson : Difference → Json.Value
  | rowCount existing new => .string (rowCountMessage existing new)
  | onlyExisting identifier => about identifier (.string missingFromNew)
  | onlyNew identifier => about identifier (.string missingFromExisting)
  | columns identifier differing =>
    about identifier (.object (differing.map fun (column, d) =>
      (column, .object [("existing", .string d.existing), ("new", .string d.new)])))
where
  about (identifier : String) (content : Json.Value) : Json.Value :=
    .object [("Identifier", .string identifier), ("Differences", content)]

end Difference

namespace Comparison

def hasDifferences (c : Comparison) : Bool := !c.differences.isEmpty

def toJson (c : Comparison) : Json.Value :=
  .object [
    ("num_existing_sops", .int c.existingCount),
    ("num_new_sops", .int c.newCount),
    ("differences", .array (c.differences.map Difference.toJson))]

end Comparison

end SopDocs.Index
