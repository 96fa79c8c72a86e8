import SopDocs.Lint.Context
/-!
The rule about roles: every row of the roles table has four cells, and each required role has a row
with a name in it.
-/

namespace SopDocs.Lint

def requiredRoles : List String := ["Author", "Reviewer", "Approver"]

def isRolesRow (row : Tree.Row) : Bool := row.length == 4

/-- Whether a row of four cells names somebody in a role. -/
def fillsRole (role : String) (row : Tree.Row) : Bool :=
  match row with
  | [title, fullName, _, _] => Text.eqIgnoringAsciiCase role title && fullName != ""
  | _ => false

def rolesProblems (rows : List Tree.Row) : List Problem :=
  (rows.filter (! isRolesRow ·)).map .rolesRow ++
    (requiredRoles.filter fun role => !rows.any (fillsRole role)).map .missingRole

def rolesAndResponsibilities (ctx : Context) : List Problem :=
  match Tree.tableWith? Tree.rolesHeader ctx.root with
  | none => [.noRolesTable]
  | some table => rolesProblems table.bodyRows

end SopDocs.Lint
