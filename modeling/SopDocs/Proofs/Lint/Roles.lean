import Mathlib.Data.List.Induction
import SopDocs.Proofs.Index.CleanDocument
import SopDocs.Proofs.Lint.Severity
import SopDocs.Proofs.Text.Folding
import SopDocs.Proofs.Tree.Table

/-!
# Roles are told apart from rows

The rule about roles tells the rows of other than four cells, then the roles that no row fills. Only
what is told of rows depends on their order. The same is found in one reading of the rows that ticks
a role off at each row with a name: the title of a row is that of no more than one required role.
-/

namespace SopDocs.Lint

open SopDocs.Tree

/-- A row of four cells with a role in the first, up to the case of ASCII letters, and a name in the
second. -/
def Fills (role : String) (row : Row) : Prop :=
  ∃ title fullName part organisation, row = [title, fullName, part, organisation] ∧
    List.Forall₂ Text.SameLetter role.toList title.toList ∧ fullName ≠ ""

theorem fillsRole_iff {role : String} {row : Row} : fillsRole role row = true ↔ Fills role row := by
  unfold fillsRole Fills
  split
  · next title fullName part organisation =>
    rw [Bool.and_eq_true, Text.eqIgnoringAsciiCase_iff, bne_iff_ne]
    constructor
    · rintro ⟨htitle, hname⟩
      exact ⟨_, _, _, _, rfl, htitle, hname⟩
    · rintro ⟨_, _, _, _, heq, htitle, hname⟩
      cases heq
      exact ⟨htitle, hname⟩
  · next hcells =>
    refine ⟨nofun, ?_⟩
    rintro ⟨title, fullName, part, organisation, rfl, -⟩
    exact absurd rfl (hcells title fullName part organisation)

instance (role : String) : DecidablePred (Fills role) := fun _ => decidable_of_iff _ fillsRole_iff

/-! ### What is told -/

/-- What is told of rows: one message for each row of other than four cells. -/
def rowErrors (rows : List Row) : List String :=
  (rows.filter fun row => row.length ≠ 4).map fun row =>
    let cells := " | ".intercalate row
    "Roles and Responsibilities table row is incorrectly formatted (expected 4 columns): " ++
      s!"'{cells}'."

/-- What is told of roles: one message for each role that no row fills. -/
def roleErrors (rows : List Row) : List String :=
  (["Author", "Reviewer", "Approver"].filter fun role => ∀ row ∈ rows, ¬ Fills role row).map
    fun role => s!"Role '{role}' is missing a non-empty Full Name row " ++
      "in the Roles and Responsibilities table."

theorem messages_rolesProblems (rows : List Row) :
    (rolesProblems rows).map Problem.message = rowErrors rows ++ roleErrors rows := by
  have hrows : ∀ row : Row, (! isRolesRow row) = decide (row.length ≠ 4) := by
    intro row
    rw [isRolesRow, decide_not, beq_eq_decide]
  have hroles : ∀ role, (! rows.any (fillsRole role)) =
      decide (∀ row ∈ rows, ¬ Fills role row) := by
    intro role
    rw [Bool.eq_iff_iff, decide_eq_true_iff, Bool.not_eq_true', List.any_eq_false]
    simp only [fillsRole_iff]
  unfold rolesProblems rowErrors roleErrors
  rw [List.map_append, List.map_map, List.map_map]
  simp only [hrows, hroles]
  rfl

theorem isError_of_mem_rolesProblems {rows : List Row} :
    ∀ p ∈ rolesProblems rows, p.isError = true := by
  unfold rolesProblems
  rw [List.forall_mem_append, List.forall_mem_map, List.forall_mem_map]
  exact ⟨fun _ _ => rfl, fun _ _ => rfl⟩

variable {rows other : List Row}

theorem rowErrors_eq_nil_iff : rowErrors rows = [] ↔ ∀ row ∈ rows, row.length = 4 := by
  unfold rowErrors
  simp only [List.map_eq_nil_iff, List.filter_eq_nil_iff, decide_eq_true_eq, ne_eq, not_not]

theorem roleErrors_eq_nil_iff : roleErrors rows = [] ↔
    ∀ role ∈ ["Author", "Reviewer", "Approver"], ∃ row ∈ rows, Fills role row := by
  unfold roleErrors
  simp only [List.map_eq_nil_iff, List.filter_eq_nil_iff, decide_eq_true_eq, not_forall, not_not,
    exists_prop]

/-! ### The order of the rows -/

theorem perm_rowErrors (h : rows.Perm other) : (rowErrors rows).Perm (rowErrors other) :=
  (h.filter _).map _

theorem roleErrors_of_perm (h : rows.Perm other) : roleErrors rows = roleErrors other := by
  have hfilled : ∀ role, (∀ row ∈ rows, ¬ Fills role row) ↔ ∀ row ∈ other, ¬ Fills role row := by
    intro role
    simp only [h.mem_iff]
  unfold roleErrors
  simp only [hfilled]

/-! ### One reading of the rows -/

/-- What is known behind some rows: the problems of rows so far and the roles that are filled. -/
structure Tally where
  told : List Problem
  filled : List String

namespace Tally

/-- Reads one more row. A row without a name is not told and fills nothing. -/
def read (t : Tally) (row : Row) : Tally :=
  match row with
  | [title, fullName, _, _] =>
    if fullName = "" then t
    else ⟨t.told, t.filled ++
      (requiredRoles.find? (Text.eqIgnoringAsciiCase · title)).toList⟩
  | row => ⟨t.told ++ [.rolesRow row], t.filled⟩

def problems (t : Tally) : List Problem :=
  t.told ++ (requiredRoles.filter (· ∉ t.filled)).map .missingRole

/-- What is known is what the rule finds in the rows. -/
structure Knows (t : Tally) (rows : List Row) : Prop where
  told : t.told = (rows.filter (! isRolesRow ·)).map .rolesRow
  filled : ∀ role ∈ requiredRoles, role ∈ t.filled ↔ rows.any (fillsRole role) = true

/-- A title is that of no more than one required role, so the first one that it fits is the one. -/
theorem find?_requiredRoles_eq_some_iff {title role : String} (hrole : role ∈ requiredRoles) :
    requiredRoles.find? (Text.eqIgnoringAsciiCase · title) = some role ↔
      Text.eqIgnoringAsciiCase role title = true := by
  have hapart : ∀ r ∈ requiredRoles, ∀ r' ∈ requiredRoles,
      r.toList.map Char.toLower = r'.toList.map Char.toLower → r = r' := by decide
  have hfits : ∀ {r}, requiredRoles.find? (Text.eqIgnoringAsciiCase · title) = some r →
      Text.eqIgnoringAsciiCase r title = true := by
    intro r hfound
    simpa using List.find?_some hfound
  constructor
  · exact hfits
  · intro htitle
    have hsome : (requiredRoles.find? (Text.eqIgnoringAsciiCase · title)).isSome = true := by
      rw [List.find?_isSome]
      exact ⟨role, hrole, htitle⟩
    obtain ⟨first, hfound⟩ := Option.isSome_iff_exists.mp hsome
    have hfirst := hfits hfound
    unfold Text.eqIgnoringAsciiCase at htitle hfirst
    rw [hfound, hapart first (List.mem_of_find?_eq_some hfound) role hrole
      ((beq_iff_eq.mp hfirst).trans (beq_iff_eq.mp htitle).symm)]

theorem knows_read {t : Tally} (h : t.Knows rows) (row : Row) :
    (t.read row).Knows (rows ++ [row]) := by
  unfold read
  split
  · next title fullName part organisation =>
    have hrow : [[title, fullName, part, organisation]].filter (! isRolesRow ·) = [] := rfl
    split
    · next hempty =>
      refine ⟨?_, fun role hrole => ?_⟩
      · rw [List.filter_append, hrow, List.append_nil]
        exact h.told
      · rw [List.any_append, h.filled role hrole]
        simp [fillsRole, hempty]
    · next hname =>
      refine ⟨?_, fun role hrole => ?_⟩
      · rw [List.filter_append, hrow, List.append_nil]
        exact h.told
      · rw [List.any_append, List.mem_append, h.filled role hrole, Option.mem_toList,
          find?_requiredRoles_eq_some_iff hrole]
        simp [fillsRole, hname]
  · next hcells =>
    have hnot : isRolesRow row = false := by
      rw [isRolesRow, beq_eq_false_iff_ne]
      intro hfour
      obtain ⟨a, b, c, d, rfl⟩ := List.length_eq_four.mp hfour
      exact hcells a b c d rfl
    have hfills : ∀ role, fillsRole role row = false := by
      intro role
      unfold fillsRole
      split
      · next a b c d => exact absurd rfl (hcells a b c d)
      · rfl
    refine ⟨?_, fun role hrole => ?_⟩
    · rw [List.filter_append, List.map_append, ← h.told]
      simp [hnot]
    · rw [List.any_append, h.filled role hrole]
      simp [hfills]

theorem knows_foldl_read (rows : List Row) : (rows.foldl read ⟨[], []⟩).Knows rows := by
  induction rows using List.reverseRecOn with
  | nil => exact ⟨rfl, fun _ _ => by simp⟩
  | append_singleton rows row ih =>
    rw [List.foldl_concat]
    exact knows_read ih row

/-- One reading of the rows finds what the rule does. -/
theorem problems_foldl_read (rows : List Row) :
    (rows.foldl read ⟨[], []⟩).problems = rolesProblems rows := by
  obtain ⟨htold, hfilled⟩ := knows_foldl_read rows
  unfold problems rolesProblems
  rw [htold]
  congr 2
  apply List.filter_congr
  intro role hrole
  rw [decide_not, Bool.not_inj_iff, Bool.eq_iff_iff, decide_eq_true_iff]
  exact hfilled role hrole

end Tally

/-- **The errors of a roles table are those of its rows, in their order, and then those of the
roles**, and there are no warnings. Nothing is told if all rows have four cells and some row fills
each role. With the rows in another order the same is told of the roles, and of the rows the same
in another order. -/
theorem roles_reported (ctx : Context) (strict : Bool) (table : Node)
    (htable : FirstTable rolesHeader ctx.root table) :
    Rule.rolesAndResponsibilities.check ctx strict .empty =
      ⟨rowErrors table.bodyRows ++ roleErrors table.bodyRows, []⟩ ∧
    ((Rule.rolesAndResponsibilities.check ctx strict .empty).isEmpty = true ↔
      (∀ row ∈ table.bodyRows, row.length = 4) ∧
      ∀ role ∈ ["Author", "Reviewer", "Approver"], ∃ row ∈ table.bodyRows, Fills role row) ∧
    ∀ (reordered : Context) (other : Node), FirstTable rolesHeader reordered.root other →
      table.bodyRows.Perm other.bodyRows → ∃ told, told.Perm (rowErrors table.bodyRows) ∧
        Rule.rolesAndResponsibilities.check reordered strict .empty =
          ⟨told ++ roleErrors table.bodyRows, []⟩ := by
  have htold : ∀ (ctx : Context) (table : Node), FirstTable rolesHeader ctx.root table →
      Rule.rolesAndResponsibilities.check ctx strict .empty =
        ⟨rowErrors table.bodyRows ++ roleErrors table.bodyRows, []⟩ := by
    intro ctx table htable
    have hproblems : Rule.rolesAndResponsibilities.problems ctx = rolesProblems table.bodyRows := by
      show rolesAndResponsibilities ctx = _
      unfold rolesAndResponsibilities
      rw [tableWith?_eq_some_iff.mpr htable]
    have herrors : ∀ p ∈ Rule.rolesAndResponsibilities.problems ctx, p.isError = true := by
      rw [hproblems]
      exact isError_of_mem_rolesProblems
    rw [Rule.check_of_isError herrors, hproblems, messages_rolesProblems]
  refine ⟨htold ctx table htable, ?_, ?_⟩
  · rw [htold ctx table htable, ← rowErrors_eq_nil_iff, ← roleErrors_eq_nil_iff,
      ← List.append_eq_nil_iff]
    unfold Findings.isEmpty
    rw [List.isEmpty_nil, Bool.and_true, List.isEmpty_iff]
  · intro reordered other hother hperm
    refine ⟨rowErrors other.bodyRows, (perm_rowErrors hperm).symm, ?_⟩
    rw [htold reordered other hother, roleErrors_of_perm hperm]

/-- A document with a table of roles. -/
def rolesDocument (rows : List Row) : Context :=
  { ownedDocument with
    root := ⟨.document, ⟨0, 0⟩, none, .none, [
      textTable (["role", "FULL NAME", "GDI/node role", "Organisation"] :: rows)]⟩ }

/-- An author who is named once of two times, a reviewer who is not, and two short rows. -/
def unevenRoles : List Row :=
  [["author", "A", "Staff", "North"], ["Reviewer", "B"], ["REVIEWER", "", "Staff", "North"],
    ["Author", "", "", ""], ["Approver", "C", "Staff", "North"], ["Owner"]]

theorem roles_reported_uneven :
    ∃ table other, FirstTable rolesHeader (rolesDocument unevenRoles).root table ∧
      FirstTable rolesHeader (rolesDocument unevenRoles.reverse).root other ∧
      table.bodyRows.Perm other.bodyRows ∧
      Rule.rolesAndResponsibilities.check (rolesDocument unevenRoles) false .empty = ⟨[
        "Roles and Responsibilities table row is incorrectly formatted (expected 4 columns): " ++
          "'Reviewer | B'.",
        "Roles and Responsibilities table row is incorrectly formatted (expected 4 columns): " ++
          "'Owner'.",
        "Role 'Reviewer' is missing a non-empty Full Name row " ++
          "in the Roles and Responsibilities table."], []⟩ ∧
      ∃ told, told.Perm (rowErrors unevenRoles) ∧
        Rule.rolesAndResponsibilities.check (rolesDocument unevenRoles.reverse) false .empty =
          ⟨told ++ roleErrors unevenRoles, []⟩ := by
  have hbody : (tableWith? rolesHeader (rolesDocument unevenRoles).root).map Node.bodyRows =
      some unevenRoles := by decide +kernel
  have hreversed : (tableWith? rolesHeader (rolesDocument unevenRoles.reverse).root).map
      Node.bodyRows = some unevenRoles.reverse := by decide +kernel
  obtain ⟨table, htable, hrows⟩ := Option.map_eq_some_iff.mp hbody
  obtain ⟨other, hother, hotherRows⟩ := Option.map_eq_some_iff.mp hreversed
  have htable := tableWith?_eq_some_iff.mp htable
  have hother := tableWith?_eq_some_iff.mp hother
  have hperm : table.bodyRows.Perm other.bodyRows := by
    rw [hrows, hotherRows]
    exact (List.reverse_perm _).symm
  obtain ⟨htold, -, hreordered⟩ := roles_reported (rolesDocument unevenRoles) false table htable
  have htoldReversed := hreordered _ other hother hperm
  rw [hrows] at htold htoldReversed
  refine ⟨table, other, htable, hother, hperm, ?_, htoldReversed⟩
  rw [htold]
  decide +kernel

end SopDocs.Lint
