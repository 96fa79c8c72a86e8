import SopDocs.Markdown.Document
import SopDocs.Proofs.Lint.Severity

/-!
# Rules only append, each a block of its own

A rule puts what it finds behind the findings that are there and does not look at them. So the
findings of a document are one block for each rule, which is what the rule finds by itself, and
the order of the rules is the order of the blocks.
-/

namespace SopDocs.Lint

namespace Findings

/-- The findings of two, those of the first before those of the second. -/
def append (f g : Findings) : Findings := ⟨f.errors ++ g.errors, f.warnings ++ g.warnings⟩

instance : Append Findings := ⟨append⟩

theorem errors_append (f g : Findings) : (f ++ g).errors = f.errors ++ g.errors := rfl

theorem warnings_append (f g : Findings) : (f ++ g).warnings = f.warnings ++ g.warnings := rfl

theorem eq_of_lists {f g : Findings} (herrors : f.errors = g.errors)
    (hwarnings : f.warnings = g.warnings) : f = g := by
  cases f
  cases g
  cases herrors
  cases hwarnings
  rfl

theorem append_empty (f : Findings) : f ++ empty = f :=
  eq_of_lists (List.append_nil _) (List.append_nil _)

theorem append_assoc (f g h : Findings) : f ++ g ++ h = f ++ (g ++ h) :=
  eq_of_lists (List.append_assoc _ _ _) (List.append_assoc _ _ _)

/-- A message goes behind the findings that are there. -/
theorem addProblem_eq_append (strict : Bool) (f : Findings) (p : Problem) :
    f.addProblem strict p = f ++ empty.addProblem strict p := by
  unfold addProblem add
  cases p.severity with
  | error => exact eq_of_lists rfl (List.append_nil _).symm
  | warning =>
    cases strict with
    | true => exact eq_of_lists rfl (List.append_nil _).symm
    | false => exact eq_of_lists (List.append_nil _).symm rfl

theorem addProblems_eq_append (strict : Bool) (f : Findings) (ps : List Problem) :
    f.addProblems strict ps = f ++ ofProblems strict ps := by
  induction ps generalizing f with
  | nil => exact (append_empty f).symm
  | cons p ps ih =>
    have hstep : ∀ g : Findings,
        g.addProblems strict (p :: ps) = g.addProblem strict p ++ ofProblems strict ps :=
      fun g => ih (g.addProblem strict p)
    rw [ofProblems, hstep, hstep, addProblem_eq_append, append_assoc]

end Findings

/-! ### Blocks -/

/-- What a rule finds by itself. -/
def Rule.block (rule : Rule) (ctx : Context) (strict : Bool) : Findings :=
  rule.check ctx strict .empty

theorem Rule.check_eq_append (rule : Rule) (ctx : Context) (strict : Bool) (f : Findings) :
    rule.check ctx strict f = f ++ rule.block ctx strict :=
  Findings.addProblems_eq_append strict f (rule.problems ctx)

/-- Rules that run one after the other leave one block behind for each of them. -/
theorem foldl_check (rules : List Rule) (ctx : Context) (strict : Bool) (f : Findings) :
    rules.foldl (fun f rule => rule.check ctx strict f) f =
      f ++ ⟨rules.flatMap fun rule => (rule.block ctx strict).errors,
        rules.flatMap fun rule => (rule.block ctx strict).warnings⟩ := by
  induction rules generalizing f with
  | nil => exact (Findings.append_empty f).symm
  | cons rule rules ih =>
    rw [List.foldl_cons, ih, Rule.check_eq_append, Findings.append_assoc]
    rfl

theorem errors_runRules (rules : List Rule) (ctx : Context) (strict : Bool) :
    (runRules rules ctx strict).errors =
      rules.flatMap fun rule => (rule.block ctx strict).errors := by
  rw [runRules, foldl_check]
  rfl

theorem warnings_runRules (rules : List Rule) (ctx : Context) (strict : Bool) :
    (runRules rules ctx strict).warnings =
      rules.flatMap fun rule => (rule.block ctx strict).warnings := by
  rw [runRules, foldl_check]
  rfl

/-- **Rules are independent and only append.** Whatever has been found before, a rule leaves it
as it is and puts behind it what it finds with nothing there. So the findings of a document are
the blocks of all rules, each rule once, and another order of the rules is another order of the
blocks. -/
theorem rules_only_append (ctx : Context) (strict : Bool) :
    (∀ (rule : Rule) (f : Findings),
      (rule.check ctx strict f).errors = f.errors ++ (rule.check ctx strict .empty).errors ∧
      (rule.check ctx strict f).warnings =
        f.warnings ++ (rule.check ctx strict .empty).warnings) ∧
    (∀ rule, Rule.all.count rule = 1) ∧
    (lintTree ctx strict).errors =
      Rule.all.flatMap (fun rule => (rule.check ctx strict .empty).errors) ∧
    (lintTree ctx strict).warnings =
      Rule.all.flatMap (fun rule => (rule.check ctx strict .empty).warnings) ∧
    ∀ order : List Rule, order.Perm Rule.all →
      (runRules order ctx strict).errors =
        order.flatMap (fun rule => (rule.check ctx strict .empty).errors) ∧
      (runRules order ctx strict).warnings =
        order.flatMap (fun rule => (rule.check ctx strict .empty).warnings) ∧
      (runRules order ctx strict).errors.Perm (lintTree ctx strict).errors ∧
      (runRules order ctx strict).warnings.Perm (lintTree ctx strict).warnings := by
  have herrors := fun rules => errors_runRules rules ctx strict
  have hwarnings := fun rules => warnings_runRules rules ctx strict
  refine ⟨fun rule f => ?_, ?_, herrors _, hwarnings _, fun order horder =>
    ⟨herrors order, hwarnings order, ?_, ?_⟩⟩
  · rw [rule.check_eq_append]
    exact ⟨Findings.errors_append f _, Findings.warnings_append f _⟩
  · intro rule
    cases rule <;> rfl
  · rw [lintTree, herrors, herrors]
    exact horder.flatMap_right _
  · rw [lintTree, hwarnings, hwarnings]
    exact horder.flatMap_right _

/-- An empty document whose name is that of another one. -/
def blankContext : Context where
  path := ⟨"GDI-SOP0001_a.md"⟩
  root := Markdown.parse ""
  conventions := .ofConfig .standard
  inputs := [⟨"GDI-SOP0001_a.md"⟩, ⟨"copy/GDI-SOP0001_a.md"⟩]
  charter := default
  found := fun _ => false
  probe := none

/-- The other way round the rules find the same, and tell it in another order. -/
theorem rules_only_append_reversed :
    Rule.all.reverse.Perm Rule.all ∧
    (runRules Rule.all.reverse blankContext false).errors.Perm
      (lintTree blankContext false).errors ∧
    (runRules Rule.all.reverse blankContext false).errors ≠ (lintTree blankContext false).errors := by
  have horder : Rule.all.reverse.Perm Rule.all := List.reverse_perm _
  obtain ⟨-, -, -, -, hall⟩ := rules_only_append blankContext false
  obtain ⟨-, -, hperm, -⟩ := hall Rule.all.reverse horder
  exact ⟨horder, hperm, by decide +kernel⟩

end SopDocs.Lint
