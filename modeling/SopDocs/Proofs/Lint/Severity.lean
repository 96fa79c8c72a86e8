import SopDocs.Lint.Rule

/-!
# Strict mode changes the severity of findings and nothing else

A run collects problems rule by rule, whatever the mode, and turns each into a
message for one of two lists. In strict mode both severities go to the same list,
so its errors are the errors and the warnings of the other mode, merged in the
order in which the problems were found.
-/

namespace SopDocs.Lint

/-- `zs` holds the elements of `xs` and `ys`, those of each in their order. -/
inductive Merged {α : Type} : List α → List α → List α → Prop
  | nil : Merged [] [] []
  | left {x : α} {xs ys zs : List α} : Merged xs ys zs → Merged (x :: xs) ys (x :: zs)
  | right {y : α} {xs ys zs : List α} : Merged xs ys zs → Merged xs (y :: ys) (y :: zs)

namespace Merged

variable {α : Type} {xs ys zs : List α}

theorem sublist_left (h : Merged xs ys zs) : xs.Sublist zs := by
  induction h with
  | nil => exact .slnil
  | left _ ih => exact ih.cons_cons _
  | right _ ih => exact ih.cons _

theorem sublist_right (h : Merged xs ys zs) : ys.Sublist zs := by
  induction h with
  | nil => exact .slnil
  | left _ ih => exact ih.cons _
  | right _ ih => exact ih.cons_cons _

theorem length_eq (h : Merged xs ys zs) : zs.length = xs.length + ys.length := by
  induction h with
  | nil => rfl
  | left _ ih => simp only [List.length_cons, ih]; omega
  | right _ ih => simp only [List.length_cons, ih]; omega

/-- What a test accepts and what it refuses, merged, is the whole list. -/
theorem map_filter {β : Type} (f : α → β) (test : α → Bool) (zs : List α) :
    Merged ((zs.filter test).map f) ((zs.filter (! test ·)).map f) (zs.map f) := by
  induction zs with
  | nil => exact .nil
  | cons z zs ih =>
    cases hz : test z with
    | true => simpa [hz] using ih.left
    | false => simpa [hz] using ih.right

end Merged

/-! ### Problems to findings -/

def Problem.isError (p : Problem) : Bool := p.severity == .error

namespace Findings

/-- In strict mode every message is an error. -/
theorem addProblems_strict (f : Findings) (ps : List Problem) :
    f.addProblems true ps = ⟨f.errors ++ ps.map Problem.message, f.warnings⟩ := by
  induction ps generalizing f with
  | nil => simp [addProblems]
  | cons p ps ih =>
    have hstep : f.addProblems true (p :: ps) = (f.addProblem true p).addProblems true ps := rfl
    have hadd : f.addProblem true p = ⟨f.errors ++ [p.message], f.warnings⟩ := by
      unfold addProblem add
      cases p.severity <;> rfl
    rw [hstep, ih, hadd]
    simp

theorem addProblems_lenient (f : Findings) (ps : List Problem) :
    f.addProblems false ps =
      ⟨f.errors ++ (ps.filter Problem.isError).map Problem.message,
        f.warnings ++ (ps.filter (! Problem.isError ·)).map Problem.message⟩ := by
  induction ps generalizing f with
  | nil => simp [addProblems]
  | cons p ps ih =>
    have hstep : f.addProblems false (p :: ps) = (f.addProblem false p).addProblems false ps := rfl
    rw [hstep, ih]
    cases hp : p.severity with
    | error =>
      have hadd : f.addProblem false p = ⟨f.errors ++ [p.message], f.warnings⟩ := by
        simp [addProblem, add, hp]
      simp [hadd, Problem.isError, hp]
    | warning =>
      have hadd : f.addProblem false p = ⟨f.errors, f.warnings ++ [p.message]⟩ := by
        simp [addProblem, add, hp]
      simp [hadd, Problem.isError, hp]

theorem addProblems_append (strict : Bool) (f : Findings) (ps qs : List Problem) :
    f.addProblems strict (ps ++ qs) = (f.addProblems strict ps).addProblems strict qs :=
  List.foldl_append

/-- The two findings of the same problems. -/
theorem merged_ofProblems (ps : List Problem) :
    Merged (ofProblems false ps).errors (ofProblems false ps).warnings
      (ofProblems true ps).errors := by
  unfold ofProblems
  rw [addProblems_strict, addProblems_lenient]
  simpa [empty] using Merged.map_filter Problem.message Problem.isError ps

theorem warnings_ofProblems_strict (ps : List Problem) : (ofProblems true ps).warnings = [] := by
  unfold ofProblems
  rw [addProblems_strict]
  rfl

/-- Problems that are all errors are told in order, whatever the mode. -/
theorem addProblems_of_isError {ps : List Problem} (h : ∀ p ∈ ps, p.isError = true)
    (strict : Bool) (f : Findings) :
    f.addProblems strict ps = ⟨f.errors ++ ps.map Problem.message, f.warnings⟩ := by
  cases strict with
  | true => exact addProblems_strict f ps
  | false =>
    have hwarnings : ps.filter (! Problem.isError ·) = [] :=
      List.filter_eq_nil_iff.mpr fun p hp => by simp [h p hp]
    rw [addProblems_lenient, List.filter_eq_self.mpr h, hwarnings]
    exact congrArg _ (List.append_nil _)

theorem ofProblems_of_isError {ps : List Problem} (h : ∀ p ∈ ps, p.isError = true)
    (strict : Bool) : ofProblems strict ps = ⟨ps.map Problem.message, []⟩ :=
  addProblems_of_isError h strict empty

/-- Problems that are all warnings are told in order, as warnings or, in strict mode, as errors. -/
theorem ofProblems_of_not_isError {ps : List Problem} (h : ∀ p ∈ ps, p.isError = false)
    (strict : Bool) : ofProblems strict ps =
      if strict then ⟨ps.map Problem.message, []⟩ else ⟨[], ps.map Problem.message⟩ := by
  unfold ofProblems
  cases strict with
  | true => exact addProblems_strict empty ps
  | false =>
    have herrors : ps.filter Problem.isError = [] :=
      List.filter_eq_nil_iff.mpr fun p hp => by simp [h p hp]
    have hwarnings : ps.filter (! Problem.isError ·) = ps :=
      List.filter_eq_self.mpr fun p hp => by simp [h p hp]
    rw [addProblems_lenient, herrors, hwarnings]
    rfl

/-- Every error is the message of a problem. -/
theorem exists_of_mem_errors {strict : Bool} {ps : List Problem} {message : String}
    (h : message ∈ (ofProblems strict ps).errors) : ∃ p ∈ ps, p.message = message := by
  unfold ofProblems at h
  cases strict with
  | true =>
    rw [addProblems_strict] at h
    exact List.mem_map.mp h
  | false =>
    rw [addProblems_lenient] at h
    obtain ⟨p, hp, hmessage⟩ := List.mem_map.mp h
    exact ⟨p, (List.mem_filter.mp hp).1, hmessage⟩

/-- Findings without errors come from problems of the lesser severity. -/
theorem isError_eq_false_of_hasErrors {strict : Bool} {ps : List Problem}
    (h : (ofProblems strict ps).hasErrors = false) {p : Problem} (hp : p ∈ ps) :
    p.isError = false := by
  have herrors : (ofProblems strict ps).errors = [] := by simpa [hasErrors] using h
  cases strict with
  | true =>
    rw [ofProblems, addProblems_strict] at herrors
    have hnil : ps = [] := by simpa [empty] using herrors
    simp [hnil] at hp
  | false =>
    rw [ofProblems, addProblems_lenient] at herrors
    have hnone : ∀ q ∈ ps, q.isError = false := by simpa [empty] using herrors
    exact hnone p hp

/-- Whatever the mode, there is something to tell exactly if there is a problem. -/
theorem isEmpty_ofProblems (strict : Bool) (ps : List Problem) :
    (ofProblems strict ps).isEmpty = true ↔ ps = [] := by
  have hlists : (ofProblems strict ps).isEmpty = true ↔
      (ofProblems strict ps).errors = [] ∧ (ofProblems strict ps).warnings = [] := by
    simp [isEmpty]
  rw [hlists, ofProblems]
  cases strict with
  | true =>
    rw [addProblems_strict]
    simp [empty]
  | false =>
    rw [addProblems_lenient]
    cases ps with
    | nil => simp [empty]
    | cons p ps => cases hp : p.isError <;> simp [empty, hp]

end Findings

/-- A rule by itself reports nothing exactly if it finds no problem. -/
theorem Rule.isEmpty_check (rule : Rule) (ctx : Context) (strict : Bool) :
    (rule.check ctx strict .empty).isEmpty = true ↔ rule.problems ctx = [] :=
  Findings.isEmpty_ofProblems strict (rule.problems ctx)

/-- A rule that finds errors only tells them in order, whatever the mode. -/
theorem Rule.check_of_isError {rule : Rule} {ctx : Context}
    (h : ∀ p ∈ rule.problems ctx, p.isError = true) (strict : Bool) :
    rule.check ctx strict .empty = ⟨(rule.problems ctx).map Problem.message, []⟩ :=
  Findings.ofProblems_of_isError h strict

/-! ### Runs of rules -/

/-- Rules only append, each what it finds by itself. -/
theorem runRules_from (rules : List Rule) (ctx : Context) (strict : Bool) (f : Findings) :
    rules.foldl (fun f rule => rule.check ctx strict f) f =
      f.addProblems strict (rules.flatMap (·.problems ctx)) := by
  induction rules generalizing f with
  | nil => rfl
  | cons rule rules ih =>
    rw [List.foldl_cons, ih, List.flatMap_cons, Findings.addProblems_append]
    rfl

theorem lintTree_eq (ctx : Context) (strict : Bool) :
    lintTree ctx strict = .ofProblems strict (Rule.all.flatMap (·.problems ctx)) :=
  runRules_from Rule.all ctx strict .empty

/-- **Strict mode changes severity only.** It leaves no warnings, and its errors
are the errors and the warnings of the other mode, merged in order. So it finds an
error exactly where the other mode finds anything. -/
theorem lintTree_strict_merged (ctx : Context) :
    (lintTree ctx true).warnings = [] ∧
    Merged (lintTree ctx false).errors (lintTree ctx false).warnings (lintTree ctx true).errors ∧
    (lintTree ctx false).errors.Sublist (lintTree ctx true).errors ∧
    (lintTree ctx false).warnings.Sublist (lintTree ctx true).errors ∧
    (lintTree ctx true).errors.length =
      (lintTree ctx false).errors.length + (lintTree ctx false).warnings.length ∧
    ((lintTree ctx true).hasErrors = true ↔ (lintTree ctx false).isEmpty = false) := by
  have hmerged : Merged (lintTree ctx false).errors (lintTree ctx false).warnings
      (lintTree ctx true).errors := by
    simp only [lintTree_eq]
    exact Findings.merged_ofProblems _
  have hwarnings : (lintTree ctx true).warnings = [] := by
    rw [lintTree_eq]
    exact Findings.warnings_ofProblems_strict _
  have hlength := hmerged.length_eq
  refine ⟨hwarnings, hmerged, hmerged.sublist_left, hmerged.sublist_right, hlength, ?_⟩
  rw [Findings.hasErrors, Findings.isEmpty]
  simp only [Bool.not_eq_true', Bool.and_eq_false_iff, List.isEmpty_eq_false_iff,
    ← List.length_pos_iff]
  omega

end SopDocs.Lint
