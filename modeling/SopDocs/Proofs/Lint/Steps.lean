import Mathlib.Algebra.Group.Nat.Defs
import SopDocs.Proofs.Index.CleanDocument
import SopDocs.Proofs.Procedure

/-!
# A procedure that two rules accept has its steps in order

One rule counts along the headings of top-level steps, the other looks below each heading
for a table. Where neither finds a problem, the number of a step is its position, the path
in a heading is the start of the table below it, and no table stands for two headings.
-/

namespace SopDocs.Lint

open SopDocs.Tree Procedure

/-! ### Numbers in sequence -/

theorem maxStep_add_one : maxStep + 1 = 2 ^ 64 := rfl

/-- As long as no number passes the greatest one that is read, each heading has the number
that the counter has reached. -/
theorem stepNumber?_of_sequence {expected : Nat} {headings : List Node}
    (hbound : expected + headings.length ≤ 2 ^ 64)
    (hnone : numberingProblems expected headings = []) (k : Nat) (hk : k < headings.length) :
    stepNumber? (headingText headings[k]) = some (expected + k) := by
  induction headings generalizing expected k with
  | nil => exact absurd hk (Nat.not_lt_zero k)
  | cons heading rest ih =>
    unfold numberingProblems at hnone
    simp only at hnone
    split at hnone
    · cases hnone
    · next found hfound =>
      obtain ⟨hnumber, hrest⟩ := List.append_eq_nil_iff.mp hnone
      have heq : found = expected := by
        by_cases heq : found = expected
        · exact heq
        · rw [if_neg heq] at hnumber
          cases hnumber
      subst heq
      cases k with
      | zero => exact hfound
      | succ k =>
        rw [List.length_cons] at hbound hk
        have hnext : nextStep found = found + 1 := by
          have hmax := maxStep_add_one
          exact Nat.min_eq_left (by omega)
        rw [hnext] at hrest
        have hstep := ih (by omega) hrest k (by omega)
        rw [List.getElem_cons_succ, hstep, Nat.add_assoc, Nat.add_comm 1 k]

/-! ### Tables below headings -/

/-- The node at `j` is the table of the heading at `i`: the first table after it, with no
heading in between. -/
structure Serves (siblings : List Node) (i j : Nat) : Prop where
  after : i < j
  table : ∃ node, siblings[j]? = some node ∧ node.kind = .table
  between : ∀ k node, i < k → k < j → siblings[k]? = some node →
    node.headingDepth = none ∧ node.kind ≠ .table

theorem exists_serves {siblings : List Node} {i : Nat} {table : Node}
    (h : stepTable? (siblings.drop (i + 1)) = some table) :
    ∃ j, Serves siblings i j ∧ siblings[j]? = some table := by
  unfold stepTable? at h
  obtain ⟨hkind, before, after, hsplit, hbefore⟩ := List.find?_eq_some_iff_append.mp h
  have hdrop : siblings.drop (i + 1) = before ++ table ::
      (after ++ (siblings.drop (i + 1)).dropWhile fun n => n.headingDepth.isNone) := by
    calc siblings.drop (i + 1)
        = (siblings.drop (i + 1)).takeWhile (fun n => n.headingDepth.isNone) ++
          (siblings.drop (i + 1)).dropWhile (fun n => n.headingDepth.isNone) :=
          List.takeWhile_append_dropWhile.symm
      _ = _ := by rw [hsplit, List.append_assoc, List.cons_append]
  have hheadings : ∀ node ∈ before, node.headingDepth = none := by
    intro node hnode
    have hall := List.all_eq_true.mp (List.all_takeWhile
      (l := siblings.drop (i + 1)) (p := fun n => n.headingDepth.isNone)) node
      (by rw [hsplit]; exact List.mem_append_left _ hnode)
    exact Option.isNone_iff_eq_none.mp hall
  have hget : ∀ m, siblings[i + 1 + m]? = (before ++ table ::
      (after ++ (siblings.drop (i + 1)).dropWhile fun n => n.headingDepth.isNone))[m]? := by
    intro m
    rw [← hdrop, List.getElem?_drop]
  have htable : siblings[i + 1 + before.length]? = some table := by
    rw [hget, List.getElem?_append_right (Nat.le_refl _), Nat.sub_self]
    rfl
  refine ⟨i + 1 + before.length, ⟨by omega, ⟨table, htable, by simpa using hkind⟩, ?_⟩, htable⟩
  intro k node hik hkj hnode
  obtain ⟨m, rfl⟩ : ∃ m, k = i + 1 + m := ⟨k - (i + 1), by omega⟩
  rw [hget, List.getElem?_append_left (by omega)] at hnode
  have hmem := List.mem_of_getElem? hnode
  exact ⟨hheadings node hmem, by simpa using hbefore node hmem⟩

/-- A table serves the nearest heading above it and no other. -/
theorem Serves.heading_unique {siblings : List Node} {i i' j : Nat} (h : Serves siblings i j)
    (h' : Serves siblings i' j) {heading heading' : Node}
    (hi : siblings[i]? = some heading) (hi' : siblings[i']? = some heading')
    (hheading : heading.headingDepth ≠ none) (hheading' : heading'.headingDepth ≠ none) :
    i = i' := by
  rcases Nat.lt_trichotomy i i' with hlt | heq | hgt
  · exact absurd (h.between i' heading' hlt h'.after hi').1 hheading'
  · exact heq
  · exact absurd (h'.between i heading hgt h.after hi).1 hheading

/-- Each heading of a step has been looked at, with what stands below it. -/
theorem stepTableProblems_of_silent {siblings : List Node} (hnone : tableProblems siblings = [])
    {i : Nat} {heading : Node} (hi : siblings[i]? = some heading) {step : String}
    (hstep : stepOf? heading = some step) :
    stepTableProblems step (siblings.drop (i + 1)) = [] := by
  induction siblings generalizing i with
  | nil => cases hi
  | cons node rest ih =>
    obtain ⟨hhead, hrest⟩ := List.append_eq_nil_iff.mp hnone
    cases i with
    | zero =>
      obtain rfl : node = heading := Option.some.inj hi
      rw [hstep] at hhead
      exact hhead
    | succ i => exact ih hrest hi

theorem exists_table_of_silent {siblings : List Node} (hnone : tableProblems siblings = [])
    {i : Nat} {heading : Node} (hi : siblings[i]? = some heading) {step : String}
    (hstep : stepOf? heading = some step) :
    ∃ j table cell, Serves siblings i j ∧ siblings[j]? = some table ∧
      table.bodyRows.head?.bind List.head? = some cell ∧ History.bareCell cell = step := by
  have hproblems := stepTableProblems_of_silent hnone hi hstep
  unfold stepTableProblems at hproblems
  split at hproblems
  · cases hproblems
  · next table htable =>
    split at hproblems
    · cases hproblems
    · next cell hcell =>
      obtain ⟨j, hserves, hj⟩ := exists_serves htable
      have hbare : History.bareCell cell = step := by
        by_cases hbare : History.bareCell cell = step
        · exact hbare
        · rw [if_neg hbare] at hproblems
          cases hproblems
      exact ⟨j, table, cell, hserves, hj, hcell, hbare⟩

/-! ### Both rules -/

/-- Steps in order: numbers by position, paths as in the tables, one table for each. -/
structure OrderlySteps (siblings : List Node) : Prop where
  /-- The path of the `k`-th top-level step starts with a numeral of value `k`. -/
  numbered : ∀ k (hk : k < (stepHeadings siblings).length),
    (∃ components rest,
      StepHeading (headingText (stepHeadings siblings)[k]) components rest) ∧
    ∀ components rest, StepHeading (headingText (stepHeadings siblings)[k]) components rest →
      ∃ numeral others, components = numeral :: others ∧
        (∀ c ∈ numeral, c.isDigit = true) ∧ Text.digitsValue numeral = k + 1
  /-- The table of a step starts with the path of its heading. -/
  tabled : ∀ i heading components rest, siblings[i]? = some heading →
    heading.headingDepth ≠ none → StepHeading (headingText heading) components rest →
    ∃ j table cell, Serves siblings i j ∧ siblings[j]? = some table ∧
      table.bodyRows.head?.bind List.head? = some cell ∧
      History.bareCell cell = String.ofList (dottedPath components)
  /-- No table stands for two headings. -/
  apart : ∀ i i' j heading heading', siblings[i]? = some heading →
    siblings[i']? = some heading' → heading.headingDepth ≠ none →
    heading'.headingDepth ≠ none → Serves siblings i j → Serves siblings i' j → i = i'

theorem orderlySteps_of_silent {siblings : List Node}
    (hcount : (stepHeadings siblings).length < 2 ^ 64)
    (hnumbers : numberingProblems 1 (stepHeadings siblings) = [])
    (htables : tableProblems siblings = []) : OrderlySteps siblings where
  numbered := by
    intro k hk
    have hnumber := stepNumber?_of_sequence (by omega) hnumbers k hk
    obtain ⟨numeral, hnumeral, hdigits, hvalue⟩ := stepNumber?_eq_some hnumber
    obtain ⟨others, rest, hheading⟩ := exists_stepHeading hnumeral
    refine ⟨⟨_, rest, hheading⟩, ?_⟩
    intro components rest' hheading'
    obtain ⟨s, htext, hdotted⟩ := hheading'
    obtain ⟨first, others', rfl, -⟩ := hdotted.exists_cons
    have hfirst : first = numeral := by
      have hread := stepDigits?_of_stepHeading ⟨s, htext, hdotted⟩
      rw [hnumeral] at hread
      exact (Option.some.inj hread).symm
    subst hfirst
    exact ⟨first, others', rfl, hdigits, by omega⟩
  tabled := by
    intro i heading components rest hi hdepth hheading
    have hstep : stepOf? heading = some (String.ofList (dottedPath components)) := by
      unfold stepOf?
      rw [if_pos (Option.isSome_iff_ne_none.mpr hdepth), stepPath?_of_stepHeading hheading]
      rfl
    exact exists_table_of_silent htables hi hstep
  apart := by
    intro i i' j heading heading' hi hi' hdepth hdepth' hserves hserves'
    exact hserves.heading_unique hserves' hi hi' hdepth hdepth'

/-- Every top-level heading with a number is counted as a step. -/
theorem countSteps_of_sequence {root : Node} {siblings : List Node}
    (hsection : section? root = some siblings)
    (hcount : (stepHeadings siblings).length < 2 ^ 64)
    (hnumbers : numberingProblems 1 (stepHeadings siblings) = []) :
    countSteps root = (stepHeadings siblings).length := by
  have hall : (stepHeadings siblings).filter
      (fun h => (stepDigits? (headingText h)).isSome) = stepHeadings siblings := by
    rw [List.filter_eq_self]
    intro heading hheading
    obtain ⟨k, hk, rfl⟩ := List.getElem_of_mem hheading
    have hnumber := stepNumber?_of_sequence (by omega) hnumbers k hk
    obtain ⟨numeral, hnumeral, -⟩ := stepNumber?_eq_some hnumber
    rw [hnumeral]
    rfl
  unfold countSteps
  rw [hsection]
  simp only [hall]

/-- **Where neither rule about steps reports anything, the steps are in order** and all of
them are counted. -/
theorem steps_of_silent (ctx : Context) (strict : Bool) {siblings : List Node}
    (hsection : section? ctx.root = some siblings)
    (hcount : (stepHeadings siblings).length < 2 ^ 64)
    (hnumbers : (Rule.stepNumbering.check ctx strict .empty).isEmpty = true)
    (htables : (Rule.stepTables.check ctx strict .empty).isEmpty = true) :
    countSteps ctx.root = (stepHeadings siblings).length ∧ OrderlySteps siblings := by
  rw [Rule.isEmpty_check] at hnumbers htables
  have hnumbers : numberingProblems 1 (stepHeadings siblings) = [] := by
    change stepNumbering ctx = [] at hnumbers
    unfold stepNumbering at hnumbers
    rwa [hsection] at hnumbers
  have htables : tableProblems siblings = [] := by
    change stepTables ctx = [] at htables
    unfold stepTables at htables
    rwa [hsection] at htables
  exact ⟨countSteps_of_sequence hsection hcount hnumbers,
    orderlySteps_of_silent hcount hnumbers htables⟩

/-- A heading with a text. -/
def textHeading (depth : Nat) (text : String) : Node :=
  ⟨.header, ⟨0, 0⟩, none, .header depth, [⟨.str, ⟨0, 0⟩, some text, .none, []⟩]⟩

/-- A procedure of two steps, the first with a step below it and the second with a number
that starts with zero. -/
def nestedSteps : Context where
  path := ⟨"node-specific/GDI-SOP0003_steps.md"⟩
  root := ⟨.document, ⟨0, 0⟩, none, .none, [
    textHeading 3 "Procedure",
    textHeading 4 "8.1 Prepare", textTable [["Step", "Role"], ["1", "A"]],
    textHeading 5 "8.1.2. Check", textTable [["Step", "Role"], ["` 1.2 `", "B"]],
    textTable [["Step", "Role"], ["3", "B"]],
    textHeading 5 "Note",
    textHeading 4 " 8.02x", ⟨.horizontalRule, ⟨0, 0⟩, none, .none, []⟩,
    textTable [["Step", "Role"], ["02", "A"]]]⟩
  conventions := .ofConfig .standard
  inputs := []
  charter := .empty
  found := fun _ => false
  probe := none

theorem steps_of_silent_nestedSteps :
    (Rule.stepNumbering.check nestedSteps true .empty).isEmpty = true ∧
    (Rule.stepTables.check nestedSteps true .empty).isEmpty = true ∧
    countSteps nestedSteps.root = 2 ∧
    ∃ siblings, section? nestedSteps.root = some siblings ∧ siblings.length = 9 ∧
      OrderlySteps siblings := by
  have hcounts : (section? nestedSteps.root).map
      (fun siblings => (siblings.length, (stepHeadings siblings).length)) = some (9, 2) := by
    decide +kernel
  obtain ⟨siblings, hsection, hlengths⟩ := Option.map_eq_some_iff.mp hcounts
  obtain ⟨hlength, hsteps⟩ := Prod.mk.inj hlengths
  have hcount : (stepHeadings siblings).length < 2 ^ 64 := by omega
  have hnumbers : (Rule.stepNumbering.check nestedSteps true .empty).isEmpty = true := by
    decide +kernel
  have htables : (Rule.stepTables.check nestedSteps true .empty).isEmpty = true := by
    decide +kernel
  obtain ⟨hcounted, horderly⟩ := steps_of_silent nestedSteps true hsection hcount hnumbers htables
  exact ⟨hnumbers, htables, hcounted.trans hsteps, siblings, hsection, hlength, horderly⟩

end SopDocs.Lint
