import Mathlib.Data.List.Forall2
import SopDocs.Proofs.Lint.Origin
import SopDocs.Proofs.Lint.Steps

/-!
# Each break in the numbers of steps is reported once

The rule carries along the headings of top-level steps the number that should come next. That
number is a function of the headings so far: it follows the last number among them, and headings
without a number are passed over. So the rule reports the headings that break the sequence, each
once and in order. It goes on from the number that it finds, so numbers that are raised from one
heading on make one break.
-/

namespace SopDocs.Lint

open SopDocs.Tree Procedure

/-! ### Numbers and what is expected of them -/

/-- The number of a step heading: the value of all the decimal digits that follow `8.` at the
start of its text, if they are ASCII and the value fits into 64 bits. -/
def Numbered (heading : Node) (n : Nat) : Prop :=
  ∃ numeral rest, headingText heading = '8' :: '.' :: (numeral ++ rest) ∧ numeral ≠ [] ∧
    (∀ c ∈ numeral, '0' ≤ c ∧ c ≤ '9') ∧ ¬ StartsWithDigit rest ∧
    Text.digitsValue numeral = n ∧ n < 2 ^ 64

/-- The number expected after some headings: it follows the last number that they have, up to the
greatest that fits into 64 bits, and is one if they have none. -/
def Expected (before : List Node) (e : Nat) : Prop :=
  ((∀ heading ∈ before, ∀ n, ¬ Numbered heading n) ∧ e = 1) ∨
    ∃ earlier heading later n, before = earlier ++ heading :: later ∧ Numbered heading n ∧
      (∀ other ∈ later, ∀ m, ¬ Numbered other m) ∧ e = min (n + 1) (2 ^ 64 - 1)

/-- A heading without the number expected after those before it: it has another one or none. -/
def BreaksAt (headings : List Node) (i : Nat) : Prop :=
  ∃ heading e, headings[i]? = some heading ∧ Expected (headings.take i) e ∧ ¬ Numbered heading e

/-- What is wrong with a heading if `e` is expected. -/
def Tells (heading : Node) (e : Nat) (problem : Problem) : Prop :=
  (∃ n, Numbered heading n ∧ n ≠ e ∧
      problem = .stepMisnumbered (String.ofList (headingText heading)) n e) ∨
    (∀ n, ¬ Numbered heading n) ∧
      problem = .stepUnnumbered (String.ofList (headingText heading)) e

/-- A problem that is about the heading at a position. -/
def ReportsAt (headings : List Node) (i : Nat) (problem : Problem) : Prop :=
  ∃ heading e, headings[i]? = some heading ∧ Expected (headings.take i) e ∧
    Tells heading e problem

theorem numbered_iff {heading : Node} {n : Nat} :
    Numbered heading n ↔ stepNumber? (headingText heading) = some n := by
  have hmax := maxStep_add_one
  rw [stepNumber?_eq_some_iff]
  constructor
  · rintro ⟨numeral, rest, htext, hne, hdigits, hrest, hvalue, hbound⟩
    have hisDigit : ∀ c ∈ numeral, c.isDigit = true :=
      fun c hc => Text.isDigit_iff.mpr (hdigits c hc)
    have hnumeral : Numeral numeral :=
      ⟨hne, fun c hc => Text.isDecimalDigit_of_isDigit (hisDigit c hc)⟩
    have hread : stepDigits? (headingText heading) = some numeral :=
      stepDigits?_eq_some_iff.mpr ⟨rest, htext, hnumeral, hrest⟩
    exact ⟨numeral, hread, hisDigit, hvalue, by omega⟩
  · rintro ⟨numeral, hread, hdigits, hvalue, hbound⟩
    obtain ⟨rest, htext, hnumeral, hrest⟩ := stepDigits?_eq_some_iff.mp hread
    exact ⟨numeral, rest, htext, hnumeral.nonempty,
      fun c hc => Text.isDigit_iff.mp (hdigits c hc), hrest, hvalue, by omega⟩

theorem Numbered.unique {heading : Node} {n m : Nat} (hn : Numbered heading n)
    (hm : Numbered heading m) : n = m :=
  Option.some.inj ((numbered_iff.mp hn).symm.trans (numbered_iff.mp hm))

theorem Numbered.le_maxStep {heading : Node} {n : Nat} (h : Numbered heading n) :
    n ≤ maxStep := by
  obtain ⟨-, -, -, -, -, -, -, hbound⟩ := h
  have hmax := maxStep_add_one
  omega

theorem Tells.not_numbered {heading : Node} {e : Nat} {problem : Problem}
    (h : Tells heading e problem) : ¬ Numbered heading e := by
  intro he
  obtain ⟨n, hn, hne, -⟩ | ⟨hnone, -⟩ := h
  · exact hne (hn.unique he)
  · exact hnone e he

/-! ### The counter -/

theorem expected_nil {e : Nat} : Expected [] e ↔ e = 1 := by
  constructor
  · rintro (⟨-, he⟩ | ⟨earlier, heading, later, n, hsplit, -⟩)
    · exact he
    · cases earlier <;> cases hsplit
  · intro he
    exact Or.inl ⟨List.forall_mem_nil _, he⟩

/-- An element of a list with one at its end is that one, or stands before it. -/
theorem concat_eq_split {α : Type} {before earlier later : List α} {a b : α}
    (h : before ++ [a] = earlier ++ b :: later) :
    (before = earlier ∧ a = b ∧ later = []) ∨
      ∃ between, later = between ++ [a] ∧ before = earlier ++ b :: between := by
  rcases List.eq_nil_or_concat' later with rfl | ⟨between, last, rfl⟩
  · obtain ⟨hbefore, hlast⟩ := List.append_inj' h rfl
    exact Or.inl ⟨hbefore, List.singleton_inj.mp hlast, rfl⟩
  · rw [← List.cons_append, ← List.append_assoc] at h
    obtain ⟨hbefore, hlast⟩ := List.append_inj' h rfl
    obtain rfl := List.singleton_inj.mp hlast
    exact Or.inr ⟨between, rfl, hbefore⟩

/-- A number makes all that stands before it irrelevant. -/
theorem expected_concat_numbered {before : List Node} {heading : Node} {n e : Nat}
    (hn : Numbered heading n) : Expected (before ++ [heading]) e ↔ e = nextStep n := by
  constructor
  · rintro (⟨hnone, -⟩ | ⟨earlier, last, later, m, hsplit, hm, hlater, rfl⟩)
    · exact absurd hn (hnone heading (by simp) n)
    · rcases concat_eq_split hsplit with ⟨-, rfl, -⟩ | ⟨between, rfl, -⟩
      · rw [hn.unique hm]
        rfl
      · exact absurd hn (hlater heading (by simp) n)
  · rintro rfl
    exact Or.inr ⟨before, heading, [], n, rfl, hn, List.forall_mem_nil _, rfl⟩

/-- A heading without a number leaves the counter as it is. -/
theorem expected_concat_unnumbered {before : List Node} {heading : Node} {e : Nat}
    (hnone : ∀ n, ¬ Numbered heading n) :
    Expected (before ++ [heading]) e ↔ Expected before e := by
  constructor
  · rintro (⟨hall, he⟩ | ⟨earlier, last, later, m, hsplit, hm, hlater, he⟩)
    · exact Or.inl ⟨fun other hother => hall other (List.mem_append_left _ hother), he⟩
    · rcases concat_eq_split hsplit with ⟨-, rfl, -⟩ | ⟨between, rfl, hbefore⟩
      · exact absurd hm (hnone m)
      · refine Or.inr ⟨earlier, last, between, m, hbefore, hm, fun other hother => ?_, he⟩
        exact hlater other (List.mem_append_left _ hother)
  · rintro (⟨hall, he⟩ | ⟨earlier, last, later, m, rfl, hm, hlater, he⟩)
    · refine Or.inl ⟨fun other hother => ?_, he⟩
      rcases List.mem_append.mp hother with hother | hother
      · exact hall other hother
      · rw [List.mem_singleton.mp hother]
        exact hnone
    · refine Or.inr ⟨earlier, last, later ++ [heading], m, by simp, hm, ?_, he⟩
      intro other hother
      rcases List.mem_append.mp hother with hother | hother
      · exact hlater other hother
      · rw [List.mem_singleton.mp hother]
        exact hnone

/-- The counter stands at the number expected after some headings. -/
def Counts (before : List Node) (counter : Nat) : Prop :=
  ∀ e, Expected before e ↔ e = counter

theorem numberingProblems_of_numbered {heading : Node} {n : Nat} (h : Numbered heading n)
    (counter : Nat) (rest : List Node) :
    numberingProblems counter (heading :: rest) =
      (if n = counter then []
        else [.stepMisnumbered (String.ofList (headingText heading)) n counter]) ++
        numberingProblems (nextStep n) rest := by
  rw [numberingProblems]
  simp only [numbered_iff.mp h]

/-- One step along the headings: the counter moves on, and a problem is found unless the heading
has the number at which it stood. -/
theorem numberingProblems_step (counter : Nat) (heading : Node) (rest : List Node) :
    ∃ next, (∀ before, Counts before counter → Counts (before ++ [heading]) next) ∧
      ((Numbered heading counter ∧
          numberingProblems counter (heading :: rest) = numberingProblems next rest) ∨
        ∃ problem, Tells heading counter problem ∧
          numberingProblems counter (heading :: rest) =
            problem :: numberingProblems next rest) := by
  cases hnumber : stepNumber? (headingText heading) with
  | none =>
    have hnone : ∀ n, ¬ Numbered heading n := by
      intro n hn
      rw [numbered_iff, hnumber] at hn
      cases hn
    refine ⟨counter, fun before hcounts e => ?_, Or.inr ⟨_, Or.inr ⟨hnone, rfl⟩, ?_⟩⟩
    · rw [expected_concat_unnumbered hnone]
      exact hcounts e
    · rw [numberingProblems]
      simp only [hnumber]
  | some n =>
    have hn : Numbered heading n := numbered_iff.mpr hnumber
    refine ⟨nextStep n, fun before _ e => expected_concat_numbered hn, ?_⟩
    rw [numberingProblems_of_numbered hn]
    by_cases heq : n = counter
    · subst heq
      exact Or.inl ⟨hn, by rw [if_pos rfl, List.nil_append]⟩
    · exact Or.inr ⟨_, Or.inl ⟨n, hn, heq, rfl⟩, by rw [if_neg heq, List.singleton_append]⟩

/-- From where the counter stands, the problems are those of the breaks that follow. -/
theorem exists_breaks {before : List Node} {counter : Nat} (h : Counts before counter)
    (rest : List Node) :
    ∃ found : List Nat, found.Pairwise (· < ·) ∧
      (∀ i, i ∈ found ↔ before.length ≤ i ∧ BreaksAt (before ++ rest) i) ∧
      List.Forall₂ (ReportsAt (before ++ rest)) found (numberingProblems counter rest) := by
  induction rest generalizing before counter with
  | nil =>
    refine ⟨[], List.Pairwise.nil, fun i => ?_, List.Forall₂.nil⟩
    constructor
    · intro hi
      cases hi
    · rintro ⟨hi, heading, e, hheading, -⟩
      rw [List.append_nil, List.getElem?_eq_none hi] at hheading
      cases hheading
  | cons heading rest ih =>
    obtain ⟨next, hnext, hstep⟩ := numberingProblems_step counter heading rest
    obtain ⟨found, hsorted, hfound, hreports⟩ := ih (hnext before h)
    have hheadings : before ++ [heading] ++ rest = before ++ heading :: rest := by simp
    have hlength : (before ++ [heading]).length = before.length + 1 := by simp
    rw [hheadings] at hreports
    simp only [hheadings, hlength] at hfound
    -- what stands at the position that the counter has come to
    have hhere : (before ++ heading :: rest)[before.length]? = some heading := by simp
    have htake : (before ++ heading :: rest).take before.length = before := by simp
    have hexpected : Expected ((before ++ heading :: rest).take before.length) counter := by
      rw [htake]
      exact (h counter).mpr rfl
    obtain ⟨hnumbered, hrest⟩ | ⟨problem, htells, hrest⟩ := hstep
    · refine ⟨found, hsorted, fun i => ?_, by rwa [hrest]⟩
      rw [hfound]
      constructor
      · rintro ⟨hi, hbreaks⟩
        exact ⟨by omega, hbreaks⟩
      · rintro ⟨hi, hbreaks⟩
        have hne : i ≠ before.length := by
          rintro rfl
          obtain ⟨other, e, hother, he, hnot⟩ := hbreaks
          rw [hhere] at hother
          rw [htake, h] at he
          cases hother
          subst he
          exact hnot hnumbered
        exact ⟨by omega, hbreaks⟩
    · have hbreak : BreaksAt (before ++ heading :: rest) before.length :=
        ⟨heading, counter, hhere, hexpected, htells.not_numbered⟩
      refine ⟨before.length :: found, List.pairwise_cons.mpr ⟨fun i hi => ?_, hsorted⟩,
        fun i => ?_, ?_⟩
      · have hi := ((hfound i).mp hi).1
        omega
      · rw [List.mem_cons, hfound]
        constructor
        · rintro (rfl | ⟨hi, hbreaks⟩)
          · exact ⟨Nat.le_refl _, hbreak⟩
          · exact ⟨by omega, hbreaks⟩
        · rintro ⟨hi, hbreaks⟩
          by_cases heq : i = before.length
          · exact Or.inl heq
          · exact Or.inr ⟨by omega, hbreaks⟩
      · rw [hrest]
        exact List.Forall₂.cons ⟨heading, counter, hhere, hexpected, htells⟩ hreports

/-! ### Raised numbers -/

/-- A heading whose number has been raised by `k`. -/
def Raised (k : Nat) (heading heading' : Node) : Prop :=
  ∃ n, Numbered heading n ∧ Numbered heading' (n + k)

/-- Two lists of headings with the same numbers up to one heading, from which on the numbers of
the second list are raised by `k`. -/
structure RaisedFrom (k : Nat) (first first' : Node) (headings headings' : List Node) : Prop where
  split : ∃ before rest before' rest', headings = before ++ first :: rest ∧
    headings' = before' ++ first' :: rest' ∧ List.Forall₂ (Raised 0) before before' ∧
    List.Forall₂ (Raised k) rest rest'
  first : Raised k first first'

theorem numberingProblems_eq_nil_of_numbered {heading : Node} {n counter : Nat} {rest : List Node}
    (hn : Numbered heading n) (hnone : numberingProblems counter (heading :: rest) = []) :
    n = counter ∧ numberingProblems (nextStep n) rest = [] := by
  rw [numberingProblems_of_numbered hn] at hnone
  obtain ⟨hhead, hrest⟩ := List.append_eq_nil_iff.mp hnone
  refine ⟨?_, hrest⟩
  by_cases heq : n = counter
  · exact heq
  · rw [if_neg heq] at hhead
    cases hhead

/-- Numbers in sequence stay in sequence if all are raised. -/
theorem numberingProblems_raised {k n : Nat} (hk : 0 < k) {rest rest' : List Node}
    (hraised : List.Forall₂ (Raised k) rest rest')
    (hnone : numberingProblems (nextStep n) rest = []) :
    numberingProblems (nextStep (n + k)) rest' = [] := by
  induction hraised generalizing n with
  | nil => rfl
  | @cons heading heading' rest rest' hheading _ ih =>
    obtain ⟨m, hm, hm'⟩ := hheading
    obtain ⟨hnext, hrest⟩ := numberingProblems_eq_nil_of_numbered hm hnone
    have hmax := hm'.le_maxStep
    -- the raised number fits, so the counter has not stopped at the greatest one
    have hnext' : m + k = nextStep (n + k) := by
      unfold nextStep at hnext ⊢
      omega
    rw [numberingProblems_of_numbered hm', if_pos hnext', List.nil_append]
    exact ih hrest

/-- Headings with the same numbers bring the counter to the same place. -/
theorem numberingProblems_same {counter : Nat} {before before' rest : List Node}
    (hsame : List.Forall₂ (Raised 0) before before')
    (hnone : numberingProblems counter (before ++ rest) = []) :
    ∃ next, numberingProblems next rest = [] ∧
      ∀ rest', numberingProblems counter (before' ++ rest') = numberingProblems next rest' := by
  induction hsame generalizing counter with
  | nil => exact ⟨counter, hnone, fun _ => rfl⟩
  | cons hheading _ ih =>
    obtain ⟨m, hm, hm'⟩ := hheading
    obtain ⟨rfl, hrest⟩ := numberingProblems_eq_nil_of_numbered hm hnone
    obtain ⟨next, hnext, hrest'⟩ := ih hrest
    refine ⟨next, hnext, fun rest' => ?_⟩
    rw [List.cons_append, numberingProblems_of_numbered hm', Nat.add_zero, if_pos rfl,
      List.nil_append]
    exact hrest' rest'

theorem numberingProblems_raisedFrom {k : Nat} (hk : 0 < k) {first first' : Node}
    {headings headings' : List Node} (h : RaisedFrom k first first' headings headings')
    {counter : Nat} (hnone : numberingProblems counter headings = []) :
    ∃ n, Numbered first n ∧ Numbered first' (n + k) ∧ numberingProblems counter headings' =
      [.stepMisnumbered (String.ofList (headingText first')) (n + k) n] := by
  obtain ⟨⟨before, rest, before', rest', rfl, rfl, hsame, hraised⟩, n, hn, hn'⟩ := h
  obtain ⟨next, hnext, hrest'⟩ := numberingProblems_same hsame hnone
  obtain ⟨rfl, hrest⟩ := numberingProblems_eq_nil_of_numbered hn hnext
  have hne : n + k ≠ n := by omega
  refine ⟨n, hn, hn', ?_⟩
  rw [hrest', numberingProblems_of_numbered hn', if_neg hne,
    numberingProblems_raised hk hraised hrest, List.append_nil]

/-! ### The rule -/

theorem isError_of_foundBy_stepNumbering {p : Problem} (h : p.foundBy = .stepNumbering) :
    p.isError = true := by
  cases p <;> cases h <;> rfl

/-- What the rule tells, all of it as errors. -/
theorem check_stepNumbering {ctx : Context} {siblings : List Node}
    (hsection : section? ctx.root = some siblings) (strict : Bool) :
    Rule.stepNumbering.check ctx strict .empty =
      ⟨(numberingProblems 1 (stepHeadings siblings)).map Problem.message, []⟩ := by
  have hproblems : Rule.stepNumbering.problems ctx =
      numberingProblems 1 (stepHeadings siblings) := by
    change stepNumbering ctx = _
    unfold stepNumbering
    rw [hsection]
  have herrors : ∀ p ∈ Rule.stepNumbering.problems ctx, p.isError = true := by
    rw [hproblems]
    intro p hp
    exact isError_of_foundBy_stepNumbering (foundBy_numberingProblems 1 _ p hp)
  rw [Rule.check_of_isError herrors, hproblems]

/-- **The rule on step numbers reports each break once, in order, and nothing else.** So if it
reports nothing and the numbers from one heading on are raised, it reports that heading only. -/
theorem stepNumbering_breaks (ctx : Context) (strict : Bool) {siblings : List Node}
    (hsection : section? ctx.root = some siblings) :
    (∃ found : List Nat, found.Pairwise (· < ·) ∧
      (∀ i, i ∈ found ↔ BreaksAt (stepHeadings siblings) i) ∧
      List.Forall₂ (fun i message => ∃ problem, ReportsAt (stepHeadings siblings) i problem ∧
        message = problem.message) found (Rule.stepNumbering.check ctx strict .empty).errors) ∧
    (Rule.stepNumbering.check ctx strict .empty).warnings = [] ∧
    ∀ (ctx' : Context) siblings' k first first', section? ctx'.root = some siblings' →
      RaisedFrom k first first' (stepHeadings siblings) (stepHeadings siblings') → 0 < k →
      (Rule.stepNumbering.check ctx strict .empty).isEmpty = true →
      ∃ n, Numbered first n ∧ Rule.stepNumbering.check ctx' strict .empty =
        ⟨[(Problem.stepMisnumbered (String.ofList (headingText first')) (n + k) n).message],
          []⟩ := by
  have hcounts : Counts [] 1 := fun e => expected_nil
  obtain ⟨found, hsorted, hfound, hreports⟩ := exists_breaks hcounts (stepHeadings siblings)
  simp only [List.nil_append, List.length_nil, Nat.zero_le, true_and] at hfound hreports
  rw [check_stepNumbering hsection]
  refine ⟨⟨found, hsorted, hfound, ?_⟩, rfl, ?_⟩
  · rw [List.forall₂_map_right_iff]
    exact hreports.imp fun i problem hproblem => ⟨problem, hproblem, rfl⟩
  · intro ctx' siblings' k first first' hsection' hraised hk hempty
    have hnone : numberingProblems 1 (stepHeadings siblings) = [] := by
      simpa [Findings.isEmpty] using hempty
    obtain ⟨n, hn, hn', hproblems⟩ := numberingProblems_raisedFrom hk hraised hnone
    exact ⟨n, hn, by rw [check_stepNumbering hsection', hproblems]; rfl⟩

/-- A procedure of these nodes and nothing around it. -/
def procedureOf (siblings : List Node) : Context := { nestedSteps with
  root := ⟨.document, ⟨0, 0⟩, none, .none, textHeading 3 "Procedure" :: siblings⟩ }

/-- Steps in sequence, with a step below the second one. -/
def plannedSteps : List Node := [
  textHeading 4 "8.1 Prepare", textHeading 4 "8.02 Check", textHeading 5 "8.2.1 Details",
  textHeading 4 " 8.3: Report"]

/-- The same steps after two have been left out between the first and the second. -/
def delayedSteps : List Node := [
  textHeading 4 "8.1 Prepare", textHeading 4 "8.4 Check", textHeading 4 "8.0005 Report"]

/-- Only the step after those left out is reported. -/
theorem stepNumbering_breaks_delayed :
    (Rule.stepNumbering.check (procedureOf plannedSteps) true .empty).isEmpty = true ∧
    RaisedFrom 2 (textHeading 4 "8.02 Check") (textHeading 4 "8.4 Check")
      (stepHeadings plannedSteps) (stepHeadings delayedSteps) ∧
    (Rule.stepNumbering.check (procedureOf delayedSteps) true .empty).errors =
      ["Procedure step '8.4 Check' is numbered 8.4 but 8.2 was expected."] ∧
    ∃ found : List Nat, (∀ i, i ∈ found ↔ BreaksAt (stepHeadings delayedSteps) i) ∧
      found.length = 1 := by
  have hplanned : section? (procedureOf plannedSteps).root = some plannedSteps := rfl
  have hdelayed : section? (procedureOf delayedSteps).root = some delayedSteps := rfl
  have hraised : ∀ k heading heading' n, stepNumber? (headingText heading) = some n →
      stepNumber? (headingText heading') = some (n + k) → Raised k heading heading' :=
    fun k heading heading' n hn hn' => ⟨n, numbered_iff.mpr hn, numbered_iff.mpr hn'⟩
  have hfrom : RaisedFrom 2 (textHeading 4 "8.02 Check") (textHeading 4 "8.4 Check")
      (stepHeadings plannedSteps) (stepHeadings delayedSteps) := by
    refine ⟨⟨[textHeading 4 "8.1 Prepare"], [textHeading 4 " 8.3: Report"],
      [textHeading 4 "8.1 Prepare"], [textHeading 4 "8.0005 Report"], rfl, rfl, ?_, ?_⟩, ?_⟩
    · exact .cons (hraised _ _ _ 1 (by decide +kernel) (by decide +kernel)) .nil
    · exact .cons (hraised _ _ _ 3 (by decide +kernel) (by decide +kernel)) .nil
    · exact hraised _ _ _ 2 (by decide +kernel) (by decide +kernel)
  have hempty :
      (Rule.stepNumbering.check (procedureOf plannedSteps) true .empty).isEmpty = true := by
    decide +kernel
  obtain ⟨n, hn, hfindings⟩ := (stepNumbering_breaks (procedureOf plannedSteps) true hplanned).2.2
    (procedureOf delayedSteps) delayedSteps 2 _ _ hdelayed hfrom (by decide) hempty
  have htwo : n = 2 := hn.unique (numbered_iff.mpr (by decide +kernel))
  subst htwo
  have herrors := congrArg Findings.errors hfindings
  obtain ⟨⟨found, -, hfound, hreports⟩, -⟩ :=
    stepNumbering_breaks (procedureOf delayedSteps) true hdelayed
  have hlength := hreports.length_eq
  rw [herrors] at hlength
  exact ⟨hempty, hfrom, herrors.trans (by decide +kernel), found, hfound, hlength⟩

end SopDocs.Lint
