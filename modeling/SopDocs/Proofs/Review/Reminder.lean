import SopDocs.Proofs.Conventions
import SopDocs.Proofs.Text.Search
import SopDocs.Review.Run

/-!
# Reminders are found by what their titles mention

A document looks for its reminder by a key, its identifier or else its name, in the titles of
the open issues. The title of a reminder quotes the name of its file, so each document finds
its own. It wants a reminder if it is due, no title mentions its key and reminders are asked
for.
-/

namespace SopDocs.Review

open Text (Mentions)

/-! ### The issue that is found -/

theorem existingIssue?_eq_some_iff {key : String} {issues : List Issue} {issue : Issue} :
    existingIssue? key issues = some issue ↔ Mentions issue.title key ∧
      ∃ before after, issues = before ++ issue :: after ∧
        ∀ other ∈ before, ¬ Mentions other.title key := by
  unfold existingIssue?
  rw [List.find?_eq_some_iff_append]
  simp only [Bool.not_eq_true', ← Bool.not_eq_true, Text.contains_iff]

theorem existingIssue?_eq_none_iff {key : String} {issues : List Issue} :
    existingIssue? key issues = none ↔ ∀ issue ∈ issues, ¬ Mentions issue.title key := by
  unfold existingIssue?
  rw [List.find?_eq_none]
  simp only [Text.contains_iff]

/-! ### The title of a reminder -/

/-- The words of a title before the name of the file. -/
def titleStart : String := "[SOP Review] Review due: "

theorem toList_issueTitle (name : String) :
    (issueTitle name).toList = titleStart.toList ++ '\'' :: (name.toList ++ ['\'']) := by
  have hstart : "[SOP Review] Review due: '".toList = titleStart.toList ++ ['\''] := by decide
  unfold issueTitle
  simp only [toString, String.toList_append, hstart, List.append_assoc]
  rfl

theorem mentions_issueTitle_of_infix {name key : String} (h : key.toList <:+: name.toList) :
    Mentions (issueTitle name) key := by
  unfold Mentions
  rw [toList_issueTitle]
  exact h.trans ⟨titleStart.toList ++ ['\''], ['\''], by simp⟩

/-- The title of a document's reminder mentions what the document is found by. -/
theorem mentions_issueTitle_lookupKey (c : Conventions) (p : Path) :
    Mentions (issueTitle (p.fileName?.getD "")) (lookupKey c p) := by
  refine mentions_issueTitle_of_infix ?_
  unfold lookupKey
  cases hidentifier : c.fileIdentifier? p with
  | none => exact List.infix_rfl
  | some identifier =>
    obtain ⟨-, name, rest, hname, hlist⟩ := Conventions.exists_name_of_fileIdentifier hidentifier
    rw [hname, Option.getD_some, Option.getD_some, hlist]
    exact (List.prefix_append _ _).isInfix

/-- A key without an apostrophe is mentioned before the name or within it. -/
theorem mentions_issueTitle_iff {name key : String} (h : '\'' ∉ key.toList) :
    Mentions (issueTitle name) key ↔ Mentions titleStart key ∨ Mentions name key := by
  unfold Mentions
  rw [toList_issueTitle, Text.infix_cut_iff h, Text.infix_cut_iff h, List.infix_nil]
  constructor
  · rintro (hstart | hname | hnil)
    · exact Or.inl hstart
    · exact Or.inr hname
    · exact Or.inl (by rw [hnil]; exact List.nil_infix)
  · rintro (hstart | hname)
    · exact Or.inl hstart
    · exact Or.inr (Or.inl hname)

/-! ### What is wanted for a document -/

namespace Setup

/-- A document that was last edited on a date is to get a reminder. -/
def Wants (setup : Setup) (path : Path) (date : Date) : Prop :=
  isDue date setup.today setup.days = true ∧
    (∀ issue ∈ setup.issues, ¬ Mentions issue.title (lookupKey setup.conventions path)) ∧
    setup.createIssues = true

instance (setup : Setup) (path : Path) (date : Date) : Decidable (setup.Wants path date) :=
  inferInstanceAs (Decidable (_ ∧ _ ∧ _))

theorem due_examineDated (setup : Setup) (path : Path) (date : Date) :
    (setup.examineDated path date).due = isDue date setup.today setup.days := rfl

theorem existing_examineDated_eq_some_iff {setup : Setup} {path : Path} {date : Date}
    {issue : Issue} :
    (setup.examineDated path date).existing = some issue ↔
      isDue date setup.today setup.days = true ∧
        existingIssue? (lookupKey setup.conventions path) setup.issues = some issue := by
  unfold examineDated
  simp only
  split
  · next hdue => simp only [hdue, true_and]
  · next hdue => simp only [hdue, false_and, reduceCtorEq]

theorem existing_examineDated_eq_none_iff {setup : Setup} {path : Path} {date : Date}
    (hdue : isDue date setup.today setup.days = true) :
    (setup.examineDated path date).existing = none ↔
      ∀ issue ∈ setup.issues, ¬ Mentions issue.title (lookupKey setup.conventions path) := by
  rw [← existingIssue?_eq_none_iff]
  unfold examineDated
  simp only [if_pos hdue]

theorem wants_iff {setup : Setup} {path : Path} {date : Date} :
    setup.Wants path date ↔ isDue date setup.today setup.days = true ∧
      (setup.examineDated path date).existing = none ∧ setup.createIssues = true := by
  unfold Wants
  refine and_congr_right fun hdue => and_congr_left fun _ => ?_
  exact (existing_examineDated_eq_none_iff hdue).symm

theorem draft_examineDated (setup : Setup) (path : Path) (date : Date) :
    (setup.examineDated path date).draft =
      if setup.Wants path date then some (setup.draftFor path date) else none := by
  have hwants : (isDue date setup.today setup.days &&
      (setup.examineDated path date).existing.isNone && setup.createIssues) = true ↔
        setup.Wants path date := by
    rw [Bool.and_eq_true, Bool.and_eq_true, and_assoc, Option.isNone_iff_eq_none, wants_iff]
  have hdraft : (setup.examineDated path date).draft =
      if (isDue date setup.today setup.days && (setup.examineDated path date).existing.isNone &&
        setup.createIssues) = true then some (setup.draftFor path date) else none := rfl
  rw [hdraft]
  simp only [hwants]

theorem draft_examineDated_eq_some_iff {setup : Setup} {path : Path} {date : Date}
    {draft : Draft} :
    (setup.examineDated path date).draft = some draft ↔
      setup.Wants path date ∧ setup.draftFor path date = draft := by
  rw [setup.draft_examineDated, Option.ite_none_right_eq_some, Option.some.injEq]

end Setup

end SopDocs.Review
