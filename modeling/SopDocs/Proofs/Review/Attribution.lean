import SopDocs.Files.Finder
import SopDocs.Proofs.Review.Reminder

/-!
# Whose reminder an open issue is taken for

A reminder is taken for that of a document if its title mentions the key of the document, and
the title of a reminder quotes the whole name of a file. So the reminder of another document is
taken exactly if the other name mentions the key; the words before the name have no identifier
in them. A name with an identifier of its own can mention another identifier only after its own.
-/

namespace SopDocs.Review

open Text (Mentions)

theorem not_mentions_titleStart {c : Conventions} {key : String}
    (h : c.IsIdentifier key.toList) : ¬ Mentions titleStart key := by
  intro hmention
  obtain ⟨digits, hlength, hdigits, hkey⟩ := h
  obtain ⟨d, hd⟩ := List.exists_mem_of_length_pos (by omega : 0 < digits.length)
  have hmem : d ∈ titleStart.toList :=
    hmention.subset (by rw [hkey]; exact List.mem_append_right _ hd)
  have hnone : titleStart.toList.all (fun d => !Text.isDecimalDigit d) = true := by decide
  have hdigit := List.all_eq_true.mp hnone d hmem
  rw [hdigits d hd] at hdigit
  cases hdigit

/-- A name that starts with an identifier mentions another one only after the underscore. -/
theorem infix_name_iff {c : Conventions} {a b rest : List Char} (ha : c.IsIdentifier a)
    (hb : c.IsIdentifier b) (hne : a ≠ b) (hbar : '_' ∉ c.identifierPrefix.toList) :
    a <:+: b ++ '_' :: rest ↔ a <:+: rest := by
  rw [Text.infix_cut_iff (ha.not_mem (by decide) hbar)]
  -- Identifiers have one length, so the one could only be all of the other.
  refine or_iff_right fun hinfix => hne ?_
  exact hinfix.eq_of_length (ha.length_eq.trans hb.length_eq.symm)

/-- **The reminder of another document is taken for that of a document exactly if its title
mentions the key of the document.** For keys without an apostrophe that is decided by the name
that the title quotes, and for documents with different identifiers by what follows the
identifier in this name. An overdue document gets a reminder of its own exactly if no open
issue mentions its key. -/
theorem reminder_taken_iff (setup : Setup) {p q : Path} {name : String} {issue : Issue}
    (hkeys : lookupKey setup.conventions p ≠ lookupKey setup.conventions q)
    (hname : q.fileName? = some name) (htitle : issue.title = issueTitle name) :
    (∀ issues, existingIssue? (lookupKey setup.conventions p) issues = some issue ↔
      Mentions (issueTitle name) (lookupKey setup.conventions p) ∧
        ∃ before after, issues = before ++ issue :: after ∧
          ∀ other ∈ before, ¬ Mentions other.title (lookupKey setup.conventions p)) ∧
    ('\'' ∉ (lookupKey setup.conventions p).toList →
      (Mentions (issueTitle name) (lookupKey setup.conventions p) ↔
        Mentions titleStart (lookupKey setup.conventions p) ∨
          Mentions name (lookupKey setup.conventions p))) ∧
    (∀ a b, setup.conventions.fileIdentifier? p = some a →
      setup.conventions.fileIdentifier? q = some b →
      '\'' ∉ setup.conventions.identifierPrefix.toList →
      '_' ∉ setup.conventions.identifierPrefix.toList →
      ∃ rest, name.toList = b.toList ++ '_' :: rest ∧
        (Mentions (issueTitle name) (lookupKey setup.conventions p) ↔ a.toList <:+: rest)) ∧
    (∀ date, isDue date setup.today setup.days = true → setup.createIssues = true →
      ((setup.examineDated p date).draft = some (setup.draftFor p date) ↔
        ∀ other ∈ setup.issues, ¬ Mentions other.title (lookupKey setup.conventions p))) := by
  refine ⟨fun issues => ?_, mentions_issueTitle_iff, fun a b ha hb hquote hbar => ?_,
    fun date hdue hcreate => ?_⟩
  · rw [existingIssue?_eq_some_iff, htitle]
  · obtain ⟨hidentifier, -⟩ := Conventions.exists_name_of_fileIdentifier ha
    obtain ⟨hother, otherName, rest, hotherName, hlist⟩ :=
      Conventions.exists_name_of_fileIdentifier hb
    obtain rfl : otherName = name := Option.some.inj (hotherName.symm.trans hname)
    have hkey : lookupKey setup.conventions p = a := by rw [lookupKey, ha, Option.getD_some]
    have hne : a ≠ b := by
      intro heq
      refine hkeys ?_
      rw [lookupKey, lookupKey, ha, hb, heq, Option.getD_some, Option.getD_some]
    refine ⟨rest, hlist, ?_⟩
    rw [hkey, mentions_issueTitle_iff (hidentifier.not_mem (by decide) hquote),
      or_iff_right (not_mentions_titleStart hidentifier)]
    unfold Mentions
    rw [hlist]
    exact infix_name_iff hidentifier hother (fun heq => hne (String.toList_inj.mp heq)) hbar
  · rw [Setup.draft_examineDated_eq_some_iff]
    unfold Setup.Wants
    simp only [hdue, hcreate, true_and, and_true]

/-- Documents of which one quotes the identifier of another in its name, and one goes on with a
digit where that identifier ends. -/
def archive : Files where
  top := .dir [("sops", .dir [
    ("GDI-SOP00012_transfer.md", .file (.text "")),
    ("GDI-SOP0001_access.md", .file (.text "")),
    ("GDI-SOP0002_replaces-GDI-SOP0001.md", .file (.text ""))])]
  current := []

def archiveFinder : Files.Finder := ⟨.ofConfig .standard, []⟩

def transferPath : Path := ⟨"sops/GDI-SOP00012_transfer.md"⟩

def accessPath : Path := ⟨"sops/GDI-SOP0001_access.md"⟩

def replacementPath : Path := ⟨"sops/GDI-SOP0002_replaces-GDI-SOP0001.md"⟩

def numberedPath : Path := ⟨"sops/GDI-SOP0003_access-0001.md"⟩

/-- The reminder of a file. -/
def reminderOf (p : Path) : Issue := ⟨7, issueTitle (p.fileName?.getD ""), "https://example.org/7"⟩

/-- A run that is to create reminders, while the one of a file is open. -/
def archiveSetup (open_ : Path) : Setup where
  files := archive
  conventions := archiveFinder.conventions
  charterPath := Config.standard.charterPath
  repository := Config.standard.repository
  today := ⟨2024, 5, 17⟩
  days := 365
  createIssues := true
  issues := [reminderOf open_]

theorem fileIdentifier?_access :
    archiveFinder.conventions.fileIdentifier? accessPath = some "GDI-SOP0001" := by decide

theorem lookupKey_access : lookupKey archiveFinder.conventions accessPath = "GDI-SOP0001" := by
  rw [lookupKey, fileIdentifier?_access, Option.getD_some]

/-- Digits in a name that are not an identifier do no harm. -/
theorem reminder_taken_iff_numbered :
    lookupKey archiveFinder.conventions accessPath ≠
      lookupKey archiveFinder.conventions numberedPath ∧
    (∀ issues, existingIssue? (lookupKey archiveFinder.conventions accessPath) issues ≠
      some (reminderOf numberedPath)) ∧
    ((archiveSetup numberedPath).examineDated accessPath ⟨2020, 1, 15⟩).draft =
      some ((archiveSetup numberedPath).draftFor accessPath ⟨2020, 1, 15⟩) := by
  have hname : numberedPath.fileName? = some "GDI-SOP0003_access-0001.md" := by decide +kernel
  have hnumbered : archiveFinder.conventions.fileIdentifier? numberedPath = some "GDI-SOP0003" := by
    decide +kernel
  have hkeys : lookupKey archiveFinder.conventions accessPath ≠
      lookupKey archiveFinder.conventions numberedPath := by
    rw [lookupKey_access, lookupKey, hnumbered, Option.getD_some]
    decide
  have htitle : (reminderOf numberedPath).title = issueTitle "GDI-SOP0003_access-0001.md" := by
    rw [reminderOf, hname, Option.getD_some]
  obtain ⟨hfound, -, hrest, hdraft⟩ :=
    reminder_taken_iff (archiveSetup numberedPath) hkeys hname htitle
  obtain ⟨rest, hlist, hmentions⟩ :=
    hrest _ _ fileIdentifier?_access hnumbered (by decide +kernel) (by decide +kernel)
  have hname_rest : rest = "access-0001.md".toList := by
    have hsplit : "GDI-SOP0003_access-0001.md".toList =
        "GDI-SOP0003".toList ++ '_' :: "access-0001.md".toList := by decide
    rw [hsplit] at hlist
    exact (List.cons.inj (List.append_cancel_left hlist)).2.symm
  have hnot : ¬ Text.Mentions (issueTitle "GDI-SOP0003_access-0001.md")
      (lookupKey (archiveSetup numberedPath).conventions accessPath) := by
    rw [hmentions, hname_rest, ← Text.occurs_iff]
    decide
  refine ⟨hkeys, fun issues hsome => hnot ((hfound issues).mp hsome).1,
    (hdraft ⟨2020, 1, 15⟩ (by decide +kernel) rfl).mpr ?_⟩
  intro other hother
  rw [List.mem_singleton.mp hother, reminderOf, hname, Option.getD_some]
  exact hnot

/-- The reminder of a file is taken for that of another file of the same run, and so the other
file, which is overdue, gets no reminder. -/
def Misattributed (p q : Path) : Prop :=
  p ∈ archiveFinder.collect archive [⟨"sops"⟩] ∧ q ∈ archiveFinder.collect archive [⟨"sops"⟩] ∧
  lookupKey archiveFinder.conventions p ≠ lookupKey archiveFinder.conventions q ∧
  existingIssue? (lookupKey archiveFinder.conventions p) [reminderOf q] = some (reminderOf q) ∧
  ((archiveSetup q).examineDated p ⟨2020, 1, 15⟩).due = true ∧
  ((archiveSetup q).examineDated p ⟨2020, 1, 15⟩).draft = none

theorem collect_archive : archiveFinder.collect archive [⟨"sops"⟩] =
    [transferPath, accessPath, replacementPath] := by
  have hfound : ([⟨"sops"⟩] : List Path).flatMap (archiveFinder.ofInput archive) =
      [transferPath, accessPath, replacementPath] := by
    decide
  unfold Files.Finder.collect Files.Finder.sortPaths
  rw [hfound, List.mergeSort_of_pairwise (by decide)]
  decide

theorem misattributed_of_mentions {p q : Path}
    (hp : p ∈ archiveFinder.collect archive [⟨"sops"⟩])
    (hq : q ∈ archiveFinder.collect archive [⟨"sops"⟩])
    (hkeys : lookupKey archiveFinder.conventions p ≠ lookupKey archiveFinder.conventions q)
    (hmentions : Mentions (reminderOf q).title (lookupKey archiveFinder.conventions p)) :
    Misattributed p q := by
  refine ⟨hp, hq, hkeys, existingIssue?_eq_some_iff.mpr ⟨hmentions, [], [], rfl, by simp⟩,
    ?_, ?_⟩
  · rw [Setup.due_examineDated]
    dsimp only [archiveSetup]
    decide
  · rw [Setup.draft_examineDated, if_neg]
    rintro ⟨-, hnone, -⟩
    exact hnone (reminderOf q) List.mem_cons_self hmentions

/-- A name that quotes an identifier and one that goes on with a digit both take the place of
the document with this identifier. -/
theorem misattributed_access :
    Misattributed accessPath replacementPath ∧ Misattributed accessPath transferPath := by
  refine ⟨misattributed_of_mentions ?_ ?_ ?_ ?_, misattributed_of_mentions ?_ ?_ ?_ ?_⟩
  case refine_1 | refine_2 | refine_5 | refine_6 =>
    rw [collect_archive]
    decide
  all_goals
    rw [lookupKey_access]
    decide +kernel

end SopDocs.Review
