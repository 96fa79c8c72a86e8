import SopDocs.CommandLine.Run
import SopDocs.Proofs.Review.Creation
import SopDocs.Proofs.Review.NewestDate
import SopDocs.Proofs.Review.Reminder

/-!
# What a review run does with each file

A run goes through its files in order and hands the outcomes of its drafts out, one to each file
that wants a reminder. What is reported of a file depends on the file, on what all files have in
common and on its own outcome. So the report can be told file by file, and a run that is done
again, when all reminders are open, has nothing left to send.
-/

namespace SopDocs.Review

open Text (Mentions)

/-! ### Counting while files come in -/

namespace Report

/-- The counts of a report are those of its files. -/
structure Counted (r : Report) : Prop where
  input : r.inputCount = r.files.length
  due : r.dueCount = r.files.countP (·.due)
  created : r.createdCount = r.files.countP (·.newIssue.isSome)

theorem counted_empty (today : Date) (days : Int) : (empty today days).Counted := ⟨rfl, rfl, rfl⟩

theorem counted_push {r : Report} (h : r.Counted) (f : FileState) : (r.push f).Counted where
  input := by rw [push, List.length_append, h.input, List.length_singleton]
  due := by
    simp only [push, List.countP_append, List.countP_singleton, h.due]
    split <;> rfl
  created := by
    simp only [push, List.countP_append, List.countP_singleton, h.created]
    split <;> rfl

theorem counted_foldl_push {r : Report} (h : r.Counted) (states : List FileState) :
    (states.foldl push r).Counted := by
  induction states generalizing r with
  | nil => exact h
  | cons state states ih => exact ih (counted_push h state)

theorem files_foldl_push (r : Report) (states : List FileState) :
    (states.foldl push r).files = r.files ++ states := by
  induction states generalizing r with
  | nil => rw [List.foldl_nil, List.append_nil]
  | cons state states ih => rw [List.foldl_cons, ih, push, List.append_assoc]; rfl

end Report

namespace Setup

variable {setup : Setup} {files : List (Path × Date)} {paths : List Path}

/-! ### Files with their dates -/

/-- The paths of files with the dates of their last edits. -/
structure Reads (setup : Setup) (files : List (Path × Date)) (paths : List Path) : Prop where
  paths : files.map (·.1) = paths
  dates : ∀ file ∈ files, lastEdit setup.files file.1 = .ok file.2

theorem Reads.cons {file : Path × Date} (hfile : lastEdit setup.files file.1 = .ok file.2)
    (h : setup.Reads files paths) : setup.Reads (file :: files) (file.1 :: paths) where
  paths := by rw [List.map_cons, h.paths]
  dates := List.forall_mem_cons.mpr ⟨hfile, h.dates⟩

theorem Reads.tail {file : Path × Date} (h : setup.Reads (file :: files) paths) :
    setup.Reads files paths.tail where
  paths := by rw [← h.paths, List.map_cons, List.tail_cons]
  dates := (List.forall_mem_cons.mp h.dates).2

theorem Reads.paths_eq_cons {file : Path × Date} (h : setup.Reads (file :: files) paths) :
    paths = file.1 :: paths.tail := by
  rw [← h.paths]
  rfl

theorem Reads.length_eq (h : setup.Reads files paths) : paths.length = files.length := by
  rw [← h.paths, List.length_map]

/-- The dates are what the files say, so there is only one way to read them. -/
theorem Reads.unique {files' : List (Path × Date)} (h : setup.Reads files paths)
    (h' : setup.Reads files' paths) : files = files' := by
  induction files generalizing paths files' with
  | nil =>
    have hlength := h'.length_eq.symm.trans h.length_eq
    exact (List.eq_nil_of_length_eq_zero hlength).symm
  | cons file files ih =>
    cases files' with
    | nil => cases h.length_eq.symm.trans h'.length_eq
    | cons file' files' =>
      have hpath : file.1 = file'.1 :=
        (List.cons.inj (h.paths_eq_cons.symm.trans h'.paths_eq_cons)).1
      have hdate := h.dates file List.mem_cons_self
      rw [hpath, h'.dates file' List.mem_cons_self] at hdate
      rw [Prod.ext hpath (Except.ok.inj hdate).symm, ih h.tail h'.tail]

theorem examine_of_read {path : Path} {date : Date} (h : lastEdit setup.files path = .ok date) :
    setup.examine path = .ok (setup.examineDated path date) := by
  unfold examine
  rw [h]
  rfl

theorem states_cons {path : Path} {date : Date} (h : lastEdit setup.files path = .ok date)
    (outcomes : List (Option Issue)) (rest : List Path) :
    setup.states outcomes (path :: rest) =
      if setup.Wants path date then
        (setup.states outcomes.tail rest).map
          ((setup.examineDated path date).state outcomes.head?.join :: ·)
      else (setup.states outcomes rest).map ((setup.examineDated path date).state none :: ·) := by
  rw [states]
  simp only [examine_of_read h]
  have hdraft := setup.draft_examineDated path date
  by_cases hwants : setup.Wants path date
  · rw [if_pos hwants] at hdraft ⊢
    simp only [hdraft]
  · rw [if_neg hwants] at hdraft ⊢
    simp only [hdraft]

theorem exists_reads_of_states {outcomes : List (Option Issue)} {states : List FileState}
    (h : setup.states outcomes paths = .ok states) : ∃ files, setup.Reads files paths := by
  induction paths generalizing outcomes states with
  | nil => exact ⟨[], rfl, by simp⟩
  | cons path rest ih =>
    cases hdate : lastEdit setup.files path with
    | error failure =>
      rw [Setup.states, examine, hdate] at h
      cases h
    | ok date =>
      have hrest : ∃ outcomes states, setup.states outcomes rest = .ok states := by
        rw [states_cons hdate] at h
        split at h
        · exact ⟨_, (map_eq_ok.mp h).imp fun _ hstates => hstates.1⟩
        · exact ⟨_, (map_eq_ok.mp h).imp fun _ hstates => hstates.1⟩
      obtain ⟨outcomes, states, hstates⟩ := hrest
      obtain ⟨files, hreads⟩ := ih hstates
      exact ⟨(path, date) :: files, hreads.cons hdate⟩

/-! ### Each file and its outcome -/

/-- The files that want a reminder, in order. -/
def wanted (setup : Setup) (files : List (Path × Date)) : List (Path × Date) :=
  files.filter fun file => setup.Wants file.1 file.2

/-- The outcome of the draft that comes after those of some files. -/
def outcomeAfter (setup : Setup) (outcomes : List (Option Issue)) (before : List (Path × Date)) :
    Option Issue :=
  (outcomes[(setup.wanted before).length]?).join

/-- The state of a file, given the outcome of its draft if it gets one. -/
def stateOf (setup : Setup) (file : Path × Date) (outcome : Option Issue) : FileState :=
  (setup.examineDated file.1 file.2).state (if setup.Wants file.1 file.2 then outcome else none)

theorem wanted_cons (file : Path × Date) (files : List (Path × Date)) :
    setup.wanted (file :: files) =
      if setup.Wants file.1 file.2 then file :: setup.wanted files else setup.wanted files := by
  unfold wanted
  rw [List.filter_cons]
  simp only [decide_eq_true_eq]

theorem outcomeAfter_nil (outcomes : List (Option Issue)) :
    setup.outcomeAfter outcomes [] = outcomes.head?.join := by
  cases outcomes <;> rfl

theorem outcomeAfter_cons (outcomes : List (Option Issue)) (file : Path × Date)
    (before : List (Path × Date)) :
    setup.outcomeAfter outcomes (file :: before) =
      setup.outcomeAfter (if setup.Wants file.1 file.2 then outcomes.tail else outcomes) before := by
  unfold outcomeAfter
  rw [wanted_cons]
  split
  · rw [List.length_cons, List.getElem?_tail]
  · rfl

theorem drafts_of_reads (h : setup.Reads files paths) :
    setup.drafts paths = (setup.wanted files).map fun file => setup.draftFor file.1 file.2 := by
  induction files generalizing paths with
  | nil =>
    rw [← h.paths]
    rfl
  | cons file files ih =>
    rw [h.paths_eq_cons, drafts]
    simp only [examine_of_read (h.dates file List.mem_cons_self), ih h.tail,
      setup.draft_examineDated, wanted_cons]
    split <;> rfl

/-- The states of files, each with the outcome that its draft gets. -/
def statesOf (setup : Setup) (outcomes : List (Option Issue)) (files : List (Path × Date)) :
    List FileState :=
  files.mapIdx fun i file => setup.stateOf file (setup.outcomeAfter outcomes (files.take i))

theorem statesOf_cons (outcomes : List (Option Issue)) (file : Path × Date)
    (files : List (Path × Date)) :
    setup.statesOf outcomes (file :: files) = setup.stateOf file outcomes.head?.join ::
      setup.statesOf (if setup.Wants file.1 file.2 then outcomes.tail else outcomes) files := by
  unfold statesOf
  simp only [List.mapIdx_cons, List.take_zero, outcomeAfter_nil, List.take_succ_cons,
    outcomeAfter_cons]

theorem exists_stateOf {outcomes : List (Option Issue)} {state : FileState}
    (h : state ∈ setup.statesOf outcomes files) :
    ∃ file ∈ files, ∃ outcome, setup.stateOf file outcome = state := by
  obtain ⟨i, hi, hstate⟩ := List.mem_mapIdx.mp h
  exact ⟨files[i], List.getElem_mem hi, _, hstate⟩

/-- Which files there are and which are due does not depend on the outcomes. -/
theorem map_statesOf (outcomes : List (Option Issue)) :
    (setup.statesOf outcomes files).map (fun state => (state.path, state.due)) =
      files.map fun file => (file.1.text, isDue file.2 setup.today setup.days) := by
  refine List.ext_getElem? fun i => ?_
  rw [statesOf, List.getElem?_map, List.getElem?_mapIdx, List.getElem?_map, Option.map_map]
  rfl

/-- A run over files whose dates are read tells the state of each one in its place. -/
theorem states_eq (h : setup.Reads files paths) (outcomes : List (Option Issue)) :
    setup.states outcomes paths = .ok (setup.statesOf outcomes files) := by
  induction files generalizing paths outcomes with
  | nil =>
    rw [← h.paths]
    rfl
  | cons file files ih =>
    rw [h.paths_eq_cons, states_cons (h.dates file List.mem_cons_self), statesOf_cons]
    unfold stateOf
    -- A file that wants a reminder takes the first outcome; any other leaves all of them.
    by_cases hwants : setup.Wants file.1 file.2
    · rw [if_pos hwants, if_pos hwants, if_pos hwants, ih h.tail]
      rfl
    · rw [if_neg hwants, if_neg hwants, if_neg hwants, ih h.tail]
      rfl

/-! ### What a report tells -/

/-- What a report tells of a file, given the outcome of its draft. -/
structure Accounts (setup : Setup) (file : Path × Date) (outcome : Option Issue)
    (state : FileState) : Prop where
  path : state.path = file.1.text
  lastEdit : state.lastEdit = file.2.text
  due : state.due = isDue file.2 setup.today setup.days
  existing : state.existingIssue.isSome = true ↔ state.due = true ∧
    ∃ issue ∈ setup.issues, Mentions issue.title (lookupKey setup.conventions file.1)
  first : ∀ url, state.existingIssue = some url → ∃ before issue after,
    setup.issues = before ++ issue :: after ∧
      Mentions issue.title (lookupKey setup.conventions file.1) ∧
      (∀ other ∈ before, ¬ Mentions other.title (lookupKey setup.conventions file.1)) ∧
      issue.url = url
  created : state.newIssue.isSome = true ↔ state.due = true ∧ state.existingIssue = none ∧
    setup.createIssues = true ∧ outcome.isSome = true
  address : ∀ url, state.newIssue = some url → ∃ issue, outcome = some issue ∧ issue.url = url

theorem accounts_stateOf (file : Path × Date) (outcome : Option Issue) :
    setup.Accounts file outcome (setup.stateOf file outcome) where
  path := rfl
  lastEdit := rfl
  due := rfl
  existing := by
    show ((setup.examineDated file.1 file.2).existing.map (·.url)).isSome = true ↔
      isDue file.2 setup.today setup.days = true ∧ _
    rw [Option.isSome_map, Option.isSome_iff_exists]
    constructor
    · rintro ⟨issue, hissue⟩
      obtain ⟨hdue, hfound⟩ := existing_examineDated_eq_some_iff.mp hissue
      obtain ⟨hmentions, before, after, hissues, -⟩ := existingIssue?_eq_some_iff.mp hfound
      exact ⟨hdue, issue, by rw [hissues]; exact List.mem_append_right _ List.mem_cons_self,
        hmentions⟩
    · rintro ⟨hdue, issue, hissue, hmentions⟩
      refine Option.ne_none_iff_exists'.mp fun hnone => ?_
      exact (existing_examineDated_eq_none_iff hdue).mp hnone issue hissue hmentions
  first := by
    intro url hurl
    obtain ⟨issue, hissue, rfl⟩ := Option.map_eq_some_iff.mp hurl
    obtain ⟨-, hfound⟩ := existing_examineDated_eq_some_iff.mp hissue
    obtain ⟨hmentions, before, after, hissues, hnone⟩ := existingIssue?_eq_some_iff.mp hfound
    exact ⟨before, issue, after, hissues, hmentions, hnone, rfl⟩
  created := by
    show ((if setup.Wants file.1 file.2 then outcome else none).map (·.url)).isSome = true ↔
      isDue file.2 setup.today setup.days = true ∧
        (setup.examineDated file.1 file.2).existing.map (·.url) = none ∧ _
    rw [Option.isSome_map, Option.map_eq_none_iff, ← and_assoc, ← and_assoc,
      and_assoc (c := setup.createIssues = true), ← wants_iff]
    by_cases hwants : setup.Wants file.1 file.2
    · rw [if_pos hwants, and_iff_right hwants]
    · rw [if_neg hwants]
      exact ⟨fun hsome => (by cases hsome), fun h => absurd h.1 hwants⟩
  address := by
    intro url hurl
    obtain ⟨issue, hissue, rfl⟩ := Option.map_eq_some_iff.mp hurl
    split at hissue
    · exact ⟨issue, hissue, rfl⟩
    · cases hissue

theorem exists_report (h : setup.Reads files paths) (outcomes : List (Option Issue)) :
    ∃ report, setup.report outcomes paths = .ok report := by
  rw [Setup.report, states_eq h]
  exact ⟨_, rfl⟩

theorem exists_reads_of_report {outcomes : List (Option Issue)} {report : Report}
    (h : setup.report outcomes paths = .ok report) : ∃ files, setup.Reads files paths := by
  obtain ⟨states, hstates, -⟩ := map_eq_ok.mp h
  exact exists_reads_of_states hstates

theorem counted_of_report {outcomes : List (Option Issue)} {report : Report}
    (h : setup.report outcomes paths = .ok report) : report.Counted := by
  obtain ⟨states, -, rfl⟩ := map_eq_ok.mp h
  exact Report.counted_foldl_push (Report.counted_empty _ _) states

theorem files_of_report (hreads : setup.Reads files paths) {outcomes : List (Option Issue)}
    {report : Report} (h : setup.report outcomes paths = .ok report) :
    report.files = setup.statesOf outcomes files := by
  rw [Setup.report, states_eq hreads] at h
  obtain rfl := Except.ok.inj h
  exact Report.files_foldl_push _ _

/-- A run posts its drafts, one after the other, and reports what became of them. -/
theorem carryOut_eq (world : CommandLine.World) (tracker : Tracker) (setup : Setup)
    (paths : List Path) :
    CommandLine.carryOut world tracker setup paths =
      ⟨(setup.drafts paths).flatMap fun draft => (tracker.create world.transport draft).requests,
        setup.report ((setup.drafts paths).map fun draft =>
          (tracker.create world.transport draft).result.toOption) paths⟩ := by
  unfold CommandLine.carryOut
  simp only [List.flatMap_map, List.map_map, Function.comp_def]

/-- Two runs over the same documents on the same day, by the same rules. -/
structure Repeats (second first : Setup) : Prop where
  files : second.files = first.files
  conventions : second.conventions = first.conventions
  today : second.today = first.today
  days : second.days = first.days

theorem Repeats.reads {second first : Setup} (h : second.Repeats first)
    (hreads : first.Reads files paths) : second.Reads files paths :=
  ⟨hreads.paths, by rw [h.files]; exact hreads.dates⟩

/-- A file that is due has a reminder, once those that were wanted are open. -/
theorem exists_reminder {first second : Setup} {created : List Issue} {file : Path × Date}
    (hrepeats : second.Repeats first) (hcreate : first.createIssues = true)
    (hreads : first.Reads files paths)
    (htitles : created.map (·.title) = (first.drafts paths).map (·.title))
    (hissues : second.issues.Perm (first.issues ++ created)) (hfile : file ∈ files)
    (hdue : isDue file.2 second.today second.days = true) :
    ∃ issue ∈ second.issues, Mentions issue.title (lookupKey second.conventions file.1) := by
  rw [hrepeats.today, hrepeats.days] at hdue
  rw [hrepeats.conventions]
  by_cases hwants : first.Wants file.1 file.2
  · -- One of the created issues has the title that was asked for.
    have hmem : issueTitle (file.1.fileName?.getD "") ∈ created.map (·.title) := by
      rw [htitles, drafts_of_reads hreads, List.map_map]
      exact List.mem_map.mpr ⟨file, List.mem_filter.mpr ⟨hfile, decide_eq_true hwants⟩, rfl⟩
    obtain ⟨issue, hissue, htitle⟩ := List.mem_map.mp hmem
    refine ⟨issue, hissues.mem_iff.mpr (List.mem_append_right _ hissue), ?_⟩
    rw [htitle]
    exact mentions_issueTitle_lookupKey _ _
  · have hsome : ¬ ∀ issue ∈ first.issues,
        ¬ Mentions issue.title (lookupKey first.conventions file.1) :=
      fun hnone => hwants ⟨hdue, hnone, hcreate⟩
    simp only [not_forall, not_not] at hsome
    obtain ⟨issue, hissue, hmentions⟩ := hsome
    exact ⟨issue, hissues.mem_iff.mpr (List.mem_append_left _ hissue), hmentions⟩

/-- Nothing is sent for files of which each one that is due has a reminder. -/
theorem drafts_eq_nil (hreads : setup.Reads files paths)
    (hreminder : ∀ file ∈ files, isDue file.2 setup.today setup.days = true →
      ∃ issue ∈ setup.issues, Mentions issue.title (lookupKey setup.conventions file.1)) :
    setup.drafts paths = [] := by
  rw [drafts_of_reads hreads, List.map_eq_nil_iff]
  refine List.filter_eq_nil_iff.mpr fun file hfile hwants => ?_
  obtain ⟨hdue, hnone, -⟩ := of_decide_eq_true hwants
  obtain ⟨issue, hissue, hmentions⟩ := hreminder file hfile hdue
  exact hnone issue hissue hmentions

/-- **A run that is done again when its reminders are open sends nothing**, and reports an open
reminder for each file that is due. -/
theorem carryOut_again {first second : Setup} {created : List Issue} {report : Report}
    (hrepeats : second.Repeats first) (hcreate : first.createIssues = true)
    (hfirst : first.report (created.map some) paths = .ok report)
    (htitles : created.map (·.title) = (first.drafts paths).map (·.title))
    (hissues : second.issues.Perm (first.issues ++ created)) :
    second.drafts paths = [] ∧ ∃ again,
      (∀ (world : CommandLine.World) (tracker : Tracker),
        CommandLine.carryOut world tracker second paths = ⟨[], .ok again⟩) ∧
      again.files.map (fun state => (state.path, state.due)) =
        report.files.map (fun state => (state.path, state.due)) ∧
      again.createdCount = 0 ∧
      ∀ state ∈ again.files, state.due = true → state.existingIssue.isSome = true := by
  obtain ⟨files, hreads⟩ := exists_reads_of_report hfirst
  have hreads' := hrepeats.reads hreads
  have hreminder : ∀ file ∈ files, isDue file.2 second.today second.days = true →
      ∃ issue ∈ second.issues, Mentions issue.title (lookupKey second.conventions file.1) :=
    fun file hfile => exists_reminder hrepeats hcreate hreads htitles hissues hfile
  have hdrafts : second.drafts paths = [] := drafts_eq_nil hreads' hreminder
  obtain ⟨again, hagain⟩ := exists_report hreads' []
  have hfiles := files_of_report hreads' hagain
  have hexisting : ∀ state ∈ again.files, state.due = true →
      state.existingIssue.isSome = true := by
    rw [hfiles]
    intro state hstate hdue
    obtain ⟨file, hfile, outcome, rfl⟩ := exists_stateOf hstate
    exact (accounts_stateOf file outcome).existing.mpr ⟨hdue, hreminder file hfile hdue⟩
  refine ⟨hdrafts, again, fun world tracker => ?_, ?_, ?_, hexisting⟩
  · rw [carryOut_eq, hdrafts, List.map_nil, List.flatMap_nil, hagain]
  · rw [hfiles, files_of_report hreads hfirst, map_statesOf, map_statesOf, hrepeats.today,
      hrepeats.days]
  · rw [(counted_of_report hagain).created, List.countP_eq_zero]
    intro state hstate hnew
    have hmem := hstate
    rw [hfiles] at hmem
    obtain ⟨file, -, outcome, rfl⟩ := exists_stateOf hmem
    obtain ⟨hdue, hnone, -⟩ := (accounts_stateOf file outcome).created.mp hnew
    have hsome := hexisting _ hstate hdue
    rw [hnone] at hsome
    cases hsome

end Setup

/-! ### A run over three files -/

def reviewedText : String :=
  "| Template Version | Instance version | Author(s) | Description of changes | Date |\n" ++
    "|-|-|-|-|-|\n|v1||A|First version|2020.01.15|\n"

def reviewedFiles : Files where
  top := .dir [
    ("GDI-SOP0001_access.md", .file (.text reviewedText)),
    ("GDI-SOP0002_transfer.md", .file (.text reviewedText)),
    ("notes.md", .file (.text reviewedText))]
  current := []

def reviewedPaths : List Path :=
  [⟨"GDI-SOP0001_access.md"⟩, ⟨"GDI-SOP0002_transfer.md"⟩, ⟨"notes.md"⟩]

/-- A run while an issue mentions the first of the files. -/
def reviewedSetup : Setup where
  files := reviewedFiles
  conventions := .ofConfig .standard
  charterPath := Config.standard.charterPath
  repository := Config.standard.repository
  today := ⟨2024, 5, 17⟩
  days := 365
  createIssues := true
  issues := [⟨5, "Still open: GDI-SOP0001", "https://example.org/5"⟩]

theorem lastEdit_of_reviewedText {files : Files} {path : Path}
    (h : files.read path = .ok reviewedText) : lastEdit files path = .ok ⟨2020, 1, 15⟩ := by
  have hcells : (Tree.tableWith? Tree.historyHeader (Markdown.parse reviewedText)).map
      History.rows = some [["v1", "", "A", "First version", "2020.01.15"]] := by decide +kernel
  have hdate : Date.parse? "2020.01.15" = some ⟨2020, 1, 15⟩ := by decide +kernel
  obtain ⟨table, htable, hrows⟩ := Option.map_eq_some_iff.mp hcells
  unfold lastEdit
  simp only [h]
  rw [Lint.mostRecentDate_eq htable hrows, hdate, Option.elim_some]

theorem lastEdit_reviewed :
    ∀ path ∈ reviewedPaths, lastEdit reviewedFiles path = .ok ⟨2020, 1, 15⟩ := by
  have hread : ∀ path ∈ reviewedPaths, reviewedFiles.read path = .ok reviewedText := by
    decide +kernel
  exact fun path hpath => lastEdit_of_reviewedText (hread path hpath)

/-- The files with the date that their histories end with. -/
def reviewedDates : List (Path × Date) := reviewedPaths.map fun path => (path, ⟨2020, 1, 15⟩)

theorem reads_reviewed : reviewedSetup.Reads reviewedDates reviewedPaths where
  paths := rfl
  dates := by
    intro file hfile
    obtain ⟨path, hpath, rfl⟩ := List.mem_map.mp hfile
    exact lastEdit_reviewed path hpath

/-- The issues that a run creates for the other two files. -/
def reviewedIssues : List Issue :=
  [⟨9, issueTitle "GDI-SOP0002_transfer.md", "https://example.org/9"⟩,
    ⟨10, issueTitle "notes.md", "https://example.org/10"⟩]

/-- The run once more, when both issues are open; the tracker lists the newer one first. -/
def repeatedSetup : Setup :=
  { reviewedSetup with issues := reviewedIssues.reverse ++ reviewedSetup.issues }

theorem carryOut_again_reviewed : repeatedSetup.drafts reviewedPaths = [] ∧ ∃ again,
    (∀ (world : CommandLine.World) (tracker : Tracker),
      CommandLine.carryOut world tracker repeatedSetup reviewedPaths = ⟨[], .ok again⟩) ∧
    again.createdCount = 0 ∧
    ∀ state ∈ again.files, state.due = true → state.existingIssue.isSome = true := by
  have hrepeats : repeatedSetup.Repeats reviewedSetup := ⟨rfl, rfl, rfl, rfl⟩
  have htitles : reviewedIssues.map (·.title) =
      (reviewedSetup.drafts reviewedPaths).map (·.title) := by
    rw [Setup.drafts_of_reads reads_reviewed]
    decide +kernel
  have hissues : repeatedSetup.issues.Perm (reviewedSetup.issues ++ reviewedIssues) := by
    decide +kernel
  obtain ⟨report, hreport⟩ := Setup.exists_report reads_reviewed (reviewedIssues.map some)
  obtain ⟨hdrafts, again, hagain, -, hcreated, hexisting⟩ :=
    Setup.carryOut_again hrepeats rfl hreport htitles hissues
  exact ⟨hdrafts, again, hagain, hcreated, hexisting⟩

end SopDocs.Review
