import SopDocs.Proofs.Review.Run

/-!
# The reminders of one run do not see each other

A run looks for reminders among the issues that were open when it started. What it creates on
the way is not among them, so as many reminders are sent for a key as files with this key are
due. Two runs, the second over the issues that the first one leaves open, send less: a file is
passed over if the title of an issue that was just created mentions its key, and its own title
always does.
-/

namespace SopDocs.Review

open Text (Mentions)

/-- The files before the first one without a date, with their dates. -/
def dated (files : Files) : List Path → List (Path × Date)
  | [] => []
  | path :: rest =>
    match lastEdit files path with
    | .error _ => []
    | .ok date => (path, date) :: dated files rest

namespace Setup

variable {setup : Setup} {files : List (Path × Date)} {ps qs : List Path}

/-- What the reminders of a file are found by. -/
def key (setup : Setup) (file : Path × Date) : String := lookupKey setup.conventions file.1

/-- No open issue mentions the key. -/
def Unmentioned (setup : Setup) (key : String) : Prop :=
  ∀ issue ∈ setup.issues, ¬ Mentions issue.title key

instance (setup : Setup) (key : String) : Decidable (setup.Unmentioned key) :=
  inferInstanceAs (Decidable (∀ issue ∈ setup.issues, ¬ Mentions issue.title key))

/-! ### What a run sends -/

theorem dated_append (h : setup.Reads files ps) (qs : List Path) :
    dated setup.files (ps ++ qs) = files ++ dated setup.files qs := by
  induction files generalizing ps with
  | nil =>
    rw [← h.paths]
    rfl
  | cons file files ih =>
    rw [h.paths_eq_cons, List.cons_append, dated]
    simp only [h.dates file List.mem_cons_self, ih h.tail, List.cons_append]

/-- Nothing comes after a file without a date. -/
theorem dated_append_of_not_reads (h : ∀ files, ¬ setup.Reads files ps) (qs : List Path) :
    dated setup.files (ps ++ qs) = dated setup.files ps := by
  induction ps with
  | nil => exact absurd ⟨rfl, by simp⟩ (h [])
  | cons path ps ih =>
    rw [List.cons_append, dated, dated]
    cases hdate : lastEdit setup.files path with
    | error failure => rfl
    | ok date =>
      have hrest : ∀ files, ¬ setup.Reads files ps := fun files hreads =>
        h ((path, date) :: files) (hreads.cons hdate)
      simp only [ih hrest]

theorem dated_of_reads (h : setup.Reads files ps) : dated setup.files ps = files := by
  simpa [dated] using dated_append h []

/-- A run sends drafts for the files before the first one without a date. -/
theorem drafts_eq (setup : Setup) (paths : List Path) :
    setup.drafts paths = (setup.wanted (dated setup.files paths)).map fun file =>
      setup.draftFor file.1 file.2 := by
  induction paths with
  | nil => rfl
  | cons path paths ih =>
    rw [drafts, dated]
    cases hdate : lastEdit setup.files path with
    | error failure =>
      rw [examine, hdate]
      rfl
    | ok date =>
      simp only [examine_of_read hdate, ih, setup.draft_examineDated, wanted_cons]
      split <;> rfl

theorem requests_carryOut (setup : Setup) (paths : List Path) (world : CommandLine.World)
    (tracker : Tracker) :
    (CommandLine.carryOut world tracker setup paths).requests =
      (setup.wanted (dated setup.files paths)).flatMap fun file =>
        (tracker.create world.transport (setup.draftFor file.1 file.2)).requests := by
  rw [carryOut_eq, drafts_eq, List.flatMap_map]

/-- Of the files with one key either all that are due want a reminder or none does. -/
theorem countP_wanted (setup : Setup) (files : List (Path × Date)) (k : String) :
    ((setup.wanted files).countP fun file => setup.key file = k) =
      if setup.createIssues = true ∧ setup.Unmentioned k then
        files.countP fun file => isDue file.2 setup.today setup.days ∧ setup.key file = k
      else 0 := by
  unfold wanted
  rw [List.countP_filter]
  split
  · next hfree =>
    refine List.countP_congr fun file _ => ?_
    simp only [Bool.and_eq_true, decide_eq_true_eq]
    constructor
    · rintro ⟨hkey, hdue, -⟩
      exact ⟨hdue, hkey⟩
    · rintro ⟨hdue, rfl⟩
      exact ⟨rfl, hdue, hfree.2, hfree.1⟩
  · next hfree =>
    rw [List.countP_eq_zero]
    intro file _ hwanted
    simp only [Bool.and_eq_true, decide_eq_true_eq] at hwanted
    obtain ⟨rfl, -, hunmentioned, hcreate⟩ := hwanted
    exact hfree ⟨hcreate, hunmentioned⟩

/-- The reminders of a run are for different keys exactly if no two files that are due share a
key that no open issue mentions. -/
theorem nodup_keys_wanted_iff (setup : Setup) (files : List (Path × Date)) :
    ((setup.wanted files).map setup.key).Nodup ↔ (setup.createIssues = true → ∀ k,
      setup.Unmentioned k →
        (files.countP fun file => isDue file.2 setup.today setup.days ∧ setup.key file = k) ≤ 1) := by
  have hcount : ∀ k, ((setup.wanted files).map setup.key).count k =
      (setup.wanted files).countP fun file => setup.key file = k := by
    intro k
    rw [List.count_eq_countP, List.countP_map]
    rfl
  rw [List.nodup_iff_count_le_one]
  simp only [hcount, countP_wanted]
  constructor
  · intro h hcreate k hunmentioned
    have hk := h k
    rwa [if_pos ⟨hcreate, hunmentioned⟩] at hk
  · intro h k
    split
    · next hfree => exact h hfree.1 k hfree.2
    · exact Nat.zero_le 1

/-! ### One run and two runs -/

/-- The issues that the drafts of a run became, with the titles that were asked for. -/
def Became (drafts : List Draft) (outcomes : List (Option Issue)) : Prop :=
  List.Forall₂ (fun draft outcome => ∀ issue ∈ outcome, issue.title = draft.title) drafts outcomes

/-- The run over the issues that are open once some have been created. -/
structure Updates (second first : Setup) (created : List Issue) : Prop where
  same : second = { first with issues := second.issues }
  issues : second.issues.Perm (first.issues ++ created)

variable {first second : Setup} {created : List Issue}

/-- The second run passes over the files whose keys are mentioned by what was created. -/
theorem Updates.wants_iff (h : second.Updates first created) {path : Path} {date : Date} :
    second.Wants path date ↔ first.Wants path date ∧
      ∀ issue ∈ created, ¬ Mentions issue.title (lookupKey first.conventions path) := by
  rw [h.same]
  unfold Wants
  simp only [h.issues.mem_iff, List.forall_mem_append]
  tauto

theorem Updates.wanted_eq (h : second.Updates first created) (files : List (Path × Date)) :
    second.wanted files = (first.wanted files).filter fun file =>
      ∀ issue ∈ created, ¬ Mentions issue.title (first.key file) := by
  unfold wanted
  rw [List.filter_filter]
  refine List.filter_congr fun file _ => ?_
  rw [Bool.eq_iff_iff, Bool.and_eq_true, decide_eq_true_iff, decide_eq_true_iff,
    decide_eq_true_iff, h.wants_iff]
  exact and_comm

theorem Updates.drafts_eq (h : second.Updates first created) (paths : List Path) :
    second.drafts paths = (second.wanted (dated first.files paths)).map fun file =>
      first.draftFor file.1 file.2 := by
  rw [Setup.drafts_eq, h.same]
  rfl

/-- A draft that became an issue was sent for a file whose key the title mentions. -/
theorem mentions_of_became (hreads : first.Reads files ps) {outcomes : List (Option Issue)}
    (htitles : Became (first.drafts ps) outcomes) {i : Nat} {file : Path × Date} {issue : Issue}
    (hfile : (first.wanted files)[i]? = some file) (hissue : outcomes[i]? = some (some issue)) :
    Mentions issue.title (first.key file) := by
  have hdraft : (first.drafts ps)[i]? = some (first.draftFor file.1 file.2) := by
    rw [drafts_of_reads hreads, List.getElem?_map, hfile, Option.map_some]
  obtain ⟨hi, hdraft⟩ := List.getElem?_eq_some_iff.mp hdraft
  obtain ⟨hi', hissue⟩ := List.getElem?_eq_some_iff.mp hissue
  have htitle := List.forall₂_iff_get.mp htitles
  have htitle := htitle.2 i hi hi' issue (by simpa using hissue)
  rw [List.get_eq_getElem, hdraft] at htitle
  rw [htitle]
  exact mentions_issueTitle_lookupKey _ _

theorem drafts_append_iff (hreads : first.Reads files ps) (h : second.Updates first created)
    (qs : List Path) :
    first.drafts (ps ++ qs) = first.drafts ps ++ second.drafts qs ↔
      ∀ file ∈ first.wanted (dated first.files qs), ∀ issue ∈ created,
        ¬ Mentions issue.title (first.key file) := by
  have hone : first.drafts (ps ++ qs) = first.drafts ps ++
      (first.wanted (dated first.files qs)).map fun file => first.draftFor file.1 file.2 := by
    rw [Setup.drafts_eq, dated_append hreads, drafts_of_reads hreads, wanted, List.filter_append,
      List.map_append]
    rfl
  rw [hone, List.append_cancel_left_eq, h.drafts_eq, h.wanted_eq]
  constructor
  · intro heq file hfile
    -- Nothing is left out of the second run, or it would send less.
    have hlength := congrArg List.length heq
    rw [List.length_map, List.length_map, eq_comm, List.length_filter_eq_length_iff] at hlength
    exact of_decide_eq_true (hlength file hfile)
  · intro hnone
    rw [List.filter_eq_self.mpr fun file hfile => decide_eq_true (hnone file hfile)]

/-- **A run sends a reminder for every file that is due and has no reminder of before**, so there
are as many of them for a key as files with this key are due, if no open issue mentions it. Two
runs, one after the other, send the same as one run over all files exactly if no file of the
second has its key in the title of an issue that the first one created; a file that shares its
key with one that just got its issue is passed over by the second run. A file without a date
ends the run it is in. -/
theorem reminders_in_turn (first : Setup) :
    (∀ paths : List Path,
      (∀ (world : CommandLine.World) (tracker : Tracker),
        (CommandLine.carryOut world tracker first paths).requests =
          (first.wanted (dated first.files paths)).flatMap fun file =>
            (tracker.create world.transport (first.draftFor file.1 file.2)).requests) ∧
      (∀ k, ((first.wanted (dated first.files paths)).countP fun file => first.key file = k) =
        if first.createIssues = true ∧ ∀ issue ∈ first.issues, ¬ Mentions issue.title k then
          (dated first.files paths).countP fun file =>
            isDue file.2 first.today first.days ∧ first.key file = k
        else 0) ∧
      (((first.wanted (dated first.files paths)).map first.key).Nodup ↔
        (first.createIssues = true → ∀ k, (∀ issue ∈ first.issues, ¬ Mentions issue.title k) →
          ((dated first.files paths).countP fun file =>
            isDue file.2 first.today first.days ∧ first.key file = k) ≤ 1))) ∧
    (∀ (files : List (Path × Date)) (ps qs : List Path) (outcomes : List (Option Issue))
      (second : Setup), first.Reads files ps → Became (first.drafts ps) outcomes →
        second.Updates first outcomes.reduceOption →
        (first.drafts (ps ++ qs) = first.drafts ps ++ second.drafts qs ↔
          ∀ file ∈ first.wanted (dated first.files qs), ∀ issue ∈ outcomes.reduceOption,
            ¬ Mentions issue.title (first.key file)) ∧
        ∀ (i : Nat) (file : Path × Date) (issue : Issue), (first.wanted files)[i]? = some file →
          outcomes[i]? = some (some issue) → ∀ other, first.key other = first.key file →
            other ∉ second.wanted (dated first.files qs)) ∧
    ∀ ps qs : List Path, (∀ files, ¬ first.Reads files ps) →
      first.drafts (ps ++ qs) = first.drafts ps := by
  refine ⟨fun paths => ⟨requests_carryOut first paths, countP_wanted first _,
    nodup_keys_wanted_iff first _⟩,
    fun files ps qs outcomes second hreads htitles hupdates =>
      ⟨drafts_append_iff hreads hupdates qs, ?_⟩,
    fun ps qs hreads => by
      rw [Setup.drafts_eq, Setup.drafts_eq, dated_append_of_not_reads hreads]⟩
  intro i file issue hfile hissue other hkey hother
  rw [hupdates.wanted_eq, List.mem_filter, decide_eq_true_eq] at hother
  have hcreated : issue ∈ outcomes.reduceOption :=
    List.reduceOption_mem_iff.mpr (List.mem_of_getElem? hissue)
  refine hother.2 issue hcreated ?_
  rw [hkey]
  exact mentions_of_became hreads htitles hfile hissue

end Setup

/-- Two files with one identifier. -/
def sharedFiles : Files where
  top := .dir [
    ("GDI-SOP0001_access.md", .file (.text reviewedText)),
    ("GDI-SOP0001_transfer.md", .file (.text reviewedText))]
  current := []

/-- A run over files with one identifier while no issue is open. -/
def sharedSetup : Setup := { reviewedSetup with files := sharedFiles, issues := [] }

def sharedDates : List (Path × Date) :=
  [(⟨"GDI-SOP0001_access.md"⟩, ⟨2020, 1, 15⟩), (⟨"GDI-SOP0001_transfer.md"⟩, ⟨2020, 1, 15⟩)]

theorem reads_shared {files : List (Path × Date)} (h : files ⊆ sharedDates) :
    sharedSetup.Reads files (files.map (·.1)) where
  paths := rfl
  dates := by
    have hread : ∀ file ∈ sharedDates, file.2 = ⟨2020, 1, 15⟩ ∧
        sharedFiles.read file.1 = .ok reviewedText := by decide +kernel
    intro file hfile
    obtain ⟨hdate, htext⟩ := hread file (h hfile)
    rw [hdate]
    exact lastEdit_of_reviewedText htext

/-- Both files get a reminder in one run, for one key; in two runs the second file gets none. -/
theorem reminders_doubled :
    sharedSetup.drafts (sharedDates.map (·.1)) =
        sharedDates.map (fun file => sharedSetup.draftFor file.1 file.2) ∧
      sharedDates.map sharedSetup.key = ["GDI-SOP0001", "GDI-SOP0001"] ∧
      ¬ ((sharedSetup.wanted (dated sharedSetup.files (sharedDates.map (·.1)))).map
        sharedSetup.key).Nodup ∧
      ∀ (second : Setup) (issue : Issue), issue.title = issueTitle "GDI-SOP0001_access.md" →
        second.Updates sharedSetup [issue] →
          second.drafts [⟨"GDI-SOP0001_transfer.md"⟩] = [] := by
  have hwanted : sharedSetup.wanted sharedDates = sharedDates := by decide +kernel
  have hkeys : sharedDates.map sharedSetup.key = ["GDI-SOP0001", "GDI-SOP0001"] := by
    decide +kernel
  have hreads : sharedSetup.Reads sharedDates (sharedDates.map (·.1)) :=
    reads_shared (List.Subset.refl _)
  have hdated : dated sharedSetup.files (sharedDates.map (·.1)) = sharedDates :=
    Setup.dated_of_reads hreads
  refine ⟨?_, hkeys, ?_, fun second issue htitle hupdates => ?_⟩
  · rw [Setup.drafts_of_reads hreads, hwanted]
  · rw [hdated, hwanted, hkeys]
    exact fun hnodup => (List.nodup_cons.mp hnodup).1 List.mem_cons_self
  · have hsecond : dated sharedSetup.files [⟨"GDI-SOP0001_transfer.md"⟩] = sharedDates.tail :=
      Setup.dated_of_reads (reads_shared (List.tail_subset _))
    have hmentions : Mentions (issueTitle "GDI-SOP0001_access.md") "GDI-SOP0001" := by decide +kernel
    rw [hupdates.drafts_eq, List.map_eq_nil_iff, hupdates.wanted_eq]
    refine List.filter_eq_nil_iff.mpr fun file hfile hnone => ?_
    have hkey : ∀ file ∈ sharedDates, sharedSetup.key file = "GDI-SOP0001" := by decide +kernel
    have hfile : file ∈ sharedDates.tail := hsecond ▸ (List.mem_filter.mp hfile).1
    have hfree := of_decide_eq_true hnone issue List.mem_cons_self
    rw [hkey file (List.mem_of_mem_tail hfile), htitle] at hfree
    exact hfree hmentions

/-- The run once more when the second of the reviewed files has its issue. -/
def continuedSetup : Setup :=
  { reviewedSetup with issues := reviewedIssues.take 1 ++ reviewedSetup.issues }

/-- The last of the reviewed files gets the same reminder in a run of its own. -/
theorem reminders_in_turn_reviewed :
    reviewedSetup.Reads (reviewedDates.take 2) (reviewedPaths.take 2) ∧
    Setup.Became (reviewedSetup.drafts (reviewedPaths.take 2)) [reviewedIssues.head?] ∧
    continuedSetup.Updates reviewedSetup (reviewedIssues.take 1) ∧
    reviewedSetup.drafts reviewedPaths =
      reviewedSetup.drafts (reviewedPaths.take 2) ++
        continuedSetup.drafts (reviewedPaths.drop 2) := by
  have hreads : reviewedSetup.Reads (reviewedDates.take 2) (reviewedPaths.take 2) :=
    ⟨rfl, fun file hfile => reads_reviewed.dates file (List.mem_of_mem_take hfile)⟩
  have hrest : reviewedSetup.Reads (reviewedDates.drop 2) (reviewedPaths.drop 2) :=
    ⟨rfl, fun file hfile => reads_reviewed.dates file (List.mem_of_mem_drop hfile)⟩
  have hwanted : reviewedSetup.wanted (reviewedDates.take 2) =
      [(⟨"GDI-SOP0002_transfer.md"⟩, ⟨2020, 1, 15⟩)] := by decide +kernel
  have hbecame : Setup.Became (reviewedSetup.drafts (reviewedPaths.take 2))
      [reviewedIssues.head?] := by
    rw [Setup.drafts_of_reads hreads, hwanted]
    refine .cons (fun issue hissue => ?_) .nil
    obtain rfl := Option.some.inj hissue
    decide +kernel
  have hupdates : continuedSetup.Updates reviewedSetup (reviewedIssues.take 1) :=
    ⟨rfl, by decide +kernel⟩
  refine ⟨hreads, hbecame, hupdates, ?_⟩
  have hnone : ∀ file ∈ reviewedSetup.wanted (reviewedDates.drop 2),
      ∀ issue ∈ reviewedIssues.take 1, ¬ Mentions issue.title (reviewedSetup.key file) := by
    decide +kernel
  refine (((Setup.reminders_in_turn reviewedSetup).2.1 _ _ (reviewedPaths.drop 2) _ _
    hreads hbecame hupdates).1).mpr ?_
  rw [show dated reviewedSetup.files (reviewedPaths.drop 2) = reviewedDates.drop 2 from
    Setup.dated_of_reads hrest]
  exact hnone

end SopDocs.Review
