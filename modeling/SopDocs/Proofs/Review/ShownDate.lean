import SopDocs.Index.Build
import SopDocs.Proofs.Review.NewestDate
import SopDocs.Review.Run

/-!
# The index and a review show the same date

Three readers look at the date cell of the newest row. The index drops marks of formatting and
shows what is left, a review reads the whole cell as a day, and the rule asks how the cell
starts. The written form of a day has no marks, so where a review reads a day, the index shows
just the text that the review reports, and the rule has nothing to say.
-/

namespace SopDocs

namespace History

theorem exists_newest_of_newestDate {root : Tree.Node} {label cell : String}
    (h : newestDate root label = .ok cell) :
    ∃ table template instanceCell author description rest,
      Tree.tableWith? Tree.historyHeader root = some table ∧
      rows table = [template, instanceCell, author, description, cell] :: rest := by
  unfold newestDate at h
  split at h
  · cases h
  · next table htable =>
    split at h
    · cases h
    · next template instanceCell author description date rest hrows =>
      cases h
      exact ⟨table, template, instanceCell, author, description, rest, htable, hrows⟩
    · cases h

/-- A day is read exactly if the newest date cell is its written form. -/
theorem mostRecentDate_eq_ok_iff {root : Tree.Node} {label : String} {d : Date} :
    mostRecentDate root label = .ok d ↔ newestDate root label = .ok d.text ∧ d.Writable := by
  unfold mostRecentDate
  cases newestDate root label with
  | error failure => simp
  | ok cell =>
    simp only [Except.ok.injEq]
    cases hparse : Date.parse? cell with
    | none =>
      refine ⟨nofun, ?_⟩
      rintro ⟨rfl, hwritable⟩
      cases hparse.symm.trans (Date.parse?_eq_some_iff.mpr ⟨hwritable, rfl⟩)
    | some e =>
      obtain ⟨hwritable, rfl⟩ := Date.parse?_eq_some_iff.mp hparse
      constructor
      · intro h
        cases h
        exact ⟨rfl, hwritable⟩
      · rintro ⟨htext, hd⟩
        rw [Date.parse?_eq_some_iff.mpr ⟨hd, htext⟩] at hparse
        rw [Option.some.inj hparse]

/-- The written form of a day is digits and dots. -/
theorem isDigit_or_eq_dot_of_mem_text {d : Date} (h : d.Writable) {c : Char}
    (hc : c ∈ d.text.toList) : c.isDigit = true ∨ c = '.' := by
  obtain ⟨htext, -, -, -, hdigits⟩ := Date.placed_text h
  obtain ⟨hdigits, hday⟩ := List.forall_mem_append.mp hdigits
  obtain ⟨hyear, hmonth⟩ := List.forall_mem_append.mp hdigits
  rw [htext] at hc
  simp only [List.mem_append, List.mem_cons, List.not_mem_nil, or_false] at hc
  rcases hc with hc | rfl | hc | rfl | hc
  · exact Or.inl (hyear c hc)
  · exact Or.inr rfl
  · exact Or.inl (hmonth c hc)
  · exact Or.inr rfl
  · exact Or.inl (hday c hc)

/-- So it has no marks of formatting. -/
theorem stripFormatting_text {d : Date} (h : d.Writable) : stripFormatting d.text = d.text := by
  have hmarks : ∀ c ∈ formattingMarks, c.isDigit = false ∧ c ≠ '.' := by
    simp [formattingMarks]
  have hkept : ∀ c ∈ d.text.toList, (!formattingMarks.contains c) = true := by
    intro c hc
    rw [Bool.not_eq_true', ← Bool.not_eq_true, List.contains_iff_mem]
    intro hmark
    obtain ⟨hdigit, hdot⟩ := hmarks c hmark
    rcases isDigit_or_eq_dot_of_mem_text h hc with hc | hc
    · rw [hc] at hdigit
      cases hdigit
    · exact hdot hc
  unfold stripFormatting
  rw [List.filter_eq_self.mpr hkept, String.ofList_toList]

theorem lastModified_of_mostRecentDate {root : Tree.Node} {label : String} {d : Date}
    (h : mostRecentDate root label = .ok d) : lastModified root label = .ok d.text := by
  obtain ⟨hcell, hwritable⟩ := mostRecentDate_eq_ok_iff.mp h
  rw [lastModified, hcell, Except.map, stripFormatting_text hwritable]

end History

namespace Date

/-- The written form of a day starts like a date. -/
theorem startsLikeDate_text {d : Date} (h : d.Writable) : startsLikeDate d.text = true := by
  obtain ⟨htext, hyear, hmonth, hday, hdigits⟩ := placed_text h
  exact (startsLikeDate_iff d.text).mpr ⟨_, _, _, _, htext, hyear, hmonth, hday,
    fun c hc => Text.isDecimalDigit_of_isDigit (hdigits c hc)⟩

end Date

namespace Lint

/-- The rule objects to the date of a row exactly if the cell does not start like a date. -/
theorem historyDate_mem_iff {above : Option RowVersions}
    {template instanceCell author description date cell : String} {row : Tree.Row} :
    Problem.historyDate cell row ∈
        historyRowProblems above [template, instanceCell, author, description, date] ↔
      Date.startsLikeDate date = false ∧ cell = date ∧
        row = [template, instanceCell, author, description, date] := by
  have horder : ∀ above current, Problem.historyDate cell row ∉ orderProblems above current
      [template, instanceCell, author, description, date] := by
    intro above current
    unfold orderProblems
    split <;> simp
  have hversions : Problem.historyDate cell row ∉ versionProblems above template instanceCell
      [template, instanceCell, author, description, date] := by
    unfold versionProblems
    cases above with
    | none => simp
    | some above => cases rowVersions? template instanceCell <;> simp [horder]
  simp only [historyRowProblems, List.mem_append, hversions, false_or]
  simp

end Lint

namespace Index

theorem lastModified_of_entryFor {path : Path} {root : Tree.Node} {entry : Entry}
    (h : entryFor path root = .ok entry) :
    History.lastModified root path.text = .ok entry.lastModified := by
  unfold entryFor at h
  cases hrecord : metadataOf path.text root with
  | error failure => rw [hrecord] at h; cases h
  | ok record =>
    cases hdate : History.lastModified root path.text with
    | error failure => rw [hrecord, hdate] at h; cases h
    | ok date =>
      rw [hrecord, hdate] at h
      obtain rfl := Except.ok.inj h
      rfl

end Index

namespace Review

theorem exists_source_of_examine {setup : Setup} {path : Path} {examination : Examination}
    (h : setup.examine path = .ok examination) :
    ∃ source, setup.files.read path = .ok source ∧
      History.mostRecentDate (Markdown.parse source) path.text = .ok examination.lastEdit := by
  unfold Setup.examine lastEdit at h
  cases hread : setup.files.read path with
  | error fault => rw [hread] at h; cases h
  | ok source =>
    rw [hread] at h
    refine ⟨source, rfl, ?_⟩
    cases hdate : History.mostRecentDate (Markdown.parse source) path.text with
    | error failure => simp only [hdate] at h; cases h
    | ok date =>
      simp only [hdate] at h
      obtain rfl := Except.ok.inj h
      rfl

/-- **The day that a review reports is the text that the index shows**, and the rule does not
object to it. A text is read as a day exactly if it is ASCII digits in the places of a date that
name a day of the calendar; writing this day gives the text back. -/
theorem shown_dates_agree :
    (∀ (root : Tree.Node) (label : String) (d : Date),
      History.mostRecentDate root label = .ok d →
        History.lastModified root label = .ok d.text ∧
        ∃ table row rest, Tree.tableWith? Tree.historyHeader root = some table ∧
          History.rows table = row :: rest ∧ row[4]? = some d.text ∧
          (∀ ctx : Lint.Context, ctx.root = root → Lint.documentHistory ctx =
            Lint.historyRowProblems none row ++
              Lint.historyProblems (Lint.versionsBelow none row) rest) ∧
          ∀ cell, .historyDate cell row ∉ Lint.historyRowProblems none row) ∧
    (∀ (setup : Setup) (path : Path) (examination : Examination) (created : Option Issue)
      (entry : Index.Entry), setup.examine path = .ok examination →
        Index.readEntry setup.files path = .ok entry →
          entry.lastModified = (examination.state created).lastEdit) ∧
    (∀ (s : String) (d : Date), Date.parse? s = some d ↔
      ∃ year month day, Date.Placed Char.isDigit s.toList year month day [] ∧
        d = ⟨Text.digitsValue year, Text.digitsValue month, Text.digitsValue day⟩ ∧
        Date.OnCalendar d.year d.month d.day) ∧
    (∀ (s : String) (d : Date), Date.parse? s = some d → d.text = s) := by
  refine ⟨fun root label d h => ?_, fun setup path examination created entry hexamine hentry => ?_,
    fun s d => Date.parse?_eq_some_iff_placed, fun s d h => (Date.parse?_eq_some_iff.mp h).2.symm⟩
  · obtain ⟨hcell, hwritable⟩ := History.mostRecentDate_eq_ok_iff.mp h
    obtain ⟨table, _, _, _, _, rest, htable, hrows⟩ := History.exists_newest_of_newestDate hcell
    refine ⟨History.lastModified_of_mostRecentDate h, table, _, rest, htable, hrows, rfl,
      fun ctx hroot => ?_, fun cell hmem => ?_⟩
    · unfold Lint.documentHistory
      rw [hroot, htable]
      simp only [hrows]
      rfl
    · obtain ⟨hobjection, -⟩ := Lint.historyDate_mem_iff.mp hmem
      rw [Date.startsLikeDate_text hwritable] at hobjection
      cases hobjection
  · obtain ⟨source, hread, hdate⟩ := exists_source_of_examine hexamine
    unfold Index.readEntry at hentry
    simp only [hread] at hentry
    have hshown := Index.lastModified_of_entryFor hentry
    rw [History.lastModified_of_mostRecentDate hdate] at hshown
    exact (Except.ok.inj hshown).symm

/-- A leap day between backquotes, which are no part of the cell. -/
theorem shown_dates_agree_leapDay :
    History.mostRecentDate (Lint.datedDocument "\x602024.02.29\x60").root "review.md" =
      .ok ⟨2024, 2, 29⟩ ∧
    History.lastModified (Lint.datedDocument "\x602024.02.29\x60").root "review.md" =
      .ok "2024.02.29" ∧
    Date.text ⟨2024, 2, 29⟩ = "2024.02.29" := by
  obtain ⟨hagree, -, hparse, hwritten⟩ := shown_dates_agree
  have hday : Date.parse? "2024.02.29" = some ⟨2024, 2, 29⟩ :=
    (hparse _ _).mpr ⟨['2', '0', '2', '4'], ['0', '2'], ['2', '9'],
      ⟨rfl, rfl, rfl, rfl, by simp⟩, by decide, ⟨by decide, by decide, by decide, by decide⟩⟩
  have hdate : History.mostRecentDate (Lint.datedDocument "\x602024.02.29\x60").root "review.md" =
      .ok ⟨2024, 2, 29⟩ := by decide +kernel
  have htext := hwritten _ _ hday
  exact ⟨hdate, htext ▸ (hagree _ _ _ hdate).1, htext⟩

end Review

end SopDocs
