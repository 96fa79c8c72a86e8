import Mathlib.Data.List.Basic

/-!
# Tables as comma-separated values

The grammar of lines of fields, apart from any writer, and a reader that goes through a text
character by character. Any character may stand in a field, and a line ends with a line feed, a
carriage return or both. The grammar leaves one thing open: a line with one field may be empty, so
it can also be no line. Where every line has two fields or more the reader finds the one table that
a text holds.
-/

namespace SopDocs.Csv

/-! ### The grammar -/

/-- Whether a character stands for itself where there are no quotes. -/
def isTextData (c : Char) : Bool := c != ',' && c != '"' && c != '\n' && c != '\r'

/-- The ways to write characters between quotes: a quote twice, any other one as it is. -/
inductive QuotedText : List Char → List Char → Prop where
  | nil : QuotedText [] []
  | quote {s v : List Char} (h : QuotedText s v) : QuotedText ('"' :: '"' :: s) ('"' :: v)
  | plain {c : Char} {s v : List Char} (hc : c ≠ '"') (h : QuotedText s v) :
      QuotedText (c :: s) (c :: v)

/-- The ways to write a field. -/
inductive WrittenField : List Char → List Char → Prop where
  | bare {s : List Char} (h : ∀ c ∈ s, isTextData c = true) : WrittenField s s
  | quoted {s v : List Char} (h : QuotedText s v) : WrittenField ('"' :: (s ++ ['"'])) v

/-- The ways to write a record: its fields with commas between. -/
inductive WrittenRecord : List Char → List String → Prop where
  | last {s : List Char} {v : String} (h : WrittenField s v.toList) : WrittenRecord s [v]
  | more {s t : List Char} {v : String} {record : List String} (h : WrittenField s v.toList)
      (hrest : WrittenRecord t record) : WrittenRecord (s ++ ',' :: t) (v :: record)

inductive LineEnd : List Char → Prop where
  | feed : LineEnd ['\n']
  | carriage : LineEnd ['\r']
  | both : LineEnd ['\r', '\n']

/-- The ways to write records on lines of their own. The last line may do without its end. -/
inductive WrittenRecords : List Char → List (List String) → Prop where
  | none : WrittenRecords [] []
  | last {s : List Char} {record : List String} (h : WrittenRecord s record) :
      WrittenRecords s [record]
  | more {s e t : List Char} {record : List String} {records : List (List String)}
      (h : WrittenRecord s record) (hend : LineEnd e) (hrest : WrittenRecords t records) :
      WrittenRecords (s ++ (e ++ t)) (record :: records)

/-- Whether a text holds a table: its lines are the records, and each has as many fields as any
other. -/
structure Holds (text : String) (table : List (List String)) : Prop where
  written : WrittenRecords text.toList table
  even : ∀ record ∈ table, ∀ other ∈ table, record.length = other.length

/-! ### The reader -/

/-- Where a reader stands in a line. -/
inductive Place where
  /-- In front of a line; a line feed after a carriage return belongs to the end of the last one. -/
  | lineStart (afterReturn : Bool)
  | fieldStart
  | bare
  | quoted
  /-- Behind a quote that closes the field, unless another one follows. -/
  | closed
deriving DecidableEq

/-- What has been read: the field so far, the fields in front of it and the lines above. -/
structure Reading where
  place : Place
  field : List Char
  record : List String
  table : List (List String)

namespace Reading

def start : Reading := ⟨.lineStart false, [], [], []⟩

def take (place : Place) (c : Char) (σ : Reading) : Reading :=
  { σ with place, field := σ.field ++ [c] }

/-- The fields of the line, with the one that is being read. -/
def fields (σ : Reading) : List String := σ.record ++ [String.ofList σ.field]

def endField (σ : Reading) : Reading := ⟨.fieldStart, [], σ.fields, σ.table⟩

def endLine (afterReturn : Bool) (σ : Reading) : Reading :=
  ⟨.lineStart afterReturn, [], [], σ.table ++ [σ.fields]⟩

/-- Reads what ends a field. -/
def stop (σ : Reading) (c : Char) : Option Reading :=
  if c = ',' then some σ.endField
  else if c = '\n' then some (σ.endLine false)
  else if c = '\r' then some (σ.endLine true)
  else none

/-- Reads a character of a field without quotes, or what ends it. -/
def stepBare (σ : Reading) (c : Char) : Option Reading :=
  if isTextData c then some (σ.take .bare c) else σ.stop c

/-- Reads the first character of a field. -/
def stepOpen (σ : Reading) (c : Char) : Option Reading :=
  if c = '"' then some { σ with place := .quoted } else σ.stepBare c

/-- Reads a character. -/
def step (σ : Reading) (c : Char) : Option Reading :=
  match σ.place with
  | .lineStart afterReturn =>
    if afterReturn && c == '\n' then some { σ with place := .lineStart false } else σ.stepOpen c
  | .fieldStart => σ.stepOpen c
  | .bare => σ.stepBare c
  | .quoted => if c = '"' then some { σ with place := .closed } else some (σ.take .quoted c)
  | .closed => if c = '"' then some (σ.take .quoted c) else σ.stop c

/-- The lines that have been read at the end of a text; quotes must have been closed. -/
def finish (σ : Reading) : Option (List (List String)) :=
  match σ.place with
  | .lineStart _ => some σ.table
  | .quoted => none
  | _ => some (σ.table ++ [σ.fields])

end Reading

/-- Reads a table. -/
def read? (text : String) : Option (List (List String)) :=
  (text.toList.foldlM Reading.step .start).bind Reading.finish

example : read? "a,\"b\"\"\n\"\r\n,c" = some [["a", "b\"\n"], ["", "c"]] := by decide

example : read? "a\"b" = none := by decide

namespace Reading

variable {σ τ : Reading} {c : Char} {s v : List Char} {record : List String}

/-! ### Reading a field -/

/-- Whether a reader stands in front of a field. -/
structure IsOpen (σ : Reading) : Prop where
  place : σ.place = .fieldStart ∨ ∃ afterReturn, σ.place = .lineStart afterReturn
  field : σ.field = []

theorem isOpen_endField (σ : Reading) : σ.endField.IsOpen := ⟨.inl rfl, rfl⟩

/-- In front of a field the first character is read, unless it still belongs to a line end. -/
theorem IsOpen.step_eq (h : σ.IsOpen) (hc : σ.place = .lineStart true → c ≠ '\n') :
    σ.step c = σ.stepOpen c := by
  obtain hplace | ⟨afterReturn, hplace⟩ := h.place
  · simp only [step, hplace]
  · cases afterReturn with
    | false => simp only [step, hplace, Bool.false_and, Bool.false_eq_true, if_false]
    | true => simp [step, hplace, hc hplace]

theorem ne_quote_of_isTextData (h : isTextData c = true) : c ≠ '"' := by
  rintro rfl
  cases h

theorem ne_feed_of_isTextData (h : isTextData c = true) : c ≠ '\n' := by
  rintro rfl
  cases h

theorem run_bare (hplace : σ.place = .bare) (hs : ∀ c ∈ s, isTextData c = true) :
    s.foldlM step σ = some { σ with field := σ.field ++ s } := by
  induction s generalizing σ with
  | nil => simp
  | cons c s ih =>
    obtain ⟨hc, hs⟩ := List.forall_mem_cons.mp hs
    have hstep : σ.step c = some (σ.take .bare c) := by
      simp only [step, hplace, stepBare, hc, if_true]
    rw [List.foldlM_cons, hstep]
    refine (ih rfl hs).trans ?_
    simp [take, hplace]

theorem run_quotedText (hplace : σ.place = .quoted) (h : QuotedText s v) :
    s.foldlM step σ = some { σ with field := σ.field ++ v } := by
  induction h generalizing σ with
  | nil => simp
  | @quote s v _ ih =>
    have hclose : σ.step '"' = some { σ with place := .closed } := by
      simp only [step, hplace, if_true]
    have hquote : step { σ with place := .closed } '"' = some (σ.take .quoted '"') := by
      simp only [step, if_true, take]
    rw [List.foldlM_cons, hclose]
    change List.foldlM step { σ with place := .closed } ('"' :: s) = _
    rw [List.foldlM_cons, hquote]
    refine (ih rfl).trans ?_
    simp [take, hplace]
  | @plain c s v hc _ ih =>
    have hstep : σ.step c = some (σ.take .quoted c) := by
      simp only [step, hplace, if_neg hc]
    rw [List.foldlM_cons, hstep]
    refine (ih rfl).trans ?_
    simp [take, hplace]

/-- A reader takes a field to its end. An empty field leaves it where it was. -/
theorem run_field (hopen : σ.IsOpen) (h : WrittenField s v) :
    ∃ place, s.foldlM step σ = some { σ with place, field := v } ∧
      (s = [] ∧ place = σ.place ∨ place = .bare ∨ place = .closed) := by
  cases h with
  | bare hs =>
    cases s with
    | nil =>
      refine ⟨σ.place, ?_, .inl ⟨rfl, rfl⟩⟩
      rw [List.foldlM_nil, ← hopen.field]
      rfl
    | cons c s =>
      obtain ⟨hc, hs⟩ := List.forall_mem_cons.mp hs
      have hstep : σ.step c = some (σ.take .bare c) := by
        rw [hopen.step_eq fun _ => ne_feed_of_isTextData hc]
        simp only [stepOpen, stepBare, if_neg (ne_quote_of_isTextData hc), hc, if_true]
      refine ⟨.bare, ?_, .inr (.inl rfl)⟩
      rw [List.foldlM_cons, hstep]
      refine (run_bare rfl hs).trans ?_
      simp [take, hopen.field]
  | @quoted s v hs =>
    have hstep : σ.step '"' = some { σ with place := .quoted } := by
      rw [hopen.step_eq fun _ => by decide]
      rfl
    have hrun : s.foldlM step { σ with place := .quoted } =
        some { σ with place := .quoted, field := v } := by
      rw [run_quotedText rfl hs]
      simp [hopen.field]
    refine ⟨.closed, ?_, .inr (.inr rfl)⟩
    rw [List.foldlM_cons, hstep]
    change List.foldlM step { σ with place := .quoted } (s ++ ['"']) = _
    rw [List.foldlM_append, hrun]
    rfl

/-! ### Reading a record -/

/-- Whether what comes next in a text may end the field. -/
def AtEnd (σ : Reading) : Prop := ∀ c ∈ [',', '\n', '\r'], σ.step c = σ.stop c

theorem stepOpen_eq_stop (σ : Reading) (hc : c ∈ [',', '\n', '\r']) : σ.stepOpen c = σ.stop c := by
  simp only [List.mem_cons, List.not_mem_nil, or_false] at hc
  rcases hc with rfl | rfl | rfl <;> rfl

theorem IsOpen.atEnd (h : σ.IsOpen) (hplace : σ.place ≠ .lineStart true) : σ.AtEnd := by
  intro c hc
  rw [h.step_eq fun hreturn => absurd hreturn hplace, stepOpen_eq_stop σ hc]

theorem atEnd_of_place (h : σ.place = .bare ∨ σ.place = .closed) : σ.AtEnd := by
  intro c hc
  simp only [List.mem_cons, List.not_mem_nil, or_false] at hc
  rcases h with h | h <;> rcases hc with rfl | rfl | rfl <;> simp [step, h, stepBare, isTextData]

theorem IsOpen.step_comma (h : σ.IsOpen) : σ.step ',' = some σ.endField := by
  rw [h.step_eq fun _ => by decide]
  rfl

theorem eq_nil_of_writtenField (h : WrittenField [] v) : v = [] := by
  cases h with
  | bare => rfl

/-- An empty line is a record with one empty field. -/
theorem eq_of_writtenRecord_nil (h : WrittenRecord [] record) : record = [""] := by
  generalize hs : [] = s at h
  cases h with
  | @last s v h =>
    subst hs
    have hv : v = "" := String.toList_injective (eq_nil_of_writtenField h)
    rw [hv]
  | more => exact absurd hs (by simp)

/-- A reader that has gone through a record up to what ends its last field. -/
structure TookRecord (σ : Reading) (s : List Char) (record : List String) (τ : Reading) : Prop where
  run : s.foldlM step σ = some τ
  fields : τ.fields = σ.record ++ record
  table : τ.table = σ.table
  atEnd : τ.AtEnd
  unquoted : τ.place ≠ .quoted
  line : ∀ afterReturn, τ.place = .lineStart afterReturn → σ.place = .lineStart afterReturn ∧ s = []

/-- A reader takes a record to its end. After a carriage return the record must not be empty, since
a line feed in its place still belongs to the line above. -/
theorem exists_tookRecord (hopen : σ.IsOpen) (h : WrittenRecord s record)
    (hreturn : σ.place = .lineStart true → record ≠ [""]) : ∃ τ, TookRecord σ s record τ := by
  induction h generalizing σ with
  | @last s v h =>
    obtain ⟨place, hrun, hplace⟩ := run_field hopen h
    have hfields : fields { σ with place, field := v.toList } = σ.record ++ [v] := by simp [fields]
    rcases hplace with ⟨rfl, rfl⟩ | hplace
    · have hv : v = "" := String.toList_injective (eq_nil_of_writtenField h)
      have hfirst : σ.place ≠ .lineStart true := fun hplace => hreturn hplace (by rw [hv])
      have hstay : IsOpen { σ with place := σ.place, field := v.toList } :=
        ⟨hopen.place, eq_nil_of_writtenField h⟩
      refine ⟨_, hrun, hfields, rfl, hstay.atEnd hfirst, ?_, fun _ hline => ⟨hline, rfl⟩⟩
      rcases hopen.place with hplace | ⟨afterReturn, hplace⟩ <;> simp [hplace]
    · refine ⟨_, hrun, hfields, rfl, atEnd_of_place hplace, ?_, ?_⟩
      · rcases hplace with rfl | rfl <;> simp
      · rcases hplace with rfl | rfl <;> simp
  | @more s t v record h _ ih =>
    obtain ⟨place, hrun, hplace⟩ := run_field hopen h
    have hcomma : step { σ with place, field := v.toList } ',' =
        some (endField { σ with place, field := v.toList }) := by
      rcases hplace with ⟨rfl, rfl⟩ | hplace
      · have hstay : IsOpen { σ with place := σ.place, field := v.toList } :=
          ⟨hopen.place, eq_nil_of_writtenField h⟩
        exact hstay.step_comma
      · exact atEnd_of_place hplace ',' (by simp)
    obtain ⟨τ, hrest⟩ := ih (isOpen_endField { σ with place, field := v.toList }) nofun
    refine ⟨τ, ?_, ?_, hrest.table, hrest.atEnd, hrest.unquoted, fun afterReturn hline => ?_⟩
    · rw [List.foldlM_append, hrun]
      change List.foldlM step _ (',' :: t) = _
      rw [List.foldlM_cons, hcomma]
      exact hrest.run
    · rw [hrest.fields]
      simp [endField, fields]
    · cases (hrest.line afterReturn hline).1

/-! ### Reading lines -/

/-- A reader in front of a line. -/
def atLine (afterReturn : Bool) (table : List (List String)) : Reading :=
  ⟨.lineStart afterReturn, [], [], table⟩

theorem isOpen_atLine (afterReturn : Bool) (table : List (List String)) :
    (atLine afterReturn table).IsOpen := ⟨.inr ⟨afterReturn, rfl⟩, rfl⟩

variable {table records : List (List String)} {e : List Char}

theorem exists_tookRecord_atLine (afterReturn : Bool) (table : List (List String))
    (h : WrittenRecord s record) (hreturn : afterReturn = true → record ≠ [""]) :
    ∃ τ, TookRecord (atLine afterReturn table) s record τ := by
  refine exists_tookRecord (isOpen_atLine afterReturn table) h fun hplace => hreturn ?_
  exact Place.lineStart.inj hplace

/-- A reader takes a line to its end. -/
theorem run_line (afterReturn : Bool) (table : List (List String)) (h : WrittenRecord s record)
    (hend : LineEnd e) (hreturn : afterReturn = true → record ≠ [""]) :
    ∃ next, (s ++ e).foldlM step (atLine afterReturn table) =
      some (atLine next (table ++ [record])) := by
  obtain ⟨τ, hτ⟩ := exists_tookRecord_atLine afterReturn table h hreturn
  have hline : ∀ next, τ.endLine next = atLine next (table ++ [record]) := by
    intro next
    rw [endLine, hτ.fields, hτ.table]
    rfl
  have hrun : (s ++ e).foldlM step (atLine afterReturn table) = e.foldlM step τ := by
    rw [List.foldlM_append, hτ.run]
    rfl
  have hfeed : τ.step '\n' = some (τ.endLine false) := hτ.atEnd '\n' (by simp)
  have hcarriage : τ.step '\r' = some (τ.endLine true) := hτ.atEnd '\r' (by simp)
  simp only [hrun, ← hline]
  cases hend with
  | feed => exact ⟨false, by rw [List.foldlM_cons, hfeed]; rfl⟩
  | carriage => exact ⟨true, by rw [List.foldlM_cons, hcarriage]; rfl⟩
  | both => exact ⟨false, by rw [List.foldlM_cons, hcarriage]; rfl⟩

/-- A last line without an end is one unless there is nothing in it. -/
theorem TookRecord.finish_eq {τ : Reading} {afterReturn : Bool}
    (h : TookRecord (atLine afterReturn table) s record τ) (hs : s ≠ []) :
    τ.finish = some (table ++ [record]) := by
  have hlines : τ.table ++ [τ.fields] = table ++ [record] := by
    rw [h.fields, h.table]
    rfl
  unfold finish
  split
  · next afterReturn hplace => exact absurd (h.line afterReturn hplace).2 hs
  · next hplace => exact absurd hplace h.unquoted
  · rw [hlines]

/-- Lines of which none is empty are read as they are written. -/
theorem run_records (afterReturn : Bool) (table : List (List String)) (h : WrittenRecords s records)
    (hrecords : ∀ record ∈ records, record ≠ [""]) :
    (s.foldlM step (atLine afterReturn table)).bind finish = some (table ++ records) := by
  induction h generalizing afterReturn table with
  | none => simp [atLine, finish]
  | @last s record h =>
    have hrecord := hrecords record List.mem_cons_self
    obtain ⟨τ, hτ⟩ := exists_tookRecord_atLine afterReturn table h fun _ => hrecord
    have hs : s ≠ [] := by
      rintro rfl
      exact hrecord (eq_of_writtenRecord_nil h)
    rw [hτ.run]
    exact hτ.finish_eq hs
  | @more s e t record records h hend _ ih =>
    obtain ⟨hrecord, hrest⟩ := List.forall_mem_cons.mp hrecords
    obtain ⟨next, hline⟩ := run_line afterReturn table h hend fun _ => hrecord
    rw [← List.append_assoc, List.foldlM_append, hline]
    refine (ih next (table ++ [record]) hrest).trans ?_
    simp

/-! ### Lines that have been read -/

/-- A step adds at most a line to those that have been read, and changes none of them. -/
theorem table_prefix_step (h : σ.step c = some τ) : σ.table <+: τ.table := by
  have htable : τ.table = σ.table ∨ τ.table = σ.table ++ [σ.fields] := by
    grind [step, stepOpen, stepBare, stop, take, endField, endLine]
  rcases htable with htable | htable <;> simp [htable]

/-- What a run has read stays at the head of the table. -/
theorem table_prefix_run (h : (s.foldlM step σ).bind finish = some table) : σ.table <+: table := by
  induction s generalizing σ with
  | nil =>
    change σ.finish = some table at h
    unfold finish at h
    split at h
    · exact Option.some.inj h ▸ List.prefix_rfl
    · cases h
    · exact Option.some.inj h ▸ List.prefix_append _ _
  | cons c s ih =>
    rw [List.foldlM_cons] at h
    cases hstep : σ.step c with
    | none =>
      rw [hstep] at h
      cases h
    | some τ =>
      rw [hstep] at h
      exact (table_prefix_step hstep).trans (ih h)

/-- Whatever may follow, the first record is that of the first line. -/
theorem head_of_run (h : WrittenRecords s (record :: records)) (hne : s ≠ [])
    (hrun : (s.foldlM step start).bind finish = some table) : ∃ rest, table = record :: rest := by
  cases h with
  | last h =>
    obtain ⟨τ, hτ⟩ := exists_tookRecord_atLine false [] h nofun
    have hfinish : (s.foldlM step start).bind finish = some ([] ++ [record]) := by
      rw [show s.foldlM step start = some τ from hτ.run]
      exact hτ.finish_eq hne
    exact ⟨[], Option.some.inj (hrun.symm.trans hfinish)⟩
  | @more s e t record records h hend =>
    obtain ⟨next, hline⟩ := run_line false [] h hend nofun
    rw [← List.append_assoc, List.foldlM_append,
      show (s ++ e).foldlM step start = some (atLine next ([] ++ [record])) from hline] at hrun
    obtain ⟨rest, hrest⟩ := table_prefix_run hrun
    exact ⟨rest, hrest.symm⟩

end Reading

/-! ### The table that a text holds -/

variable {text : String} {table other : List (List String)}

theorem eq_nil_of_writtenRecords {s : List Char} (h : WrittenRecords s []) : s = [] := by
  cases h with
  | none => rfl

theorem ne_empty_of_wide {record : List String} (h : 2 ≤ record.length) : record ≠ [""] := by
  rintro rfl
  exact absurd h (by decide)

/-- A table of at least two columns is read from each text that holds it. -/
theorem read?_of_holds (h : Holds text table) (hwide : ∀ record ∈ table, 2 ≤ record.length) :
    read? text = some table :=
  Reading.run_records false [] h.written fun record hrecord =>
    ne_empty_of_wide (hwide record hrecord)

/-- **A text that holds a table of at least two columns holds no other one.** Another one would
begin with the same record, and so its lines would have as many fields. -/
theorem Holds.unique (h : Holds text table) (hne : table ≠ [])
    (hwide : ∀ record ∈ table, 2 ≤ record.length) (hother : Holds text other) : other = table := by
  have hread := read?_of_holds h hwide
  have hempty : text.toList ≠ [] := by
    intro hnil
    rw [read?, hnil] at hread
    exact hne (Option.some.inj hread).symm
  cases other with
  | nil => exact absurd (eq_nil_of_writtenRecords hother.written) hempty
  | cons record records =>
    obtain ⟨rest, rfl⟩ := Reading.head_of_run hother.written hempty hread
    have hrecord := hwide record List.mem_cons_self
    have hwide' : ∀ line ∈ record :: records, 2 ≤ line.length := by
      intro line hline
      rw [hother.even line hline record List.mem_cons_self]
      exact hrecord
    exact Option.some.inj ((read?_of_holds hother hwide').symm.trans hread)

end SopDocs.Csv
