import SopDocs.Proofs.Lint.Independence
import SopDocs.Proofs.Lint.Origin
import SopDocs.Proofs.Lint.Severity
import SopDocs.Proofs.Text.Search

/-!
# A repeated identifier is told of each file that carries it

A document is checked by itself, against the list of all inputs. It is told that its identifier
is repeated exactly if that identifier occurs twice in the list. Since every document sees the
same list, all files with the identifier are told, with the same number, and no other file is.
-/

namespace SopDocs.Lint

/-! ### The message -/

/-- The words that only the message about a repeated identifier starts with. -/
def duplicateStart : String := "Identifier '"

def isDuplicateMessage (message : String) : Bool := Text.startsWith message duplicateStart

def Problem.isDuplicate : Problem → Bool
  | duplicateIdentifier _ _ => true
  | _ => false

theorem apart_message {p : Problem} (h : p.isDuplicate = false) :
    Text.Apart p.message duplicateStart := by
  cases p
  case duplicateIdentifier => cases h
  -- A message is a fixed text with cells and names put behind it.
  all_goals
    dsimp only [Problem.message]
    repeat with_reducible apply Text.Apart.append
    exact Text.apart_ofList (by decide)

/-- The text behind the identifier in the message. -/
def usesText (uses : Nat) : String :=
  "' is used by " ++ toString uses ++ " input files; identifiers must be unique."

theorem message_duplicateIdentifier (identifier : String) (uses : Nat) :
    (Problem.duplicateIdentifier identifier uses).message =
      duplicateStart ++ (identifier ++ usesText uses) := by
  unfold usesText
  simp only [← String.append_assoc]
  rfl

theorem isDuplicateMessage_message (p : Problem) : isDuplicateMessage p.message = p.isDuplicate := by
  cases h : p.isDuplicate with
  | false => exact (apart_message h).startsWith_eq_false
  | true =>
    cases p
    case duplicateIdentifier identifier uses =>
      rw [message_duplicateIdentifier, isDuplicateMessage, Text.startsWith, String.toList_append,
        List.isPrefixOf_iff_prefix]
      exact List.prefix_append _ _
    all_goals cases h

/-- Read from its end, the text behind the identifier has one number in it. -/
theorem reverse_usesText (uses : Nat) : (usesText uses).toList.reverse =
    " input files; identifiers must be unique.".toList.reverse ++
      ((Nat.toDigits 10 uses).reverse ++ ' ' :: "' is used by".toList.reverse) := by
  have hstart : "' is used by ".toList.reverse = ' ' :: "' is used by".toList.reverse := by decide
  unfold usesText
  rw [Nat.toString_eq_repr, String.toList_append, String.toList_append, Nat.toList_repr,
    List.reverse_append, List.reverse_append, hstart]

theorem identifier_eq_of_message_eq {a b : String} {m n : Nat}
    (h : (Problem.duplicateIdentifier a m).message = (Problem.duplicateIdentifier b n).message) :
    a = b := by
  have hdigits : ∀ k : Nat, ∀ c ∈ (Nat.toDigits 10 k).reverse, c.isDigit = true := fun k c hc =>
    Nat.isDigit_of_mem_toDigits (by decide) (by decide) (List.mem_reverse.mp hc)
  have hlists : a.toList ++ (usesText m).toList = b.toList ++ (usesText n).toList := by
    have htext := congrArg String.toList h
    simpa only [message_duplicateIdentifier, String.toList_append,
      List.append_cancel_left_eq] using htext
  have hreversed := congrArg List.reverse hlists
  simp only [List.reverse_append, reverse_usesText, List.append_assoc, List.cons_append,
    List.append_cancel_left_eq] at hreversed
  obtain ⟨-, hrest⟩ := Text.append_cons_inj (by decide) (hdigits m) (hdigits n) hreversed
  exact String.toList_inj.mp (List.reverse_inj.mp (List.append_cancel_left hrest))

/-! ### One document -/

/-- The messages about a repeated identifier among the errors. -/
def Findings.duplicates (f : Findings) : List String := f.errors.filter isDuplicateMessage

theorem duplicates_ofProblems (strict : Bool) (ps : List Problem) :
    (Findings.ofProblems strict ps).duplicates =
      (ps.filter Problem.isDuplicate).map Problem.message := by
  have hmessage : isDuplicateMessage ∘ Problem.message = Problem.isDuplicate :=
    funext isDuplicateMessage_message
  unfold Findings.duplicates Findings.ofProblems
  cases strict with
  | true =>
    rw [Findings.addProblems_strict]
    simp only [Findings.empty, List.nil_append, List.filter_map, hmessage]
  | false =>
    have herror : ∀ p : Problem, (p.isDuplicate && p.isError) = p.isDuplicate := by
      intro p
      cases p <;> rfl
    rw [Findings.addProblems_lenient]
    simp only [Findings.empty, List.nil_append, List.filter_map, hmessage, List.filter_filter,
      herror]

/-- The problem of a file whose identifier is repeated. -/
def duplicateProblems (c : Conventions) (inputs : List Path) (path : Path) : List Problem :=
  match c.fileIdentifier? path with
  | none => []
  | some identifier =>
    if 1 < identifierUses c inputs identifier
    then [.duplicateIdentifier identifier (identifierUses c inputs identifier)] else []

theorem mem_duplicateProblems {c : Conventions} {inputs : List Path} {path : Path} {p : Problem} :
    p ∈ duplicateProblems c inputs path ↔
      ∃ identifier, c.fileIdentifier? path = some identifier ∧
        1 < identifierUses c inputs identifier ∧
        p = .duplicateIdentifier identifier (identifierUses c inputs identifier) := by
  unfold duplicateProblems
  cases c.fileIdentifier? path with
  | none => simp
  | some identifier =>
    simp only [Option.some.injEq, exists_eq_left']
    split
    · next huses => simp [huses]
    · next huses => simp [huses]

theorem duplicateProblems_of_uses {c : Conventions} {inputs : List Path} {path : Path}
    {identifier : String} (hidentifier : c.fileIdentifier? path = some identifier)
    (huses : 1 < identifierUses c inputs identifier) :
    duplicateProblems c inputs path =
      [.duplicateIdentifier identifier (identifierUses c inputs identifier)] := by
  unfold duplicateProblems
  rw [hidentifier]
  exact if_pos huses

theorem filter_isDuplicate_fileName (ctx : Context) :
    (fileName ctx).filter Problem.isDuplicate =
      duplicateProblems ctx.conventions ctx.inputs ctx.path := by
  unfold fileName duplicateProblems Conventions.fileIdentifier?
  cases ctx.conventions.splitFileName? ctx.path with
  | none => rfl
  | some parts =>
    simp only [List.filter_append, Option.map_some]
    split <;> split <;> rfl

theorem filter_isDuplicate_of_ne {rule : Rule} (h : rule ≠ .fileName) (ctx : Context) :
    (rule.problems ctx).filter Problem.isDuplicate = [] := by
  rw [List.filter_eq_nil_iff]
  intro p hp hduplicate
  refine h ?_
  rw [← foundBy_problems rule ctx p hp]
  cases p
  case duplicateIdentifier => rfl
  all_goals cases hduplicate

theorem duplicates_lintTree (ctx : Context) (strict : Bool) :
    (lintTree ctx strict).duplicates =
      (duplicateProblems ctx.conventions ctx.inputs ctx.path).map Problem.message := by
  have hrules : (Rule.all.flatMap (·.problems ctx)).filter Problem.isDuplicate =
      (fileName ctx).filter Problem.isDuplicate := by
    have hother : (fun rule : Rule => (rule.problems ctx).filter Problem.isDuplicate) =
        fun rule =>
          if rule = .fileName then (fileName ctx).filter Problem.isDuplicate else [] := by
      funext rule
      split
      · next h => rw [h]; rfl
      · next h => exact filter_isDuplicate_of_ne h ctx
    rw [List.filter_flatMap, hother]
    simp [Rule.all]
  rw [lintTree_eq, duplicates_ofProblems, hrules, filter_isDuplicate_fileName]

/-! ### All documents -/

namespace Setup

variable {setup : Setup} {config : Config} {report : Report} {path : Path}

/-- What the report of a run holds about repeated identifiers for one of its files. -/
theorem duplicates_of_run (hrun : setup.run config = .ok report) (hpath : path ∈ setup.inputs) :
    ∃ f, report.get? path = some f ∧
      f.duplicates =
        (duplicateProblems setup.conventions setup.inputs path).map Problem.message := by
  obtain ⟨halone, rfl⟩ := run_eq_ok_iff.mp hrun
  refine ⟨setup.found config path, by rw [get?_entries, if_pos hpath], ?_⟩
  obtain ⟨f, hf⟩ := halone path hpath
  have hfound := alone_eq_found hf
  rw [alone_eq] at hfound
  cases hctx : (setup.context (.ofConfig config) path).1 with
  | error failure => simp [hctx, Except.map] at hfound
  | ok ctx =>
    obtain ⟨hpath', hconventions, hinputs⟩ := context_eq hctx
    rw [hctx, Except.map, Except.ok.injEq] at hfound
    rw [← hfound, duplicates_lintTree, hpath', hconventions, hinputs]

/-- An error about a repeated identifier is about that of the file. -/
theorem carries_of_mem_errors {f : Findings} {identifier : String} {n : Nat}
    (hfound : f.duplicates =
      (duplicateProblems setup.conventions setup.inputs path).map Problem.message)
    (hmem : (Problem.duplicateIdentifier identifier n).message ∈ f.errors) :
    setup.conventions.fileIdentifier? path = some identifier ∧
      1 < identifierUses setup.conventions setup.inputs identifier := by
  have hduplicate : (Problem.duplicateIdentifier identifier n).message ∈ f.duplicates :=
    List.mem_filter.mpr ⟨hmem, isDuplicateMessage_message _⟩
  rw [hfound] at hduplicate
  obtain ⟨p, hp, hmessage⟩ := List.mem_map.mp hduplicate
  obtain ⟨own, hown, huses, rfl⟩ := mem_duplicateProblems.mp hp
  obtain rfl := identifier_eq_of_message_eq hmessage
  exact ⟨hown, huses⟩

/-- No error about a repeated identifier is in the report exactly if the identifiers of the
files that have one differ. -/
theorem no_duplicates_iff (hrun : setup.run config = .ok report) :
    (∀ p f, report.get? p = some f → f.duplicates = []) ↔
      (setup.inputs.filterMap setup.conventions.fileIdentifier?).Nodup := by
  have hcount : ∀ identifier,
      (setup.inputs.filterMap setup.conventions.fileIdentifier?).count identifier =
        identifierUses setup.conventions setup.inputs identifier := fun _ => List.count_filterMap
  rw [List.nodup_iff_count]
  simp only [hcount]
  constructor
  · intro hnone identifier
    refine Nat.le_of_not_lt fun huses => ?_
    obtain ⟨p, hp, hidentifier⟩ := List.countP_pos_iff.mp (Nat.zero_lt_of_lt huses)
    obtain ⟨f, hf, hfound⟩ := duplicates_of_run hrun hp
    rw [hnone p f hf, duplicateProblems_of_uses (by simpa using hidentifier) huses] at hfound
    cases hfound
  · intro huses p f hf
    by_cases hp : p ∈ setup.inputs
    · obtain ⟨g, hg, hfound⟩ := duplicates_of_run hrun hp
      obtain rfl : g = f := Option.some.inj (hg.symm.trans hf)
      rw [hfound, List.map_eq_nil_iff, List.eq_nil_iff_forall_not_mem]
      intro q hq
      obtain ⟨identifier, -, hmany, -⟩ := mem_duplicateProblems.mp hq
      exact absurd (huses identifier) (Nat.not_le.mpr hmany)
    · obtain ⟨-, rfl⟩ := run_eq_ok_iff.mp hrun
      rw [get?_entries, if_neg hp] at hf
      cases hf

/-- **Repeated identifiers are told of each file that carries them and of no other.** If two or
more of the inputs carry an identifier, each of them gets one error about a repeated identifier,
with the identifier and their number. No other file gets an error about this identifier. So a
run is silent about identifiers exactly if no identifier occurs twice. -/
theorem duplicates_flagged (hrun : setup.run config = .ok report) :
    (∀ p ∈ setup.inputs, ∃ f, report.get? p = some f ∧ ∀ identifier,
      (2 ≤ identifierUses setup.conventions setup.inputs identifier →
        setup.conventions.fileIdentifier? p = some identifier →
        f.duplicates = [(Problem.duplicateIdentifier identifier
          (identifierUses setup.conventions setup.inputs identifier)).message]) ∧
      (identifierUses setup.conventions setup.inputs identifier ≤ 1 ∨
          setup.conventions.fileIdentifier? p ≠ some identifier →
        ∀ n, (Problem.duplicateIdentifier identifier n).message ∉ f.errors)) ∧
    ((∀ p f, report.get? p = some f → f.duplicates = []) ↔
      (setup.inputs.filterMap setup.conventions.fileIdentifier?).Nodup) := by
  refine ⟨fun p hp => ?_, no_duplicates_iff hrun⟩
  obtain ⟨f, hf, hfound⟩ := duplicates_of_run hrun hp
  refine ⟨f, hf, fun identifier => ⟨fun huses hidentifier => ?_, fun hfew n hmem => ?_⟩⟩
  · rw [hfound, duplicateProblems_of_uses hidentifier huses]
    rfl
  · obtain ⟨hidentifier, huses⟩ := carries_of_mem_errors hfound hmem
    rcases hfew with hfew | hother
    · omega
    · exact hother hidentifier

end Setup

/-- Both documents with the one identifier are told of each other. -/
theorem duplicates_flagged_twoDocuments :
    ∃ report, twoDocuments.run .standard = .ok report ∧
      ∀ p ∈ twoDocuments.inputs, ∃ f, report.get? p = some f ∧
        f.duplicates = [(Problem.duplicateIdentifier "GDI-SOP0001" 2).message] := by
  have hrun : (twoDocuments.run .standard).toOption.isSome = true := by decide +kernel
  have huses : identifierUses twoDocuments.conventions twoDocuments.inputs "GDI-SOP0001" = 2 := by
    decide +kernel
  have hcarry : ∀ p ∈ twoDocuments.inputs,
      twoDocuments.conventions.fileIdentifier? p = some "GDI-SOP0001" := by decide +kernel
  cases h : twoDocuments.run .standard with
  | error failure => simp [h, Except.toOption] at hrun
  | ok report =>
    refine ⟨report, rfl, fun p hp => ?_⟩
    obtain ⟨f, hf, hflagged⟩ := (Setup.duplicates_flagged h).1 p hp
    refine ⟨f, hf, ?_⟩
    rw [(hflagged "GDI-SOP0001").1 (by omega) (hcarry p hp), huses]

end SopDocs.Lint
