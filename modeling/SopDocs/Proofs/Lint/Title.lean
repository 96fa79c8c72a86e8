import SopDocs.Proofs.Lint.Severity
import SopDocs.Proofs.Naming
import SopDocs.Proofs.Text.Case

/-!
# Titles that a file name asks for

A file name with a title asks for a heading: the fixed start and the title of the file, with a
capital letter and with blanks for hyphens. Headings are trimmed before they are compared and what
is asked for is not, so a file title that ends in a hyphen or in white space asks for a heading
that no document has.
-/

namespace SopDocs.Lint

/-- A rule reports nothing of a document, whatever the mode. -/
def Rule.Silent (rule : Rule) (ctx : Context) : Prop :=
  ∀ strict, (rule.check ctx strict .empty).isEmpty = true

theorem Rule.silent_iff {rule : Rule} {ctx : Context} :
    rule.Silent ctx ↔ rule.problems ctx = [] :=
  ⟨fun h => (rule.isEmpty_check ctx false).mp (h false),
    fun h strict => (rule.isEmpty_check ctx strict).mpr h⟩

/-- A title that ends neither in a hyphen nor in white space. -/
def ProperlyEnded (title : String) : Prop :=
  ∀ c, title.toList.getLast? = some c → c ≠ '-' ∧ Text.isBlank c = false

/-! ### What is asked for -/

section Expected

variable {c : Conventions} {title : String}

theorem toList_expectedTitle (c : Conventions) (title : String) :
    (expectedTitle c title).toList = c.titlePrefix.toList ++
      Text.capitalize (title.toList.map fun ch => if ch = '-' then ' ' else ch) := by
  unfold expectedTitle
  rw [String.toList_append, String.toList_ofList]

/-- A heading that is asked for ends in white space if the file title does not end properly. -/
theorem getLast?_expectedTitle_iff (hne : title ≠ "") :
    (∀ d, (expectedTitle c title).toList.getLast? = some d → Text.isBlank d = false) ↔
      ProperlyEnded title := by
  have hchars : title.toList ≠ [] := fun h => hne (String.toList_eq_nil_iff.mp h)
  obtain ⟨front, last, htitle⟩ : ∃ front last, title.toList = front ++ [last] :=
    ⟨_, _, (List.dropLast_concat_getLast hchars).symm⟩
  have hcapitals : Text.capitalize (title.toList.map fun ch => if ch = '-' then ' ' else ch) ≠
      [] := by
    cases hlist : title.toList with
    | nil => exact absurd hlist hchars
    | cons a r => exact List.append_ne_nil_of_left_ne_nil (Text.upperChar_ne_nil _) _
  rw [toList_expectedTitle, List.getLast?_append_of_ne_nil _ hcapitals,
    Text.isBlank_getLast?_capitalize, ProperlyEnded, htitle, List.map_append, List.map_singleton,
    List.getLast?_concat, List.getLast?_concat]
  by_cases hlast : last = '-'
  · have hspace : Text.isBlank ' ' = true := by decide
    simp [hlast, hspace]
  · simp [hlast]

/-- Where the fixed start does not start with white space, a heading that is asked for is trimmed
exactly if the file title ends properly. -/
theorem trim_expectedTitle_iff (hne : title ≠ "")
    (hstart : ∃ d, c.titlePrefix.toList.head? = some d ∧ Text.isBlank d = false) :
    Text.trim (expectedTitle c title).toList = (expectedTitle c title).toList ↔
      ProperlyEnded title := by
  obtain ⟨d, hhead, hd⟩ := hstart
  have hfirst : ∀ e, (expectedTitle c title).toList.head? = some e → Text.isBlank e = false := by
    intro e he
    rw [toList_expectedTitle, List.head?_append, hhead] at he
    rw [← Option.some.inj he, hd]
  rw [Text.trim_eq_self_iff, getLast?_expectedTitle_iff hne]
  exact and_iff_right hfirst

end Expected

/-! ### What is accepted -/

section Accepted

variable {ctx : Context} {identifier title : String}

/-- A heading is taken if it is, trimmed and in lower case, what is asked for in lower case. -/
theorem silent_titleMatchesFileName_iff
    (hsplit : ctx.conventions.splitFileName? ctx.path = some (identifier, title)) :
    Rule.titleMatchesFileName.Silent ctx ↔ ∃ heading, ctx.root.title? = some heading ∧
      Text.lower (Text.trim heading.plainText.toList) =
        Text.lower (expectedTitle ctx.conventions title).toList := by
  have hproblems : Rule.titleMatchesFileName.problems ctx = titleMatchesFileName ctx := rfl
  rw [Rule.silent_iff, hproblems, titleMatchesFileName, hsplit]
  simp only [Context.title?]
  cases ctx.root.title? with
  | none => simp
  | some heading =>
    have hequal : Text.lowered (Text.trimmed heading.plainText) =
          Text.lowered (expectedTitle ctx.conventions title) ↔
        Text.lower (Text.trim heading.plainText.toList) =
          Text.lower (expectedTitle ctx.conventions title).toList := by
      unfold Text.lowered Text.trimmed
      rw [String.ofList_inj, String.toList_ofList]
    simp only [Option.map_some, Option.some.injEq, exists_eq_left']
    rw [← hequal]
    split
    · next h => simp [h]
    · next h => simp [h]

theorem silent_titleFormat_iff : Rule.titleFormat.Silent ctx ↔
    ∃ heading, ctx.root.title? = some heading ∧
      ctx.conventions.titlePrefix.toList <+: Text.trim heading.plainText.toList := by
  have hproblems : Rule.titleFormat.problems ctx = titleFormat ctx := rfl
  rw [Rule.silent_iff, hproblems, titleFormat]
  simp only [Context.title?]
  cases ctx.root.title? with
  | none => simp
  | some heading =>
    simp [Text.startsWith, Text.trimmed, String.toList_ofList]

/-- Whatever the rule reports asks for one and the same heading. -/
theorem eq_of_mem_titleMatchesFileName
    (hsplit : ctx.conventions.splitFileName? ctx.path = some (identifier, title)) {p : Problem}
    (hp : p ∈ Rule.titleMatchesFileName.problems ctx) :
    p = .noTitleToCompare (expectedTitle ctx.conventions title) ∨
      ∃ shown, p = .titleMismatch shown (expectedTitle ctx.conventions title) := by
  have hproblems : Rule.titleMatchesFileName.problems ctx = titleMatchesFileName ctx := rfl
  rw [hproblems, titleMatchesFileName, hsplit] at hp
  cases htitle : ctx.title? with
  | none =>
    simp only [htitle, List.mem_singleton] at hp
    exact .inl hp
  | some shown =>
    simp only [htitle] at hp
    split at hp
    · cases hp
    · exact .inr ⟨shown, List.mem_singleton.mp hp⟩

variable (hsplit : ctx.conventions.splitFileName? ctx.path = some (identifier, title))
variable (hstart : ∃ d, ctx.conventions.titlePrefix.toList.head? = some d ∧ Text.isBlank d = false)

include hsplit

theorem title_ne_empty : title ≠ "" := by
  obtain ⟨_, -, -, hne, -⟩ := Conventions.splitFileName?_eq_some_iff.mp hsplit
  exact hne

/-- A heading that is taken has no white space around it, so neither has what is asked for. -/
theorem properlyEnded_of_silent (h : Rule.titleMatchesFileName.Silent ctx) :
    ProperlyEnded title := by
  obtain ⟨heading, -, hequal⟩ := (silent_titleMatchesFileName_iff hsplit).mp h
  have htrimmed : Text.trim (Text.lower (expectedTitle ctx.conventions title).toList) =
      Text.lower (expectedTitle ctx.conventions title).toList := by
    rw [← hequal, Text.trim_lower, Text.trim_trim]
  refine (getLast?_expectedTitle_iff (c := ctx.conventions) (title_ne_empty hsplit)).mp
    fun d hd => ?_
  rw [← Bool.not_eq_true]
  intro hblank
  obtain ⟨front, hfront⟩ := List.getLast?_eq_some_iff.mp hd
  rw [hfront, Text.lower_append_blank hblank] at htrimmed
  have hlast := (Text.trim_eq_self_iff.mp htrimmed).2 d List.getLast?_concat
  rw [hblank] at hlast
  cases hlast

include hstart

/-- The heading that is asked for is taken by both rules if the file title ends properly, and by
the second in no other case. -/
theorem expectedTitle_silent_iff {heading : Tree.Node} (hheading : ctx.root.title? = some heading)
    (htext : heading.plainText = expectedTitle ctx.conventions title) :
    (Rule.titleFormat.Silent ctx ∧ Rule.titleMatchesFileName.Silent ctx) ↔
      ProperlyEnded title := by
  refine ⟨fun h => properlyEnded_of_silent hsplit h.2, fun hended => ?_⟩
  have htrimmed := (trim_expectedTitle_iff (title_ne_empty hsplit) hstart).mpr hended
  rw [silent_titleFormat_iff, silent_titleMatchesFileName_iff hsplit]
  refine ⟨⟨heading, hheading, ?_⟩, heading, hheading, ?_⟩
  · rw [htext, htrimmed, toList_expectedTitle]
    exact List.prefix_append _ _
  · rw [htext, htrimmed]

end Accepted

/-- A document with one heading of level 1 and nothing else. -/
def headedDocument (title : String) : Tree.Node :=
  ⟨.document, ⟨0, 0⟩, none, .none, [
    ⟨.header, ⟨0, 0⟩, none, .header 1, [⟨.str, ⟨0, 0⟩, some title, .none, []⟩]⟩]⟩

theorem headedDocument_title (title : String) :
    ∃ heading, (headedDocument title).title? = some heading ∧ heading.plainText = title := by
  refine ⟨⟨.header, ⟨0, 0⟩, none, .header 1, [⟨.str, ⟨0, 0⟩, some title, .none, []⟩]⟩, rfl, ?_⟩
  simp [Tree.Node.plainText, Tree.Node.plainTexts]

theorem exists_isBlank_titlePrefix {ctx : Context}
    (hconventions : ctx.conventions = .ofConfig .standard) :
    ∃ d, ctx.conventions.titlePrefix.toList.head? = some d ∧ Text.isBlank d = false := by
  rw [hconventions]
  exact ⟨'E', rfl, by decide⟩

theorem exists_split_of_silent {ctx : Context} (hname : Rule.fileName.Silent ctx) :
    ∃ identifier title,
      ctx.conventions.splitFileName? ctx.path = some (identifier, title) := by
  have hproblems : Rule.fileName.problems ctx = fileName ctx := rfl
  rw [Rule.silent_iff, hproblems, fileName] at hname
  cases hsplit : ctx.conventions.splitFileName? ctx.path with
  | none => simp [hsplit] at hname
  | some parts => exact ⟨parts.1, parts.2, rfl⟩

/-- **The heading that a file name asks for is accepted if the title of the file ends neither in a
hyphen nor in white space.** For any other title that the rule on file names lets pass, no document
at all satisfies the rule that compares the two, and whatever that rule reports of it asks for the
heading that it does not accept. -/
theorem expectedTitle_accepted_iff {ctx : Context}
    (hconventions : ctx.conventions = .ofConfig .standard) (hname : Rule.fileName.Silent ctx) :
    ∃ identifier title, ctx.conventions.splitFileName? ctx.path = some (identifier, title) ∧
      (∀ root heading, root.title? = some heading →
        heading.plainText = expectedTitle ctx.conventions title →
          ((Rule.titleFormat.Silent { ctx with root } ∧
            Rule.titleMatchesFileName.Silent { ctx with root }) ↔ ProperlyEnded title)) ∧
      ((∃ root, Rule.titleMatchesFileName.Silent { ctx with root }) ↔ ProperlyEnded title) ∧
      ∀ root, ∀ p ∈ Rule.titleMatchesFileName.problems { ctx with root },
        p = .noTitleToCompare (expectedTitle ctx.conventions title) ∨
          ∃ shown, p = .titleMismatch shown (expectedTitle ctx.conventions title) := by
  obtain ⟨identifier, title, hsplit⟩ := exists_split_of_silent hname
  have hstart := exists_isBlank_titlePrefix hconventions
  refine ⟨identifier, title, hsplit, ?_, ?_, ?_⟩
  · intro root heading hheading htext
    exact @expectedTitle_silent_iff { ctx with root } _ _ hsplit hstart _ hheading htext
  · constructor
    · rintro ⟨root, hsilent⟩
      exact @properlyEnded_of_silent { ctx with root } _ _ hsplit hsilent
    · intro hended
      obtain ⟨heading, hheading, htext⟩ :=
        headedDocument_title (expectedTitle ctx.conventions title)
      have haccepted := (@expectedTitle_silent_iff
        { ctx with root := headedDocument (expectedTitle ctx.conventions title) } _ _ hsplit hstart
        _ hheading htext).mpr hended
      exact ⟨_, haccepted.2⟩
  · intro root p hp
    exact @eq_of_mem_titleMatchesFileName { ctx with root } _ _ hsplit _ hp

/-- A document with one heading, at a path that is the only one of its run. -/
def headedContext (path title : String) : Context where
  path := ⟨path⟩
  root := headedDocument title
  conventions := .ofConfig .standard
  inputs := [⟨path⟩]
  charter := .empty
  found := fun _ => true
  probe := none

/-- The file name of a document with an ordinary title, the first letter of which has an upper
case of two letters. -/
def ligatureName : String := "european-level/GDI-SOP0001_ﬁle-naming.md"

theorem expectedTitle_accepted_ligature :
    Rule.fileName.Silent (headedContext ligatureName "European GDI - FIle naming") ∧
      Rule.titleFormat.Silent (headedContext ligatureName "European GDI - FIle naming") ∧
      Rule.titleMatchesFileName.Silent
        (headedContext ligatureName "European GDI - FIle naming") := by
  have hname : Rule.fileName.Silent (headedContext ligatureName "European GDI - FIle naming") :=
    Rule.silent_iff.mpr (List.isEmpty_iff.mp (by decide +kernel))
  obtain ⟨identifier, title, hsplit, haccepted, -, -⟩ := expectedTitle_accepted_iff rfl hname
  have hparts : (Conventions.ofConfig .standard).splitFileName? ⟨ligatureName⟩ =
      some ("GDI-SOP0001", "ﬁle-naming") := by decide
  obtain ⟨rfl, rfl⟩ := Prod.mk.inj (Option.some.inj (hsplit.symm.trans hparts))
  have hended : ProperlyEnded "ﬁle-naming" := by
    intro c hc
    have hlast : "ﬁle-naming".toList.getLast? = some 'g' := by decide
    rw [← Option.some.inj (hlast.symm.trans hc)]
    decide
  obtain ⟨heading, hheading, htext⟩ := headedDocument_title "European GDI - FIle naming"
  have hexpected : expectedTitle (.ofConfig .standard) "ﬁle-naming" =
      "European GDI - FIle naming" := by decide
  exact ⟨hname, (haccepted _ heading hheading (htext.trans hexpected.symm)).mpr hended⟩

/-- A file title that ends in a hyphen is let pass, and the heading that is then asked for is
refused with a message that asks for it again. -/
theorem expectedTitle_refused_hyphen :
    ¬ (∀ ctx : Context, ctx.conventions = .ofConfig .standard → Rule.fileName.Silent ctx →
      ∀ identifier title, ctx.conventions.splitFileName? ctx.path = some (identifier, title) →
        ∀ heading, ctx.root.title? = some heading →
          heading.plainText = expectedTitle ctx.conventions title →
            Rule.titleFormat.Silent ctx ∧ Rule.titleMatchesFileName.Silent ctx) ∧
      (Rule.titleMatchesFileName.problems
          (headedContext "sops/GDI-SOP0001_data-.md" "European GDI - Data ")).map
          Problem.message =
        [(Problem.titleMismatch "European GDI - Data" "European GDI - Data ").message] := by
  have hproblems : (Rule.titleMatchesFileName.problems
      (headedContext "sops/GDI-SOP0001_data-.md" "European GDI - Data ")).map Problem.message =
        [(Problem.titleMismatch "European GDI - Data" "European GDI - Data ").message] := by
    decide
  refine ⟨fun hsilent => ?_, hproblems⟩
  have hname : Rule.fileName.Silent
      (headedContext "sops/GDI-SOP0001_data-.md" "European GDI - Data ") :=
    Rule.silent_iff.mpr (List.isEmpty_iff.mp (by decide))
  obtain ⟨heading, hheading, htext⟩ := headedDocument_title "European GDI - Data "
  have hexpected : expectedTitle (.ofConfig .standard) "data-" = "European GDI - Data " := by
    decide
  have haccepted := (hsilent _ rfl hname "GDI-SOP0001" "data-" (by decide) heading hheading
    (htext.trans hexpected.symm)).2
  rw [Rule.silent_iff.mp haccepted] at hproblems
  cases hproblems

end SopDocs.Lint
