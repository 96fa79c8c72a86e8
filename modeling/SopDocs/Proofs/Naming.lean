import SopDocs.Files.Finder
import SopDocs.Lint.MetadataTable
import SopDocs.Proofs.Conventions
import SopDocs.Proofs.Text.Pattern

/-!
# The naming patterns agree

Three patterns are put together from the fixed start of identifiers: one for values that start
with an identifier, one for file stems and one for the names of document files. Whatever
characters the fixed start has, in each pattern they stand for themselves. So all three ask for
the same identifiers, a file that has one is found as a document if its name ends in `.md`, and
its identifier is accepted as a value.
-/

namespace SopDocs

/-- The stem of a name with a start and an extension is the start. -/
theorem Path.stemOf_append {start extension : List Char} (hstart : start ≠ [])
    (hextension : '.' ∉ extension) : stemOf (start ++ '.' :: extension) = start := by
  have hcut : ((start ++ '.' :: extension).reverse.dropWhile (· != '.')).reverse =
      start ++ ['.'] := by
    have hpassed : ∀ c ∈ extension.reverse, (c != '.') = true := by
      intro c hc
      rw [bne_iff_ne]
      rintro rfl
      exact hextension (List.mem_reverse.mp hc)
    rw [List.reverse_append, List.reverse_cons, List.append_assoc,
      List.dropWhile_append_of_pos hpassed]
    simp
  unfold stemOf
  rw [hcut]
  split
  · next h => simp at h
  · next h => exact absurd (by simpa using congrArg List.length h) hstart
  · rw [List.dropLast_concat]

namespace Conventions

open Pattern (Finds Item State Steps literalItems)

variable {c : Conventions}

/-- The pattern of the names of document files. -/
def documentNamePattern (c : Conventions) : String :=
  "^" ++ literalPattern c.identifierPrefix ++ "\\d\x7b4\x7d.*\\.md$"

/-! ### The patterns, read -/

/-- The part of each pattern that takes an identifier. -/
def identifierItems (c : Conventions) : List Item :=
  literalItems c.identifierPrefix.toList ++ [.run .digit (.exactly 4)]

theorem parse?_identifier (c : Conventions) (r : List Char) :
    Pattern.parse? ((literalPattern c.identifierPrefix).toList ++
        '\\' :: 'd' :: '\x7b' :: '4' :: '\x7d' :: r) =
      (Pattern.parse? r).map (c.identifierItems ++ ·) := by
  rw [Pattern.parse?_literal_digits]
  simp only [identifierItems, List.append_assoc, List.singleton_append]

theorem parse?_identifierPattern (c : Conventions) :
    Pattern.parse? c.identifierPattern.toList = some (.mark .start :: c.identifierItems) := by
  have htext : c.identifierPattern.toList =
      '^' :: ((literalPattern c.identifierPrefix).toList ++ ['\\', 'd', '\x7b', '4', '\x7d']) := by
    simp [identifierPattern]
  rw [htext, Pattern.parse?_mark rfl, parse?_identifier]
  simp [Pattern.parse?, Pattern.symbols?, Pattern.items?]

theorem parse?_fileStemPattern (c : Conventions) :
    Pattern.parse? c.fileStemPattern.toList =
      some (.mark .start :: .mark .opening :: (c.identifierItems ++ [.mark .closing,
        .run (.char '_') (.exactly 1), .mark .opening, .run .any (.atLeast 1), .mark .closing,
        .mark .stop])) := by
  have htext : c.fileStemPattern.toList = '^' :: '(' ::
      ((literalPattern c.identifierPrefix).toList ++
        '\\' :: 'd' :: '\x7b' :: '4' :: '\x7d' :: ")_(.+)$".toList) := by
    simp [fileStemPattern]
  have htail : Pattern.parse? ")_(.+)$".toList = some [.mark .closing,
      .run (.char '_') (.exactly 1), .mark .opening, .run .any (.atLeast 1), .mark .closing,
      .mark .stop] := by
    rfl
  rw [htext, Pattern.parse?_mark rfl, Pattern.parse?_mark rfl, parse?_identifier, htail]
  rfl

theorem parse?_documentNamePattern (c : Conventions) :
    Pattern.parse? c.documentNamePattern.toList =
      some (.mark .start :: (c.identifierItems ++
        .run .any (.atLeast 0) :: (literalItems ".md".toList ++ [.mark .stop]))) := by
  have htext : c.documentNamePattern.toList =
      '^' :: ((literalPattern c.identifierPrefix).toList ++
        '\\' :: 'd' :: '\x7b' :: '4' :: '\x7d' :: ".*\\.md$".toList) := by
    simp [documentNamePattern]
  have htail : Pattern.parse? ".*\\.md$".toList =
      some (.run .any (.atLeast 0) :: (literalItems ".md".toList ++ [.mark .stop])) := by
    rfl
  rw [htext, Pattern.parse?_mark rfl, parse?_identifier, htail]
  rfl

/-! ### What they find -/

theorem steps_identifierItems {s t : State} :
    Steps c.identifierItems s t ↔ ∃ identifier rest, c.IsIdentifier identifier ∧
      s.rest = identifier ++ rest ∧ t = s.take identifier rest := by
  unfold identifierItems
  rw [Pattern.steps_append]
  simp only [Pattern.steps_literalItems]
  constructor
  · rintro ⟨_, ⟨rest, hrest, rfl⟩, _, ⟨digits, rest', hrest', hdigits, hlength, rfl⟩, rfl⟩
    refine ⟨_, rest', ⟨digits, hlength, hdigits, rfl⟩, ?_, State.take_take _ _ _ _ _⟩
    rw [hrest, show rest = digits ++ rest' from hrest', List.append_assoc]
  · rintro ⟨_, rest, ⟨digits, hlength, hdigits, rfl⟩, hrest, rfl⟩
    refine ⟨_, ⟨digits ++ rest, ?_, rfl⟩, _, ⟨digits, rest, rfl, hdigits, hlength, rfl⟩,
      (State.take_take _ _ _ _ _).symm⟩
    rw [hrest, List.append_assoc]

theorem finds_identifierPattern_iff {s : List Char} :
    Finds c.identifierPattern s [] ↔
      ∃ identifier rest, c.IsIdentifier identifier ∧ s = identifier ++ rest := by
  rw [Pattern.finds_iff_of_start (parse?_identifierPattern c)]
  simp only [steps_identifierItems]
  constructor
  · rintro ⟨_, ⟨identifier, rest, hidentifier, hs, -⟩, -⟩
    exact ⟨identifier, rest, hidentifier, hs⟩
  · rintro ⟨identifier, rest, hidentifier, hs⟩
    exact ⟨_, ⟨identifier, rest, hidentifier, hs, rfl⟩, rfl⟩

theorem finds_fileStemPattern_iff {stem : List Char} {captured : List (List Char)} :
    Finds c.fileStemPattern stem captured ↔ ∃ identifier title, c.IsIdentifier identifier ∧
      title ≠ [] ∧ '\n' ∉ title ∧ stem = identifier ++ '_' :: title ∧
      captured = [identifier, title] := by
  rw [Pattern.finds_iff_of_start (parse?_fileStemPattern c)]
  simp only [Steps, Pattern.steps_append, steps_identifierItems, Pattern.step_char]
  constructor
  · rintro ⟨_, ⟨_, rfl, _, ⟨identifier, rest, hidentifier, hrest, rfl⟩, _, ⟨_, _, hopened, rfl⟩,
      _, ⟨rest', hrest', rfl⟩, _, rfl, _, ⟨title, rest'', hrest'', htitle, hcount, rfl⟩,
      _, ⟨_, _, hopened', rfl⟩, _, ⟨hstop, rfl⟩, rfl⟩, rfl⟩
    -- Both parentheses are closed by their own partners, so they capture what was taken between.
    cases hopened
    cases hopened'
    simp only [State.take, List.nil_append] at hrest hrest' hrest'' hstop ⊢
    have hlength : 0 < title.length := hcount
    refine ⟨identifier, title, hidentifier, List.ne_nil_of_length_pos hlength,
      fun hline => htitle _ hline rfl, ?_, ?_⟩
    · rw [hrest, hrest', hrest'', hstop, List.append_nil]
    · simp
  · rintro ⟨identifier, title, hidentifier, hne, hline, rfl, rfl⟩
    refine ⟨_, ⟨_, rfl, _, ⟨identifier, '_' :: title, hidentifier, rfl, rfl⟩, _, ⟨_, _, rfl, rfl⟩,
      _, ⟨title, rfl, rfl⟩, _, rfl, _, ⟨title, [], (List.append_nil title).symm, ?_,
      List.length_pos_iff.mpr hne, rfl⟩, _, ⟨_, _, rfl, rfl⟩, _, ⟨rfl, rfl⟩, rfl⟩, ?_⟩
    · rintro a ha rfl
      exact hline ha
    · simp [State.take]

theorem finds_documentNamePattern_iff {name : List Char} :
    Finds c.documentNamePattern name [] ↔ ∃ identifier body, c.IsIdentifier identifier ∧
      '\n' ∉ body ∧ name = identifier ++ (body ++ ".md".toList) := by
  rw [Pattern.finds_iff_of_start (parse?_documentNamePattern c)]
  simp only [Steps, Pattern.steps_append, steps_identifierItems, Pattern.steps_literalItems]
  constructor
  · rintro ⟨_, ⟨_, ⟨identifier, rest, hidentifier, hrest, rfl⟩, _,
      ⟨body, rest', hrest', hbody, -, rfl⟩, _, ⟨rest'', hrest'', rfl⟩, _, ⟨hstop, rfl⟩, rfl⟩, -⟩
    simp only [State.take] at hrest hrest' hrest'' hstop
    refine ⟨identifier, body, hidentifier, fun hline => hbody _ hline rfl, ?_⟩
    rw [hrest, hrest', hrest'', hstop, List.append_nil]
  · rintro ⟨identifier, body, hidentifier, hline, rfl⟩
    refine ⟨_, ⟨_, ⟨identifier, _, hidentifier, rfl, rfl⟩, _,
      ⟨body, ".md".toList, rfl, ?_, Nat.zero_le _, rfl⟩, _,
      ⟨[], (List.append_nil _).symm, rfl⟩, _, ⟨rfl, rfl⟩, rfl⟩, rfl⟩
    rintro a ha rfl
    exact hline ha

/-! ### What the library asks -/

theorem startsWithIdentifier_iff {value : String} :
    c.startsWithIdentifier value = true ↔
      ∃ identifier rest, c.IsIdentifier identifier ∧ value.toList = identifier ++ rest := by
  unfold startsWithIdentifier
  rw [Option.isSome_iff_exists, Prod.exists]
  simp only [splitIdentifier?_eq_some_iff]

theorem isDocumentTail_iff {r : List Char} :
    isDocumentTail r = true ↔ ∃ body, '\n' ∉ body ∧ r = body ++ ".md".toList := by
  unfold isDocumentTail
  simp only [Bool.and_eq_true, beq_iff_eq]
  constructor
  · rintro ⟨hend, hbody⟩
    refine ⟨r.take (r.length - 3), fun hline => ?_, ?_⟩
    · simpa using List.all_eq_true.mp hbody _ hline
    · rw [← hend, List.take_append_drop]
  · rintro ⟨body, hline, rfl⟩
    have hlength : (body ++ ".md".toList).length - 3 = body.length := by simp
    rw [hlength, List.drop_left, List.take_left]
    refine ⟨rfl, List.all_eq_true.mpr fun a ha => ?_⟩
    rw [bne_iff_ne]
    rintro rfl
    exact hline ha

theorem isDocumentName_iff {name : String} :
    c.isDocumentName name = true ↔ ∃ identifier body, c.IsIdentifier identifier ∧
      '\n' ∉ body ∧ name.toList = identifier ++ (body ++ ".md".toList) := by
  have hsplit : c.isDocumentName name = true ↔ ∃ identifier r,
      c.splitIdentifier? name.toList = some (identifier, r) ∧ isDocumentTail r = true := by
    unfold isDocumentName
    cases c.splitIdentifier? name.toList with
    | none => simp
    | some parts =>
      obtain ⟨identifier, r⟩ := parts
      simp only [Option.some.injEq, Prod.mk.injEq]
      exact ⟨fun htail => ⟨identifier, r, ⟨rfl, rfl⟩, htail⟩,
        fun ⟨_, _, ⟨_, hr⟩, htail⟩ => hr ▸ htail⟩
  simp only [hsplit, splitIdentifier?_eq_some_iff, isDocumentTail_iff]
  constructor
  · rintro ⟨identifier, _, ⟨hidentifier, hname⟩, body, hline, rfl⟩
    exact ⟨identifier, body, hidentifier, hline, hname⟩
  · rintro ⟨identifier, body, hidentifier, hline, hname⟩
    exact ⟨identifier, _, ⟨hidentifier, hname⟩, body, hline, rfl⟩

theorem splitFileName?_eq_some_iff {p : Path} {identifier title : String} :
    c.splitFileName? p = some (identifier, title) ↔ ∃ stem, p.fileStem? = some stem ∧
      c.IsIdentifier identifier.toList ∧ title ≠ "" ∧ '\n' ∉ title.toList ∧
      stem = identifier ++ "_" ++ title := by
  unfold splitFileName?
  simp only [Option.bind_eq_some_iff, Option.map_eq_some_iff, Prod.exists, Prod.mk.injEq,
    splitStem?_eq_some_iff]
  have htitle : ∀ s : List Char, String.ofList s ≠ "" ↔ s ≠ [] := by
    intro s
    rw [Ne, ← String.toList_inj, String.toList_ofList, String.toList_empty]
  constructor
  · rintro ⟨stem, hstem, i, t, ⟨hidentifier, hne, hline, hsplit⟩, rfl, rfl⟩
    simp only [String.toList_ofList]
    refine ⟨stem, hstem, hidentifier, (htitle t).mpr hne, hline, ?_⟩
    apply String.toList_injective
    rw [hsplit]
    simp
  · rintro ⟨_, hstem, hidentifier, hne, hline, rfl⟩
    refine ⟨_, hstem, identifier.toList, title.toList, ⟨hidentifier, ?_, hline, ?_⟩,
      String.ofList_toList, String.ofList_toList⟩
    · rw [← htitle, String.ofList_toList]
      exact hne
    · simp

/-- The name of a document file with an identifier is the identifier, an underscore, the title
and the extension. -/
theorem toList_name_of_splitFileName {p : Path} {name identifier title : String}
    (hsplit : c.splitFileName? p = some (identifier, title)) (hname : p.fileName? = some name)
    (hextension : ".md".toList <:+ name.toList) :
    name.toList = identifier.toList ++ ('_' :: title.toList ++ ".md".toList) := by
  obtain ⟨stem, hstem, hidentifier, -, -, rfl⟩ := splitFileName?_eq_some_iff.mp hsplit
  rw [Path.fileStem?, hname, Option.map_some, Option.some.injEq] at hstem
  replace hstem := congrArg String.toList hstem
  rw [String.toList_ofList] at hstem
  obtain ⟨start, hstart⟩ := hextension
  rw [← hstart] at hstem ⊢
  by_cases hnil : start = []
  · -- The name would be its own stem, and it is too short for an identifier.
    have hself : Path.stemOf ([] ++ ".md".toList) = ".md".toList := rfl
    have hlength := congrArg List.length hstem
    rw [hnil, hself] at hlength
    have hfour := hidentifier.length_eq
    simp only [String.toList_append, List.length_append] at hlength
    have hthree : ".md".toList.length = 3 := rfl
    omega
  · have hmark : ".md".toList = '.' :: ['m', 'd'] := rfl
    rw [hmark, Path.stemOf_append hnil (by decide)] at hstem
    rw [hstem]
    simp

/-- **All patterns of names ask for the same identifiers**, whatever characters the fixed start
has: they find just the texts that the library takes, a file has an identifier and a title if
its stem is these with an underscore between, it is found as a document if its name ends in
`.md`, and its identifier is accepted in the metadata. -/
theorem naming_patterns_agree (c : Conventions) :
    ((∀ value, c.startsWithIdentifier value = true ↔ Finds c.identifierPattern value.toList []) ∧
      (∀ stem identifier title, c.splitStem? stem = some (identifier, title) ↔
        Finds c.fileStemPattern stem [identifier, title]) ∧
      (∀ name, c.isDocumentName name = true ↔ Finds c.documentNamePattern name.toList [])) ∧
    (∀ p identifier title, c.splitFileName? p = some (identifier, title) ↔
      ∃ stem, p.fileStem? = some stem ∧ c.IsIdentifier identifier.toList ∧ title ≠ "" ∧
        '\n' ∉ title.toList ∧ stem = identifier ++ "_" ++ title) ∧
    (∀ p parts name, c.splitFileName? p = some parts → p.fileName? = some name →
      ".md".toList <:+ name.toList → ∀ finder : Files.Finder,
        finder.conventions.identifierPrefix = c.identifierPrefix →
          finder.isDocument p = true) ∧
    (∀ value, c.startsWithIdentifier value = true ↔
      ∃ identifier rest, c.IsIdentifier identifier ∧ value.toList = identifier ++ rest) ∧
    (∀ p identifier, c.fileIdentifier? p = some identifier →
      c.startsWithIdentifier identifier = true ∧
        Lint.metadataValue c Metadata.identifierKey identifier = []) := by
  refine ⟨⟨fun value => ?_, fun stem identifier title => ?_, fun name => ?_⟩,
    fun p identifier title => splitFileName?_eq_some_iff,
    fun p parts name hsplit hname hextension finder hpattern => ?_,
    fun value => startsWithIdentifier_iff, fun p identifier hp => ?_⟩
  · rw [startsWithIdentifier_iff, finds_identifierPattern_iff]
  · rw [splitStem?_eq_some_iff, finds_fileStemPattern_iff]
    constructor
    · rintro ⟨hidentifier, hne, hline, hstem⟩
      exact ⟨identifier, title, hidentifier, hne, hline, hstem, rfl⟩
    · rintro ⟨_, _, hidentifier, hne, hline, hstem, hcaptured⟩
      cases hcaptured
      exact ⟨hidentifier, hne, hline, hstem⟩
  · rw [isDocumentName_iff, finds_documentNamePattern_iff]
  · obtain ⟨identifier, title⟩ := parts
    obtain ⟨stem, -, ⟨digits, hlength, hdigits, hidentifier⟩, -, hline, -⟩ :=
      splitFileName?_eq_some_iff.mp hsplit
    unfold Files.Finder.isDocument
    simp only [hname]
    refine isDocumentName_iff.mpr ⟨identifier.toList, '_' :: title.toList,
      ⟨digits, hlength, hdigits, by rw [hpattern]; exact hidentifier⟩, ?_,
      toList_name_of_splitFileName hsplit hname hextension⟩
    rintro (_ | ⟨_, hmem⟩)
    exact hline hmem
  · obtain ⟨hidentifier, -⟩ := exists_name_of_fileIdentifier hp
    have hstarts : c.startsWithIdentifier identifier = true :=
      startsWithIdentifier_iff.mpr ⟨identifier.toList, [], hidentifier, (List.append_nil _).symm⟩
    refine ⟨hstarts, ?_⟩
    unfold Lint.metadataValue
    rw [if_pos rfl, if_pos hstarts]

/-- Conventions whose identifiers start with characters that have meanings of their own. -/
def markedConventions : Conventions := { (Conventions.ofConfig .standard) with
  identifierPrefix := "A.B+(" }

/-- The digits may be those of any script. -/
theorem naming_patterns_agree_marks :
    markedConventions.splitFileName? ⟨"sops/A.B+(٠٠٠١_access.md"⟩ = some ("A.B+(٠٠٠١", "access") ∧
    (⟨markedConventions, []⟩ : Files.Finder).isDocument ⟨"sops/A.B+(٠٠٠١_access.md"⟩ = true ∧
    markedConventions.startsWithIdentifier "A.B+(٠٠٠١" = true ∧
    Lint.metadataValue markedConventions Metadata.identifierKey "A.B+(٠٠٠١" = [] ∧
    ¬ Finds markedConventions.identifierPattern "AxBB(0001".toList [] := by
  obtain ⟨⟨hvalue, -, -⟩, -, hdocument, -, hidentifier⟩ :=
    naming_patterns_agree markedConventions
  have hsplit : markedConventions.splitFileName? ⟨"sops/A.B+(٠٠٠١_access.md"⟩ =
      some ("A.B+(٠٠٠١", "access") := by decide +kernel
  have hname : Path.fileName? ⟨"sops/A.B+(٠٠٠١_access.md"⟩ = some "A.B+(٠٠٠١_access.md" := by
    decide +kernel
  have hextension : ".md".toList <:+ "A.B+(٠٠٠١_access.md".toList := by decide +kernel
  have hfound : markedConventions.fileIdentifier? ⟨"sops/A.B+(٠٠٠١_access.md"⟩ =
      some "A.B+(٠٠٠١" := by
    rw [fileIdentifier?, hsplit, Option.map_some]
  obtain ⟨hstarts, haccepted⟩ := hidentifier _ _ hfound
  refine ⟨hsplit, hdocument _ _ _ hsplit hname hextension ⟨markedConventions, []⟩ rfl, hstarts,
    haccepted, ?_⟩
  rw [← hvalue]
  decide +kernel

end Conventions

end SopDocs
