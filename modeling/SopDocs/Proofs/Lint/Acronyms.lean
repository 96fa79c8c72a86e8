import SopDocs.Proofs.Lint.Terms
import SopDocs.Proofs.Occurrences
import SopDocs.Proofs.Text.Word

/-!
# Undefined acronyms are told completely and once

An acronym is a whole word of a text run. The acronyms of a document are listed with their places:
the number of the run and the position in it. The list runs from place to place, so that what is
kept of it, each acronym where it is first, is in the order of the first places.
-/

namespace SopDocs.Lint

open SopDocs.Tree

/-! ### The shape of an acronym -/

/-- At least two capital letters of ASCII, with or without an `s` behind them. -/
def IsAcronym (word : List Char) : Prop :=
  ∃ capitals, 2 ≤ capitals.length ∧ (∀ c ∈ capitals, 'A' ≤ c ∧ c ≤ 'Z') ∧
    (word = capitals ∨ word = capitals ++ ['s'])

/-- A glossary has a term or the term without a final `s`. -/
def Defines (glossary : Glossary) (term : String) : Prop :=
  term ∈ glossary.terms ∨ ∃ singular ∈ glossary.terms, term = singular ++ "s"

theorem isCapitals_iff {s : List Char} :
    isCapitals s = true ↔ 2 ≤ s.length ∧ ∀ c ∈ s, 'A' ≤ c ∧ c ≤ 'Z' := by
  unfold isCapitals
  simp only [Bool.and_eq_true, decide_eq_true_eq, List.all_eq_true, Text.isUpper_iff]

theorem singular?_eq_some_iff {s r : List Char} : singular? s = some r ↔ s = r ++ ['s'] := by
  unfold singular?
  split
  · next r' hreverse =>
    have hs : s = r'.reverse ++ ['s'] := by
      rw [← List.reverse_reverse s, hreverse, List.reverse_cons]
    rw [hs, Option.some.injEq, List.append_cancel_right_eq]
  · next hreverse =>
    refine ⟨nofun, ?_⟩
    rintro rfl
    exact absurd (List.reverse_concat ..) (hreverse r.reverse)

theorem isAcronym_iff {word : List Char} : isAcronym word = true ↔ IsAcronym word := by
  unfold isAcronym IsAcronym
  rw [Bool.or_eq_true, isCapitals_iff]
  constructor
  · rintro (⟨hlength, hall⟩ | hsingular)
    · exact ⟨word, hlength, hall, Or.inl rfl⟩
    · cases hword : singular? word with
      | none => simp [hword] at hsingular
      | some capitals =>
        rw [hword] at hsingular
        obtain ⟨hlength, hall⟩ := isCapitals_iff.mp hsingular
        exact ⟨capitals, hlength, hall, Or.inr (singular?_eq_some_iff.mp hword)⟩
  · rintro ⟨capitals, hlength, hall, rfl | rfl⟩
    · exact Or.inl ⟨hlength, hall⟩
    · right
      rw [singular?_eq_some_iff.mpr rfl]
      exact isCapitals_iff.mpr ⟨hlength, hall⟩

theorem isDefined_iff {glossary : Glossary} {term : String} :
    isDefined glossary term = true ↔ Defines glossary term := by
  unfold isDefined Defines
  rw [Bool.or_eq_true, Glossary.contains_iff]
  apply or_congr_right
  constructor
  · intro hsingular
    cases hterm : singular? term.toList with
    | none => simp [hterm] at hsingular
    | some r =>
      rw [hterm] at hsingular
      refine ⟨String.ofList r, Glossary.contains_iff.mp hsingular, String.toList_injective ?_⟩
      rw [singular?_eq_some_iff.mp hterm, String.toList_append, String.toList_ofList]
      rfl
  · rintro ⟨singular, hsingular, rfl⟩
    have hr : singular? (singular ++ "s").toList = some singular.toList :=
      singular?_eq_some_iff.mpr (String.toList_append ..)
    rw [hr]
    show glossary.contains (String.ofList singular.toList) = true
    rw [String.ofList_toList]
    exact Glossary.contains_iff.mpr hsingular

instance (word : List Char) : Decidable (IsAcronym word) := decidable_of_iff _ isAcronym_iff

instance (glossary : Glossary) (term : String) : Decidable (Defines glossary term) :=
  decidable_of_iff _ isDefined_iff

/-! ### Places -/

/-- A word stands in the text run of a number, at a position of its text. -/
def StandsAt (root : Node) (word : String) (place : Nat × Nat) : Prop :=
  ∃ run text, (root.findAll .str)[place.1]? = some run ∧ run.value = some text ∧
    Text.WordAt text.toList place.2 word.toList

/-- In an earlier run or earlier in the same run. -/
def Before (p q : Nat × Nat) : Prop := p.1 < q.1 ∨ p.1 = q.1 ∧ p.2 < q.2

/-- The acronyms of a text, each at its place in the run of a number. -/
def placedAcronyms (number : Nat) (text : String) : List ((Nat × Nat) × String) :=
  (List.range text.toList.length).filterMap fun start =>
    ((Text.wordFrom? text.toList start).filter isAcronym).map fun word =>
      ((number, start), String.ofList word)

/-- The acronyms of a document with their places. -/
def placedDocumentAcronyms (root : Node) : List ((Nat × Nat) × String) :=
  (root.findAll .str).zipIdx.flatMap fun run => placedAcronyms run.2 (run.1.value.getD "")

theorem map_snd_placedAcronyms (number : Nat) (text : String) :
    (placedAcronyms number text).map (·.2) = acronyms text := by
  unfold placedAcronyms acronyms
  rw [Text.words_eq_filterMap, List.filter_filterMap, List.map_filterMap, List.map_filterMap]
  congr 1
  funext start
  rw [Option.map_map]
  rfl

theorem map_snd_placedDocumentAcronyms (root : Node) :
    (placedDocumentAcronyms root).map (·.2) = documentAcronyms root := by
  unfold placedDocumentAcronyms documentAcronyms
  have hruns : (root.findAll .str).zipIdx.map Prod.fst = root.findAll .str :=
    List.zipIdx_map_fst ..
  have hscan := List.flatMap_map Prod.fst (fun run : Node => acronyms (run.value.getD ""))
    (root.findAll .str).zipIdx
  rw [hruns] at hscan
  rw [List.map_flatMap, hscan]
  simp only [map_snd_placedAcronyms]

theorem mem_placedAcronyms_iff {number : Nat} {text word : String} {place : Nat × Nat} :
    (place, word) ∈ placedAcronyms number text ↔
      place.1 = number ∧ Text.WordAt text.toList place.2 word.toList ∧ IsAcronym word.toList := by
  obtain ⟨k, start⟩ := place
  unfold placedAcronyms
  simp only [List.mem_filterMap, List.mem_range, Option.map_eq_some_iff, Option.filter_eq_some_iff,
    Text.wordFrom?_eq_some_iff, isAcronym_iff, Prod.mk.injEq]
  constructor
  · rintro ⟨start, -, word, ⟨hword, hshape⟩, ⟨rfl, rfl⟩, rfl⟩
    rw [String.toList_ofList]
    exact ⟨rfl, hword, hshape⟩
  · rintro ⟨rfl, hword, hshape⟩
    exact ⟨start, hword.lt_length, word.toList, ⟨hword, hshape⟩, ⟨rfl, rfl⟩, String.ofList_toList⟩

theorem mem_placedDocumentAcronyms_iff {root : Node} {word : String} {place : Nat × Nat} :
    (place, word) ∈ placedDocumentAcronyms root ↔
      StandsAt root word place ∧ IsAcronym word.toList := by
  unfold placedDocumentAcronyms StandsAt
  simp only [List.mem_flatMap, mem_placedAcronyms_iff, Prod.exists, List.mem_zipIdx_iff_getElem?]
  constructor
  · rintro ⟨run, number, hrun, rfl, hword, hshape⟩
    cases hvalue : run.value with
    | none =>
      rw [hvalue] at hword
      exact absurd hword.lt_length (Nat.not_lt_zero _)
    | some text =>
      rw [hvalue] at hword
      exact ⟨⟨run, text, hrun, hvalue, hword⟩, hshape⟩
  · rintro ⟨⟨run, text, hrun, hvalue, hword⟩, hshape⟩
    refine ⟨run, place.1, hrun, rfl, ?_, hshape⟩
    rw [hvalue]
    exact hword

theorem pairwise_placedAcronyms (number : Nat) (text : String) :
    (placedAcronyms number text).Pairwise fun p q => Before p.1 q.1 := by
  apply List.Pairwise.filterMap _ _ List.pairwise_lt_range
  intro start later hlt p hp q hq
  obtain ⟨-, -, rfl⟩ := Option.map_eq_some_iff.mp hp
  obtain ⟨-, -, rfl⟩ := Option.map_eq_some_iff.mp hq
  exact Or.inr ⟨rfl, hlt⟩

theorem pairwise_placedDocumentAcronyms (root : Node) :
    (placedDocumentAcronyms root).Pairwise fun p q => Before p.1 q.1 := by
  have hnumbers : (root.findAll .str).zipIdx.Pairwise fun r s => r.2 < s.2 := by
    apply List.pairwise_map.mp
    rw [List.zipIdx_map_snd]
    exact List.pairwise_lt_range'
  refine List.pairwise_flatMap.mpr ⟨fun run _ => pairwise_placedAcronyms .., ?_⟩
  apply hnumbers.imp
  rintro r s hlt ⟨p, word⟩ hp ⟨q, word'⟩ hq
  obtain ⟨hp, -⟩ := mem_placedAcronyms_iff.mp hp
  obtain ⟨hq, -⟩ := mem_placedAcronyms_iff.mp hq
  left
  rw [hp, hq]
  exact hlt

/-! ### What is told -/

/-- The acronyms of a document that a glossary does not define, each once. -/
def undefinedTokens (root : Node) (glossary : Glossary) : List String :=
  (firstOccurrences (documentAcronyms root)).filter (! isDefined glossary ·)

variable {root : Node} {glossary charter : Glossary}

theorem mem_documentAcronyms_iff {token : String} :
    token ∈ documentAcronyms root ↔
      (∃ place, StandsAt root token place) ∧ IsAcronym token.toList := by
  rw [← map_snd_placedDocumentAcronyms, List.mem_map]
  constructor
  · rintro ⟨⟨place, token⟩, hplaced, rfl⟩
    obtain ⟨hplace, hshape⟩ := mem_placedDocumentAcronyms_iff.mp hplaced
    exact ⟨⟨place, hplace⟩, hshape⟩
  · rintro ⟨⟨place, hplace⟩, hshape⟩
    exact ⟨(place, token), mem_placedDocumentAcronyms_iff.mpr ⟨hplace, hshape⟩, rfl⟩

theorem mem_undefinedTokens_iff {token : String} :
    token ∈ undefinedTokens root glossary ↔
      (∃ place, StandsAt root token place) ∧ IsAcronym token.toList ∧ ¬ Defines glossary token := by
  unfold undefinedTokens
  rw [List.mem_filter, mem_firstOccurrences_iff, mem_documentAcronyms_iff, ← isDefined_iff,
    Bool.not_eq_true', Bool.not_eq_true, and_assoc]

theorem nodup_undefinedTokens (root : Node) (glossary : Glossary) :
    (undefinedTokens root glossary).Nodup :=
  (nodup_firstOccurrences _).filter _

theorem pairwise_undefinedTokens (root : Node) (glossary : Glossary) :
    (undefinedTokens root glossary).Pairwise fun a b =>
      ∃ place, StandsAt root a place ∧ ∀ other, StandsAt root b other → Before place other := by
  have hfirst := pairwise_firstOccurrences (pairwise_placedDocumentAcronyms root)
  rw [map_snd_placedDocumentAcronyms] at hfirst
  apply List.Pairwise.imp_of_mem _ (hfirst.filter _)
  rintro a b - hb ⟨place, hplace, hlater⟩
  obtain ⟨-, hshape, -⟩ := mem_undefinedTokens_iff.mp hb
  refine ⟨place, (mem_placedDocumentAcronyms_iff.mp hplace).1, fun other hother => ?_⟩
  exact hlater other (mem_placedDocumentAcronyms_iff.mpr ⟨hother, hshape⟩)

theorem ofProblems_strayAcronyms (root : Node) (glossary : Glossary) (strict : Bool) :
    Findings.ofProblems strict (strayAcronyms root glossary) =
      let messages := (undefinedTokens root glossary).map fun token =>
        s!"Acronym '{token}' is not defined in the glossary."
      if strict then ⟨messages, []⟩ else ⟨[], messages⟩ := by
  have hwarnings : ∀ p ∈ strayAcronyms root glossary, p.isError = false :=
    List.forall_mem_map.mpr fun _ _ => rfl
  have hmessages : (strayAcronyms root glossary).map Problem.message =
      (undefinedTokens root glossary).map fun token =>
        s!"Acronym '{token}' is not defined in the glossary." := List.map_map
  rw [Findings.ofProblems_of_not_isError hwarnings, hmessages]

theorem undefinedTokens_of_silent {strict : Bool}
    (h : (Findings.ofProblems strict (strayAcronyms root glossary)).isEmpty = true) :
    undefinedTokens root glossary = [] :=
  List.map_eq_nil_iff.mp ((Findings.isEmpty_ofProblems strict _).mp h)

/-- What a glossary defines is defined in any that has all its terms. -/
theorem Defines.mono {term : String} (h : Defines glossary term)
    (hterms : ∀ term ∈ glossary.terms, term ∈ charter.terms) : Defines charter term := by
  rcases h with hterm | ⟨singular, hsingular, hterm⟩
  · exact Or.inl (hterms term hterm)
  · exact Or.inr ⟨singular, hterms singular hsingular, hterm⟩

/-- **Undefined acronyms are told completely and once**: exactly the whole words of text runs that
are acronyms and not defined, each once, in the order of the places where they are first. So if the
charter has all terms of the glossary and nothing is told, the charter defines all acronyms. -/
theorem undefinedAcronyms_reported (root : Node) (glossary charter : Glossary) :
    (∃ tokens : List String,
      (∀ strict, Findings.ofProblems strict (strayAcronyms root glossary) =
        let messages := tokens.map fun token =>
          s!"Acronym '{token}' is not defined in the glossary."
        if strict then ⟨messages, []⟩ else ⟨[], messages⟩) ∧
      (∀ token, token ∈ tokens ↔ (∃ place, StandsAt root token place) ∧ IsAcronym token.toList ∧
        ¬ Defines glossary token) ∧
      tokens.Nodup ∧
      tokens.Pairwise fun a b =>
        ∃ place, StandsAt root a place ∧ ∀ other, StandsAt root b other → Before place other) ∧
    (∀ strict, (Findings.ofProblems strict (strayTerms glossary charter)).isEmpty = true →
      (Findings.ofProblems strict (strayAcronyms root glossary)).isEmpty = true →
      ∀ token place, StandsAt root token place → IsAcronym token.toList →
        Defines charter token) ∧
    ∀ ctx strict,
      Rule.undefinedAcronyms.check ctx strict .empty =
        Findings.ofProblems strict (strayAcronyms ctx.root ctx.glossary) ∧
      Rule.charterGlossary.check ctx strict .empty =
        Findings.ofProblems strict (strayTerms ctx.glossary ctx.charter) := by
  refine ⟨⟨undefinedTokens root glossary, ofProblems_strayAcronyms root glossary,
    fun _ => mem_undefinedTokens_iff, nodup_undefinedTokens root glossary,
    pairwise_undefinedTokens root glossary⟩, ?_, fun _ _ => ⟨rfl, rfl⟩⟩
  intro strict hterms hsilent token place hplace hshape
  have hdefined : Defines glossary token := by
    apply Decidable.byContradiction
    intro hnot
    have hmem := mem_undefinedTokens_iff.mpr ⟨⟨place, hplace⟩, hshape, hnot⟩
    rw [undefinedTokens_of_silent hsilent] at hmem
    cases hmem
  exact hdefined.mono (isEmpty_strayTerms_iff.mp hterms)

/-- Two text runs; a word that goes on behind its capitals is none of the acronyms. -/
def twoRuns : Node :=
  let run := fun text => (⟨.str, ⟨0, 0⟩, some text, .none, []⟩ : Node)
  ⟨.document, ⟨0, 0⟩, none, .none, [
    ⟨.paragraph, ⟨0, 0⟩, none, .none, [
      run "GDIs use the ETL-tool, not DNA2 or xDNA. ",
      ⟨.emphasis, ⟨0, 0⟩, none, .none, [run "DNA by ETLs and ETL"]⟩]⟩]⟩

def ownTerms : Glossary := .ofTerms ["GDI", "ETL", "DNA"]

def charterTerms : Glossary := .ofTerms ["ABC", "DNA", "ETL", "GDI"]

example : undefinedTokens twoRuns (.ofTerms ["GDI"]) = ["ETL", "DNA", "ETLs"] := by
  decide +kernel

theorem undefinedAcronyms_reported_twoRuns :
    (Findings.ofProblems false (strayTerms ownTerms charterTerms)).isEmpty = true ∧
    (Findings.ofProblems false (strayAcronyms twoRuns ownTerms)).isEmpty = true ∧
    StandsAt twoRuns "ETLs" (1, 7) ∧ Defines charterTerms "ETLs" := by
  have hterms : (Findings.ofProblems false (strayTerms ownTerms charterTerms)).isEmpty = true := by
    decide +kernel
  have hsilent : (Findings.ofProblems false (strayAcronyms twoRuns ownTerms)).isEmpty = true := by
    decide +kernel
  have hplaced : ((1, 7), "ETLs") ∈ placedDocumentAcronyms twoRuns := by decide +kernel
  obtain ⟨hplace, hshape⟩ := mem_placedDocumentAcronyms_iff.mp hplaced
  obtain ⟨-, hdefines, -⟩ := undefinedAcronyms_reported twoRuns ownTerms charterTerms
  exact ⟨hterms, hsilent, hplace, hdefines false hterms hsilent "ETLs" (1, 7) hplace hshape⟩

end SopDocs.Lint
