import SopDocs.Proofs.Lint.References
import SopDocs.Proofs.Markdown.Label
import SopDocs.Proofs.Path
import SopDocs.Proofs.VersionText

/-!
# A host is told by whole labels

A host counts as designated if it is a designated one or ends with a dot and a designated one. This
is a matter of labels: the last labels of the host are those of the designated one. So a name that
ends like a designated one within a label belongs to somebody else, and is not looked up.
-/

namespace SopDocs

namespace Text

theorem pieces_inj {cut : Char} {s t : List Char} (h : pieces (· == cut) s = pieces (· == cut) t) :
    s = t := by
  rw [pieces_eq_splitOnP, pieces_eq_splitOnP] at h
  have hs : [cut].intercalate (s.splitOn cut) = s := List.intercalate_splitOn cut
  have ht : [cut].intercalate (t.splitOn cut) = t := List.intercalate_splitOn cut
  rw [← hs, ← ht]
  exact congrArg _ h

theorem pieces_map (cut : Char → Bool) (f : Char → Char) (s : List Char) :
    pieces cut (s.map f) = (pieces (fun c => cut (f c)) s).map (List.map f) := by
  induction s with
  | nil => rfl
  | cons c s ih =>
    rw [List.map_cons, pieces, pieces, ih]
    by_cases hc : cut (f c) = true
    · rw [if_pos hc, if_pos hc]
      rfl
    · rw [if_neg hc, if_neg hc]
      cases pieces (fun c => cut (f c)) s <;> rfl

/-- The last pieces of a text are those of another one if it is that one or stands behind a cut. -/
theorem pieces_suffix_iff {cut : Char} {s t : List Char} :
    pieces (· == cut) s <:+ pieces (· == cut) t ↔ t = s ∨ cut :: s <:+ t := by
  have hcut : ∀ before after : List Char, pieces (· == cut) (before ++ cut :: after) =
      pieces (· == cut) before ++ pieces (· == cut) after := pieces_append_cut (by simp)
  constructor
  · intro h
    -- The induction is on what stands behind the first piece of the text.
    induction t using @cut_induction (· == cut) with
    | uncut t ht =>
      have hone : pieces (· == cut) t = [t] := pieces_of_uncut ht
      rw [hone] at h
      rcases List.suffix_cons_iff.mp h with hall | hnone
      · exact .inl (pieces_inj (hone.trans hall.symm))
      · exact absurd (List.suffix_nil.mp hnone) (pieces_ne_nil _ s)
    | append_cut before c t hbefore hc ih =>
      obtain rfl : c = cut := by simpa using hc
      rw [hcut, pieces_of_uncut hbefore, List.singleton_append] at h
      rcases List.suffix_cons_iff.mp h with hall | hrest
      · have hpieces : pieces (· == c) (before ++ c :: t) = pieces (· == c) s := by
          rw [hall, hcut, pieces_of_uncut hbefore, List.singleton_append]
        exact .inl (pieces_inj hpieces)
      · refine .inr ?_
        rcases ih hrest with rfl | hbelow
        · exact List.suffix_append _ _
        · exact (hbelow.trans (List.suffix_cons _ _)).trans (List.suffix_append _ _)
  · rintro (rfl | ⟨before, rfl⟩)
    · exact List.suffix_rfl
    · rw [hcut]
      exact List.suffix_append _ _

end Text

namespace Reference

/-- A name with ASCII letters in lower case. -/
def asciiLower (name : List Char) : List Char := name.map Char.toLower

/-- What stands between the dots of a host name. -/
def labels (host : List Char) : List (List Char) := host.splitOn '.'

/-- Whether a host is a designated one or below it: up to the case of ASCII letters its last labels
are those of the designated one. -/
def IsWithin (host designated : List Char) : Prop :=
  (labels designated).map asciiLower <:+ (labels host).map asciiLower

/-- Whether a host ends with a designated one that begins inside a label of it. -/
def EndsInLabel (host designated : List Char) : Prop :=
  ∃ front c, c ≠ '.' ∧ asciiLower host = front ++ c :: asciiLower designated

theorem labels_eq_pieces (host : List Char) : labels host = Text.pieces (· == '.') host :=
  (Text.pieces_eq_splitOnP _ host).symm

theorem toLower_beq_dot (c : Char) : (c.toLower == '.') = (c == '.') := by
  by_cases hc : c = '.'
  · rw [hc]
    rfl
  · have hlower : c.toLower ≠ '.' := fun h => hc (Markdown.eq_dot_of_toLower h)
    rw [beq_eq_false_iff_ne.mpr hc, beq_eq_false_iff_ne.mpr hlower]

/-- Lower case moves no dot. -/
theorem map_asciiLower_labels (host : List Char) :
    (labels host).map asciiLower = Text.pieces (· == '.') (asciiLower host) := by
  unfold asciiLower
  rw [labels_eq_pieces, Text.pieces_map]
  simp only [toLower_beq_dot]

theorem isWithin_iff {host designated : List Char} :
    IsWithin host designated ↔ asciiLower host = asciiLower designated ∨
      '.' :: asciiLower designated <:+ asciiLower host := by
  unfold IsWithin
  rw [map_asciiLower_labels, map_asciiLower_labels, Text.pieces_suffix_iff]

theorem isDesignatedBy_iff {host designated : String} :
    isDesignatedBy host designated = true ↔ IsWithin host.toList designated.toList := by
  rw [isWithin_iff, isDesignatedBy, Bool.or_eq_true, List.isSuffixOf_iff_suffix]
  exact or_congr beq_iff_eq Iff.rfl

theorem suffix_of_isWithin {host designated : List Char} (h : IsWithin host designated) :
    asciiLower designated <:+ asciiLower host := by
  rcases isWithin_iff.mp h with heq | hbelow
  · exact heq ▸ List.suffix_rfl
  · exact (List.suffix_cons _ _).trans hbelow

/-- A host that ends with a name inside a label is not below it. -/
theorem not_isWithin_of_endsInLabel {host designated : List Char}
    (h : EndsInLabel host designated) : ¬ IsWithin host designated := by
  obtain ⟨front, c, hc, hhost⟩ := h
  rw [isWithin_iff, hhost]
  rintro (heq | ⟨before, heq⟩)
  · have hlength := congrArg List.length heq
    simp at hlength
    omega
  · obtain ⟨-, hdot⟩ := List.append_inj' heq rfl
    exact hc (List.cons.inj hdot).1.symm

/-! ### The part that names a file -/

/-- The longest start of a target in front of any fragment or query. -/
structure IsFilePart (url part : String) : Prop where
  starts : part.toList <+: url.toList
  unmarked : ∀ c ∈ part.toList, c ≠ '#' ∧ c ≠ '?'
  longest : ∀ start : List Char, start <+: url.toList → (∀ c ∈ start, c ≠ '#' ∧ c ≠ '?') →
    start <+: part.toList

theorem isFilePart_filePart (url : String) : IsFilePart url (filePart url) where
  starts := by
    rw [filePart, String.toList_ofList]
    exact List.takeWhile_prefix _
  unmarked := by
    rw [filePart, String.toList_ofList]
    intro c hc
    simpa using List.mem_takeWhile_imp hc
  longest := by
    rintro start ⟨rest, hurl⟩ hstart
    rw [filePart, String.toList_ofList, ← hurl,
      List.takeWhile_append_of_pos (by simpa using hstart)]
    exact List.prefix_append _ _

theorem isFilePart_iff {url part : String} : IsFilePart url part ↔ part = filePart url := by
  constructor
  · intro h
    have hfile := isFilePart_filePart url
    have hle := (hfile.longest _ h.starts h.unmarked)
    have hge := h.longest _ hfile.starts hfile.unmarked
    exact String.toList_injective (hle.eq_of_length_le hge.length_le)
  · rintro rfl
    exact isFilePart_filePart url

/-! ### Targets -/

/-- Whether a target is meant from the document. -/
def StartsHere (url : String) : Prop := "./".toList <+: url.toList ∨ "../".toList <+: url.toList

theorem isRelative_iff {url : String} : isRelative url = true ↔ StartsHere url := by
  rw [isRelative, Bool.or_eq_true]
  exact or_congr List.isPrefixOf_iff_prefix List.isPrefixOf_iff_prefix

/-- Whether a target is a URL of the web whose host is within a designated one. -/
def OnDesignated (hosts : List String) (url : String) : Prop :=
  ∃ parsed, Web.Url.parse url = .ok parsed ∧
    ∃ designated ∈ hosts, IsWithin parsed.host designated.toList

theorem isDesignated_iff {hosts : List String} {host : List Char} :
    isDesignated hosts (String.ofList host) = true ↔
      ∃ designated ∈ hosts, IsWithin host designated.toList := by
  rw [isDesignated, List.any_eq_true]
  simp only [isDesignatedBy_iff, String.toList_ofList]

theorem classify_cases (hosts : List String) (url : String) :
    (StartsHere url ∧ classify hosts url = .relative (filePart url)) ∨
    (¬ StartsHere url ∧ OnDesignated hosts url ∧ classify hosts url = .remote url) ∨
    (¬ StartsHere url ∧ ¬ OnDesignated hosts url ∧ classify hosts url = .other) := by
  unfold classify
  by_cases hstart : StartsHere url
  · exact .inl ⟨hstart, if_pos (isRelative_iff.mpr hstart)⟩
  · rw [if_neg (mt isRelative_iff.mp hstart)]
    cases hparse : Web.Url.parse url with
    | error fault =>
      have hnot : ¬ OnDesignated hosts url := fun ⟨_, hparse', _⟩ =>
        nomatch hparse.symm.trans hparse'
      exact .inr (.inr ⟨hstart, hnot, rfl⟩)
    | ok parsed =>
      have hhost : OnDesignated hosts url ↔
          isDesignated hosts (String.ofList parsed.host) = true := by
        simp [OnDesignated, hparse, isDesignated_iff]
      by_cases hdesignated : isDesignated hosts (String.ofList parsed.host) = true
      · exact .inr (.inl ⟨hstart, hhost.mpr hdesignated, if_pos hdesignated⟩)
      · exact .inr (.inr ⟨hstart, mt hhost.mp hdesignated, if_neg hdesignated⟩)

theorem classify_eq_remote_iff {hosts : List String} {url target : String} :
    classify hosts url = .remote target ↔
      target = url ∧ ¬ StartsHere url ∧ OnDesignated hosts url := by
  rcases classify_cases hosts url with ⟨hstart, hclass⟩ | ⟨hstart, hhost, hclass⟩ |
    ⟨hstart, hhost, hclass⟩
  · simp [hclass, hstart]
  · simp [hclass, hstart, hhost, eq_comm]
  · simp [hclass, hhost]

/-- Only remote targets are looked up. -/
theorem classify_of_mem_probedTargets {ctx : Lint.Context} {url : String}
    (h : url ∈ Lint.probedTargets ctx) :
    classify ctx.conventions.remoteHosts url = .remote url := by
  rw [Lint.probedTargets_eq, Lint.mem_firstOccurrences_iff] at h
  unfold Lint.probedAmong at h
  split at h
  · exact of_decide_eq_true (List.mem_filter.mp h).2
  · cases h

/-- **Which targets are remote is told by whole labels.** A target is relative exactly if it starts
with `./` or `../`, and means the longest start of it without a fragment or query. Any other one is
remote as it stands exactly if it is a URL of the web whose host has, whatever the case of letters,
the labels of a designated one as its last labels. So a URL whose host merely ends with designated
ones, each beginning inside a label of it, is not remote, and no check of a document looks it up. -/
theorem classify_by_labels (hosts : List String) (url : String) :
    (∀ part, classify hosts url = .relative part ↔ StartsHere url ∧ IsFilePart url part) ∧
    (∀ target, classify hosts url = .remote target ↔
      target = url ∧ ¬ StartsHere url ∧ OnDesignated hosts url) ∧
    (classify hosts url = .other ↔ ¬ StartsHere url ∧ ¬ OnDesignated hosts url) ∧
    ∀ parsed, Web.Url.parse url = .ok parsed →
      (∀ designated ∈ hosts, asciiLower designated.toList <:+ asciiLower parsed.host →
        EndsInLabel parsed.host designated.toList) →
      (∀ target, classify hosts url ≠ .remote target) ∧
      ∀ ctx : Lint.Context, ctx.conventions.remoteHosts = hosts → url ∉ Lint.probedTargets ctx := by
  refine ⟨fun part => ?_, fun target => classify_eq_remote_iff, ?_, ?_⟩
  · rw [isFilePart_iff]
    rcases classify_cases hosts url with ⟨hstart, hclass⟩ | ⟨hstart, hhost, hclass⟩ |
      ⟨hstart, hhost, hclass⟩
    · simp [hclass, hstart, eq_comm]
    · simp [hclass, hstart]
    · simp [hclass, hstart]
  · rcases classify_cases hosts url with ⟨hstart, hclass⟩ | ⟨hstart, hhost, hclass⟩ |
      ⟨hstart, hhost, hclass⟩
    · simp [hclass, hstart]
    · simp [hclass, hhost]
    · simp [hclass, hstart, hhost]
  · intro parsed hparse hends
    have hhost : ¬ OnDesignated hosts url := by
      rintro ⟨parsed', hparse', designated, hdesignated, hwithin⟩
      obtain rfl := Except.ok.inj (hparse.symm.trans hparse')
      have hsuffix := suffix_of_isWithin hwithin
      exact not_isWithin_of_endsInLabel (hends designated hdesignated hsuffix) hwithin
    have hremote : ∀ target, classify hosts url ≠ .remote target := fun target hclass =>
      hhost (classify_eq_remote_iff.mp hclass).2.2
    refine ⟨hremote, ?_⟩
    rintro ctx rfl hmem
    exact hremote url (classify_of_mem_probedTargets hmem)

/-- A host whose only label before the last one ends like that of a designated name. -/
theorem classify_by_labels_joined :
    (∃ parsed, Web.Url.parse "http://agh.io" = .ok parsed ∧
      asciiLower "GH.io".toList <:+ asciiLower parsed.host ∧
      EndsInLabel parsed.host "GH.io".toList) ∧
    ∀ target, classify ["GH.io"] "http://agh.io" ≠ .remote target := by
  have hparse : ∃ parsed, Web.Url.parse "http://agh.io" = .ok parsed ∧
      parsed.host = "agh.io".toList := by
    have hread : (Web.Url.parse "http://agh.io").toOption.map (·.host) = some "agh.io".toList := by
      decide +kernel
    cases hurl : Web.Url.parse "http://agh.io" with
    | error fault => simp [hurl, Except.toOption] at hread
    | ok parsed => exact ⟨parsed, rfl, by simpa [hurl, Except.toOption] using hread⟩
  obtain ⟨parsed, hparse, hhost⟩ := hparse
  have hends : EndsInLabel parsed.host "GH.io".toList := by
    rw [hhost]
    exact ⟨[], 'a', by decide, by decide⟩
  have hsuffix : asciiLower "GH.io".toList <:+ asciiLower parsed.host := by
    rw [hhost]
    decide
  obtain ⟨-, -, -, hnever⟩ := classify_by_labels ["GH.io"] "http://agh.io"
  refine ⟨⟨parsed, hparse, hsuffix, hends⟩, (hnever parsed hparse ?_).1⟩
  intro designated hdesignated _
  rw [List.mem_singleton.mp hdesignated]
  exact hends

end Reference

end SopDocs
