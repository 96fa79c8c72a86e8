import SopDocs.Index.Table
import SopDocs.Proofs.Markdown.Inline
import SopDocs.Proofs.Markdown.PipeTable

/-!
# The source of a cell

A cell of a pipe table is read back as the source between the ends of its elements,
with escaped bars as bars. That is the text of the cell, but for two things: a
backslash that escapes the first character is before the first element, and a backslash
before a bar is dropped.
-/

namespace SopDocs.Index

open SopDocs.Markdown (Spells OneLine Scope Definition Glyph isAsciiPunctuation cellNode)

/-- A text without the backslash that escapes its first character. -/
def afterEscape : List Char → List Char
  | '\\' :: c :: r => if isAsciiPunctuation c then c :: r else '\\' :: c :: r
  | cs => cs

/-- What is read back of a cell. -/
def readBack (cell : String) : String := String.ofList (plainPipes (afterEscape cell.toList))

/-- Whether a text has no line break and no white space around it. -/
def Clean (cell : String) : Prop := OneLine cell.toList ∧ Text.trim cell.toList = cell.toList

/-- Whether a text holds no bar and does not start with an escape. -/
def Plain (cell : String) : Prop :=
  '|' ∉ cell.toList ∧ ∀ c r, cell.toList = '\\' :: c :: r → isAsciiPunctuation c = false

instance (cell : String) : Decidable (Clean cell) :=
  inferInstanceAs (Decidable (OneLine cell.toList ∧ Text.trim cell.toList = cell.toList))

/-! ### Escapes -/

theorem plainPipes_cons {c : Char} {r : List Char} (h : ∀ t, c = '\\' → r ≠ '|' :: t) :
    plainPipes (c :: r) = c :: plainPipes r := by
  rw [plainPipes]
  intro t hc hr
  exact h t hc hr

theorem length_plainPipes_le (cs : List Char) : (plainPipes cs).length ≤ cs.length := by
  fun_induction plainPipes cs with
  | case1 r ih =>
    simp only [List.length_cons]
    omega
  | case2 c r _ ih =>
    simp only [List.length_cons]
    omega
  | case3 => exact Nat.le_refl _

/-- A text without bars has none to unescape. -/
theorem plainPipes_of_noBar {cs : List Char} (h : '|' ∉ cs) : plainPipes cs = cs := by
  induction cs with
  | nil => rfl
  | cons c r ih =>
    have hr : '|' ∉ r := fun hmem => h (List.mem_cons_of_mem c hmem)
    rw [plainPipes_cons, ih hr]
    intro t _ heq
    exact hr (heq ▸ List.mem_cons_self)

/-- A text that keeps its bars has no escaped one. -/
theorem plainPipes_eq_cons {c : Char} {r : List Char} (h : plainPipes (c :: r) = c :: r) :
    plainPipes r = r ∧ ∀ t, c = '\\' → r ≠ '|' :: t := by
  have hnone : ∀ t, c = '\\' → r ≠ '|' :: t := by
    rintro t rfl rfl
    rw [plainPipes] at h
    have hlength := congrArg List.length h
    have hle := length_plainPipes_le t
    simp only [List.length_cons] at hlength
    omega
  rw [plainPipes_cons hnone] at h
  exact ⟨(List.cons.inj h).2, hnone⟩

theorem afterEscape_eq {cs : List Char}
    (h : ∀ c r, cs = '\\' :: c :: r → isAsciiPunctuation c = false) : afterEscape cs = cs := by
  unfold afterEscape
  split
  · next c r => simp [h c r rfl]
  · rfl

theorem afterEscape_cons {c : Char} {r : List Char} (h : isAsciiPunctuation c = true) :
    afterEscape ('\\' :: c :: r) = c :: r := by
  rw [afterEscape, if_pos h]

/-- Nothing is left out of a text exactly if it starts with no escape. -/
theorem afterEscape_eq_iff {cs : List Char} :
    afterEscape cs = cs ↔ ∀ c r, cs = '\\' :: c :: r → isAsciiPunctuation c = false := by
  refine ⟨?_, afterEscape_eq⟩
  rintro h c r rfl
  cases hc : isAsciiPunctuation c with
  | false => rfl
  | true =>
    rw [afterEscape_cons hc] at h
    have hlength := congrArg List.length h
    simp only [List.length_cons] at hlength
    omega

instance (cell : String) : Decidable (Plain cell) :=
  decidable_of_iff ('|' ∉ cell.toList ∧ afterEscape cell.toList = cell.toList)
    (and_congr_right fun _ => afterEscape_eq_iff)

/-- What is read back of a plain cell is the cell. -/
theorem readBack_of_plain {cell : String} (h : Plain cell) : readBack cell = cell := by
  unfold readBack
  rw [afterEscape_eq h.2, plainPipes_of_noBar h.1, String.ofList_toList]

/-- A cell that is read back as it is starts with no escape and has no escaped bar. -/
theorem of_readBack {cell : String} (h : readBack cell = cell) :
    (∀ c r, cell.toList = '\\' :: c :: r → isAsciiPunctuation c = false) ∧
      plainPipes cell.toList = cell.toList := by
  have hlist : plainPipes (afterEscape cell.toList) = cell.toList := by
    have := congrArg String.toList h
    rw [readBack, String.toList_ofList] at this
    exact this
  have hstart : ∀ c r, cell.toList = '\\' :: c :: r → isAsciiPunctuation c = false := by
    intro c r hcell
    cases hc : isAsciiPunctuation c with
    | false => rfl
    | true =>
      rw [hcell, afterEscape_cons hc] at hlist
      have hlength := congrArg List.length hlist
      have hle := length_plainPipes_le (c :: r)
      simp only [List.length_cons] at hlength hle
      omega
  rw [afterEscape_eq hstart] at hlist
  exact ⟨hstart, hlist⟩

/-! ### Cells -/

theorem isBlank_of_isSpace {g : Glyph} (h : g.isSpace = true) : Text.isBlank g.char = true := by
  unfold Glyph.isSpace at h
  rcases Bool.or_eq_true_iff.mp h with h | h
  · rw [beq_iff_eq.mp h]
    decide
  · rw [beq_iff_eq.mp h]
    decide

theorem isSpace_eq_false {g : Glyph} (h : Text.isBlank g.char = false) : g.isSpace = false := by
  cases hg : g.isSpace with
  | false => rfl
  | true =>
    rw [isBlank_of_isSpace hg] at h
    cases h

theorem ne_tab {c : Char} (h : Text.isBlank c = false) : c ≠ '\t' := by
  rintro rfl
  exact absurd h (by decide)

/-- The glyphs of a text that starts with an escape spell the rest with the escape left out. -/
theorem spells_afterEscape {source cs : List Char} {gs : List Glyph} (h : Spells source cs gs)
    (hhead : ∀ c, cs.head? = some c → c ≠ '\t') :
    Spells source (afterEscape cs) (Markdown.dropEscape gs) := by
  cases cs with
  | nil =>
    rw [h.eq_nil]
    rw [h.eq_nil] at h
    exact h
  | cons c r =>
    obtain ⟨g, t, rfl, hg, ht⟩ := h.cons (hhead c rfl)
    cases r with
    | nil =>
      rw [ht.eq_nil]
      rw [ht.eq_nil] at h
      rw [afterEscape_eq (by simp)]
      exact h
    | cons d r =>
      obtain ⟨i, u, rfl, hi⟩ := ht.head_char
      rw [Markdown.dropEscape, hg, hi]
      cases hescape : c == '\\' && isAsciiPunctuation d with
      | true =>
        obtain ⟨hc, hd⟩ := Bool.and_eq_true_iff.mp hescape
        rw [beq_iff_eq.mp hc, afterEscape_cons hd]
        exact ht
      | false =>
        rw [afterEscape_eq, if_neg Bool.false_ne_true]
        · exact h
        · intro c' r' heq
          obtain ⟨rfl, hrest⟩ := List.cons.inj heq
          obtain ⟨rfl, -⟩ := List.cons.inj hrest
          exact hescape

theorem isBlank_of_isAsciiPunctuation {c : Char} (h : isAsciiPunctuation c = true) :
    Text.isBlank c = false := by
  unfold isAsciiPunctuation at h
  simp only [Bool.and_eq_true, decide_eq_true_eq, bne_iff_ne] at h
  simp only [Text.isBlank, Text.inRanges, Text.blankRanges, List.any_cons, List.any_nil,
    Bool.or_false, Bool.or_eq_false_iff, Bool.and_eq_false_iff, decide_eq_false_iff_not]
  omega

/-- Leaving the escape out neither moves the end of a text nor puts white space at its start. -/
theorem ends_afterEscape {cs : List Char} (h : Text.trim cs = cs) :
    (∀ c, (afterEscape cs).head? = some c → Text.isBlank c = false) ∧
      ∀ c, (afterEscape cs).getLast? = some c → Text.isBlank c = false := by
  obtain ⟨hhead, hlast⟩ := Text.trim_eq_self_iff.mp h
  unfold afterEscape
  split
  · next c r =>
    split
    · next hc =>
      refine ⟨fun d hd => ?_, fun d hd => hlast d ?_⟩
      · rw [← Option.some.inj hd]
        exact isBlank_of_isAsciiPunctuation hc
      · rw [List.getLast?_cons, hd]
        rfl
    · exact ⟨hhead, hlast⟩
  · exact ⟨hhead, hlast⟩

theorem getLast?_dropEscape {gs : List Glyph} {l : Glyph}
    (h : (Markdown.dropEscape gs).getLast? = some l) : gs.getLast? = some l := by
  unfold Markdown.dropEscape at h
  split at h
  · split at h
    · rw [List.getLast?_cons, h]
      rfl
    · exact h
  · exact h

/-- What a cell node with two ends in the source is read as. -/
theorem cellSource_of_span {source part : List Char} {elements : List Markdown.Element}
    {node : Tree.Node} {definitions : List Definition} {start stop : Nat}
    (hnode : node.children = Markdown.Element.nodes definitions elements)
    (hstart : elements.head?.map (·.span.start) = some start)
    (hstop : elements.getLast?.map (·.span.stop) = some stop)
    (hslice : Text.byteSlice? source start stop = some part) :
    cellSource source node = String.ofList (plainPipes (Text.trim part)) := by
  obtain ⟨first, hfirst, rfl⟩ := Option.map_eq_some_iff.mp hstart
  obtain ⟨last, hlast, rfl⟩ := Option.map_eq_some_iff.mp hstop
  have hspan : ∀ e : Markdown.Element, (e.node definitions).span = e.span := by
    rintro ⟨content, span, children⟩
    rw [Markdown.Element.node]
  unfold cellSource
  rw [hnode, Markdown.Element.nodes_eq_map, List.head?_map, List.getLast?_map, hfirst, hlast]
  simp only [Option.map_some, hspan, hslice, Option.getD_some]

/-- **A cell is read back as its text**, without a backslash that escapes its first character and
with escaped bars as bars. -/
theorem cellSource_of_spells {source : List Char} {cell : String} {gs : List Glyph}
    (h : Spells source cell.toList gs) (hclean : Clean cell) (scope : Scope)
    (definitions : List Definition) (span : Tree.Span) :
    cellSource source (cellNode scope definitions span gs) = readBack cell := by
  obtain ⟨hline, htrim⟩ := hclean
  obtain ⟨hfirst, hlast⟩ := ends_afterEscape htrim
  have hspells := spells_afterEscape h fun c hc =>
    ne_tab ((Text.trim_eq_self_iff.mp htrim).1 c hc)
  unfold readBack
  cases hcell : (afterEscape cell.toList).head? with
  | none =>
    have hnil := List.head?_eq_none_iff.mp hcell
    rw [hnil] at hspells ⊢
    have hgs : gs = [] := by
      have hdrop := hspells.eq_nil
      unfold Markdown.dropEscape at hdrop
      split at hdrop
      · split at hdrop <;> cases hdrop
      · exact hdrop
    rw [hgs]
    rfl
  | some c =>
    have hne : afterEscape cell.toList ≠ [] := by
      intro hnil
      rw [hnil] at hcell
      cases hcell
    have hend := List.getLast?_eq_some_getLast hne
    obtain ⟨f, l, hf, hl, hfchar, hlchar, hslice⟩ :=
      hspells.slice hcell hend (ne_tab (hfirst c hcell)) (ne_tab (hlast _ hend))
    have hends : ∀ g ∈ gs, g.isEnd = false := by
      intro g hg
      unfold Glyph.isEnd
      rcases h.char_mem hg with hmem | hspace
      · exact beq_false_of_ne (hline _ hmem).1
      · rw [hspace]
        decide
    obtain ⟨hstart, hstop⟩ := Markdown.inline_spans { scope with inTable := true } true hends hf
      (getLast?_dropEscape hl) (isSpace_eq_false (hfchar ▸ hfirst c hcell))
      (isSpace_eq_false (hlchar ▸ hlast _ hend))
    rw [cellSource_of_span rfl hstart hstop hslice, Text.trim_eq_self_iff.mpr ⟨hfirst, hlast⟩]

end SopDocs.Index
