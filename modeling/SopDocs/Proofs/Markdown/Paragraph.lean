import SopDocs.Markdown.Document
import SopDocs.Proofs.Markdown.Definitions

/-!
# A line of text is a paragraph

A line that starts with a bar, or with a bracket that opens no footnote, opens no container and
starts no block of its own: it is text to the reader of blocks. So a source of one such line is a
document of one paragraph, unless the line is a definition.
-/

namespace SopDocs.Markdown

/-- Whether a line starts with a bar, or with a bracket that opens no footnote. -/
def StartsText (gs : List Glyph) : Prop :=
  ∃ g r, gs = g :: r ∧ (g.char = '|' ∨ g.char = '[' ∧ r.head?.map (·.char) ≠ some '^')

namespace StartsText

variable {gs : List Glyph} (h : StartsText gs)

include h

theorem ne_nil : gs ≠ [] := by
  obtain ⟨g, r, rfl, -⟩ := h
  exact List.cons_ne_nil g r

theorem indent_eq : indent gs = 0 := by
  obtain ⟨g, r, rfl, hchar | ⟨hchar, -⟩⟩ := h
  · simp [indent, Glyph.isSpace, hchar]
  · simp [indent, Glyph.isSpace, hchar]

theorem unindented?_eq : unindented? gs = some gs := by
  rw [unindented?, h.indent_eq, if_pos (by decide)]
  obtain ⟨g, r, rfl, hchar | ⟨hchar, -⟩⟩ := h
  · simp [skipSpaces, Glyph.isSpace, hchar]
  · simp [skipSpaces, Glyph.isSpace, hchar]

theorem not_isBlankText : isBlankText gs = false := by
  obtain ⟨g, r, rfl, hchar | ⟨hchar, -⟩⟩ := h
  · simp [isBlankText, Glyph.isSpace, hchar]
  · simp [isBlankText, Glyph.isSpace, hchar]

theorem not_isThematicBreak : isThematicBreak gs = false := by
  have hunindented := h.unindented?_eq
  obtain ⟨g, r, rfl, hchar | ⟨hchar, -⟩⟩ := h
  · simp [isThematicBreak, hunindented, hchar]
  · simp [isThematicBreak, hunindented, hchar]

theorem openContainer?_eq (afterParagraph : Bool) : openContainer? afterParagraph gs = none := by
  have hunindented := h.unindented?_eq
  have hbreak := h.not_isThematicBreak
  have hquote : afterQuoteMark? gs = none := by
    obtain ⟨g, r, rfl, hchar | ⟨hchar, -⟩⟩ := h
    · simp [afterQuoteMark?, hunindented, hchar]
    · simp [afterQuoteMark?, hunindented, hchar]
  have hmark : itemMark? gs = none := by
    obtain ⟨g, r, rfl, hchar | ⟨hchar, -⟩⟩ := h
    · simp [itemMark?, hchar, Char.isDigit]
    · simp [itemMark?, hchar, Char.isDigit]
  have hfootnote : footnoteMark? gs = none := by
    unfold footnoteMark?
    rw [hunindented, Option.getD_some]
    obtain ⟨g, r, rfl, hchar | ⟨hchar, hcaret⟩⟩ := h
    · cases r <;> simp [hchar]
    · cases r with
      | nil => rfl
      | cons i t => simp [show i.char ≠ '^' by simpa using hcaret]
  unfold openContainer?
  rw [hquote, openItem?, hbreak, hunindented]
  simp [hmark, hfootnote]

theorem start?_eq {line : Line} (hline : line.glyphs = gs) (mayComplete : Bool) :
    start? mayComplete line = none := by
  have hunindented := h.unindented?_eq
  have hbreak := h.not_isThematicBreak
  have hfence : openFence? gs = none := by
    obtain ⟨g, r, rfl, hchar | ⟨hchar, -⟩⟩ := h
    · simp [openFence?, hunindented, hchar]
    · simp [openFence?, hunindented, hchar]
  have hhtml : openHtml? mayComplete gs = none := by
    obtain ⟨g, r, rfl, hchar | ⟨hchar, -⟩⟩ := h
    · simp [openHtml?, hunindented, hchar]
    · simp [openHtml?, hunindented, hchar]
  have hheading : heading? gs = none := by
    obtain ⟨g, r, rfl, hchar | ⟨hchar, -⟩⟩ := h
    · simp [heading?, hunindented, hchar]
    · simp [heading?, hunindented, hchar]
  unfold start?
  simp only [hline, hfence, hhtml, hheading, hbreak, Bool.false_eq_true, if_false]

end StartsText

namespace Flow

/-- The blocks so far where all lines went to one open block of the document. -/
def topLevel (leaf : Leaf) (stop : Nat) : Flow := ⟨[.opened .document 0], leaf, stop⟩

variable {source : List Char} {leaf : Leaf} {stop : Nat} {line : Line}

theorem feed_of_text (hverbatim : isVerbatim leaf = false) (h : StartsText line.glyphs) :
    feed source (topLevel leaf stop) line =
      { feedLeaf source (topLevel leaf stop) line with stop := line.stop } := by
  have hopened : ∀ afterParagraph,
      opened line.stop afterParagraph line.glyphs.length line.glyphs = ([], line.glyphs) := by
    intro afterParagraph
    cases hlength : line.glyphs.length with
    | zero => exact absurd (List.eq_nil_of_length_eq_zero hlength) h.ne_nil
    | succ n => rw [opened, h.openContainer?_eq afterParagraph]
  have hcontinued : continued (topLevel leaf stop).frames.reverse line.glyphs =
      ([.opened .document 0], [], line.glyphs) := rfl
  unfold feed
  rw [hcontinued]
  simp only [topLevel, hverbatim, hopened]
  rfl

/-- The first line of text starts a paragraph. -/
theorem feed_first (h : StartsText line.glyphs) :
    feed source (topLevel (.none false) stop) line =
      topLevel (.paragraph [line] false) line.stop := by
  rw [feed_of_text rfl h]
  have hstart := h.start?_eq rfl true
  have hindent : ¬ codeIndent ≤ indent line.glyphs := by
    rw [h.indent_eq]
    decide
  simp only [feedLeaf, startLeaf, topLevel, h.not_isBlankText, hindent, hstart, List.isEmpty_nil]
  rfl

end Flow

/-- The blocks of a source that is one line of text. -/
theorem blocksOf_line {source : List Char} {line : Line} (hsource : sourceLines source = [line])
    (h : StartsText line.glyphs) (hdefinition : definition? line.glyphs = none) :
    blocksOf source = [textBlock .paragraph line.glyphs (stopOf 0 line.glyphs)] := by
  have hleading : leadingDefinitions source line.glyphs.length line.glyphs = ([], line.glyphs) := by
    cases hlength : line.glyphs.length with
    | zero => exact absurd (List.eq_nil_of_length_eq_zero hlength) h.ne_nil
    | succ n => rw [leadingDefinitions, hdefinition]
  have hblocks : (Leaf.paragraph [line] false).blocks source true =
      [textBlock .paragraph line.glyphs (stopOf 0 line.glyphs)] := by
    have hjoined : joinLines [line].reverse = line.glyphs := rfl
    rw [Leaf.blocks, paragraphBlocks, hjoined]
    simp [contentBlocks, hleading, h.ne_nil]
  have hstart : Flow.start = Flow.topLevel (.none false) 0 := rfl
  unfold blocksOf
  rw [hsource, List.foldl_cons, List.foldl_nil, hstart, Flow.feed_first h]
  unfold Flow.finish Flow.closeLeaf
  simp only [Flow.topLevel, hblocks]
  rfl

/-! ### The tree of a paragraph -/

theorem blockElements_eq_map (scope : Scope) (blocks : List Block) :
    blockElements scope false blocks = blocks.map (Block.element scope) := by
  induction blocks with
  | nil => rw [blockElements, List.map_nil]
  | cons b blocks ih =>
    rw [blockElements, Bool.false_and, Bool.false_and, ih]
    rfl

/-- The node of a paragraph in which nothing is defined. -/
def paragraphNode (source : String) (definitions : List Definition) (gs : List Glyph) : Tree.Node :=
  ⟨.paragraph, ⟨startOf 0 gs, stopOf 0 gs⟩, none, .none,
    (inline ⟨source.toList, [], [], false⟩ true gs).map (Element.node definitions)⟩

/-- The document of a source that is one paragraph. -/
theorem parse_paragraph {source : String} {gs : List Glyph}
    (h : blocksOf source.toList = [textBlock .paragraph gs (stopOf 0 gs)]) (hne : gs ≠ []) :
    ∃ definitions, parse source =
      ⟨.document, ⟨0, source.utf8ByteSize⟩, none, .none,
        [paragraphNode source definitions gs]⟩ := by
  have hkeys : ∀ read : Content → Option String, read .paragraph = none →
      keysOf read (blocksOf source.toList) = [] := by
    intro read hread
    rw [h, keysOf, textBlock]
    simp [blockIdentifiers, Block.identifiers, hread]
  let elements := inline ⟨source.toList, [], [], false⟩ true gs
  have htree : syntaxTree source =
      ⟨.root, ⟨0, source.utf8ByteSize⟩,
        [⟨.paragraph, ⟨startOf 0 gs, stopOf 0 gs⟩, elements⟩]⟩ := by
    unfold syntaxTree
    simp only
    rw [hkeys definedIdentifier? rfl, hkeys footnoteIdentifier? rfl, h, blockElements_eq_map,
      List.map_singleton, textBlock, Block.element, blockElements, List.append_nil]
    obtain ⟨g, r, rfl⟩ := List.exists_cons_of_ne_nil hne
    rfl
  refine ⟨(syntaxTree source).definitions, ?_⟩
  have hdocument : parse source = (syntaxTree source).node (syntaxTree source).definitions := rfl
  generalize (syntaxTree source).definitions = definitions at hdocument ⊢
  rw [hdocument, htree, paragraphNode, ← Element.nodes_eq_map, Element.node, Element.nodes,
    Element.nodes, Element.node]
  rfl

end SopDocs.Markdown
