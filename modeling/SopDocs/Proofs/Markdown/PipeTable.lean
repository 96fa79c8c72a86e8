import SopDocs.Proofs.Markdown.Paragraph
import SopDocs.Proofs.Markdown.TableRow

/-!
# Lines that start with bars are one table

A line that starts with a bar opens no container and starts no block of its own. So a
head, a row of delimiters with as many columns and any number of further lines, all of
them with a bar in front, are the only block of their source, a table with a row for
each line but the delimiters.
-/

namespace SopDocs.Markdown

/-- Whether a line starts with a bar. -/
def StartsWithBar (line : Line) : Prop := ∃ bar r, line.glyphs = bar :: r ∧ isBar bar = true

theorem startsWithBar_of_spells {source : List Char} {texts : List (List Char)} {line : Line}
    (h : Spells source (barredText texts) line.glyphs) : StartsWithBar line := by
  obtain ⟨first, parts, hgs, hfirst, -⟩ := h.exists_parts
  exact ⟨first, _, hgs, hfirst⟩

theorem StartsWithBar.startsText {line : Line} (h : StartsWithBar line) :
    StartsText line.glyphs := by
  obtain ⟨bar, r, hgs, hbar⟩ := h
  exact ⟨bar, r, hgs, .inl (char_of_isBar hbar)⟩

namespace Flow

variable {source : List Char} {stop : Nat} {line : Line}

/-- A row of delimiters with as many columns as the line before it makes that line a head. -/
theorem feed_delimiters {head : Line} {count : Nat} (h : StartsWithBar line)
    (hcount : delimiterCount? line.glyphs = some count)
    (hhead : isHeadOf count head.glyphs = true) :
    feed source (topLevel (.paragraph [head] false) stop) line =
      topLevel (.table (startOf head.stop head.glyphs) line.stop [rowBlock head]) line.stop := by
  rw [feed_of_text rfl h.startsText]
  have htable : table? source (topLevel (.paragraph [head] false) stop) [head] false line =
      some (topLevel (.table (startOf head.stop head.glyphs) line.stop [rowBlock head]) stop) := by
    unfold table?
    simp only [hcount, hhead, Option.bind_some]
    rfl
  have hfeed : feedLeaf source (topLevel (.paragraph [head] false) stop) line =
      topLevel (.table (startOf head.stop head.glyphs) line.stop [rowBlock head]) stop := by
    unfold feedLeaf
    simp only [topLevel] at htable ⊢
    rw [htable]
  rw [hfeed]
  rfl

theorem feed_row {start last : Nat} {rows : List Block} (h : StartsWithBar line) :
    feed source (topLevel (.table start last rows) stop) line =
      topLevel (.table start line.stop (rowBlock line :: rows)) line.stop := by
  have htext := h.startsText
  have hindent : ¬ codeIndent ≤ indent line.glyphs := by
    rw [htext.indent_eq]
    decide
  rw [feed_of_text rfl htext]
  simp only [feedLeaf, topLevel, htext.not_isBlankText, hindent, htext.start?_eq rfl]
  rfl

/-- Each further line with a bar in front is one more row. -/
theorem feed_rows (source : List Char) (start : Nat) {lines : List Line}
    (h : ∀ line ∈ lines, StartsWithBar line) (last : Nat) (rows : List Block) (stop : Nat) :
    ∃ last' stop', lines.foldl (feed source) (topLevel (.table start last rows) stop) =
      topLevel (.table start last' ((lines.map rowBlock).reverse ++ rows)) stop' := by
  induction lines generalizing last rows stop with
  | nil => exact ⟨last, stop, rfl⟩
  | cons line lines ih =>
    rw [List.foldl_cons, feed_row (h line List.mem_cons_self)]
    obtain ⟨last', stop', hrest⟩ :=
      ih (fun l hl => h l (List.mem_cons_of_mem _ hl)) line.stop (rowBlock line :: rows) line.stop
    refine ⟨last', stop', ?_⟩
    rw [hrest, List.map_cons, List.reverse_cons, List.append_assoc]
    rfl

end Flow

/-- The blocks of a source that is a pipe table. -/
theorem blocksOf_table {source : List Char} {head rule : Line} {lines : List Line} {count : Nat}
    (hsource : sourceLines source = head :: rule :: lines) (hhead : StartsWithBar head)
    (hrule : StartsWithBar rule) (hlines : ∀ line ∈ lines, StartsWithBar line)
    (hcount : delimiterCount? rule.glyphs = some count)
    (hcolumns : isHeadOf count head.glyphs = true) :
    ∃ start stop, blocksOf source =
      [.of .table start stop ((head :: lines).map rowBlock)] := by
  obtain ⟨last, stop, hrows⟩ := Flow.feed_rows source (startOf head.stop head.glyphs) hlines
    rule.stop [rowBlock head] rule.stop
  refine ⟨startOf head.stop head.glyphs, last, ?_⟩
  have hstart : Flow.start = Flow.topLevel (.none false) 0 := rfl
  unfold blocksOf
  rw [hsource, List.foldl_cons, List.foldl_cons, hstart, Flow.feed_first hhead.startsText,
    Flow.feed_delimiters hrule hcount hcolumns, hrows]
  have hreverse : ((lines.map rowBlock).reverse ++ [rowBlock head]).reverse =
      (head :: lines).map rowBlock := by simp
  rw [← hreverse]
  rfl

/-! ### The tree of a table -/

/-- The node of a cell with a text. -/
def cellNode (scope : Scope) (definitions : List Definition) (span : Tree.Span)
    (text : List Glyph) : Tree.Node :=
  ⟨.tableCell, span, none, .none,
    Element.nodes definitions (inline { scope with inTable := true } true text)⟩

/-- The node of a row with the cells of a line. -/
def rowNode (scope : Scope) (definitions : List Definition) (line : Line) : Tree.Node :=
  ⟨.tableRow, ⟨startOf line.stop line.glyphs, line.stop⟩, none, .none,
    (rowCells line.glyphs).map fun part =>
      cellNode scope definitions ⟨startOf line.stop part.whole, stopOf line.stop part.whole⟩
        part.text⟩

theorem inline_nil (scope : Scope) (trims : Bool) : inline scope trims [] = [] := rfl

theorem element_cell (scope : Scope) (definitions : List Definition) (span : Tree.Span)
    (text : List Glyph) :
    ((⟨.cell, span, text, []⟩ : Block).element scope).node definitions =
      cellNode scope definitions span text := by
  rw [Block.element, blockElements, List.append_nil, Element.node]
  rfl

theorem element_row (scope : Scope) (definitions : List Definition) (line : Line) :
    ((rowBlock line).element scope).node definitions = rowNode scope definitions line := by
  have hcells : ∀ parts : List CellPart,
      Element.nodes definitions (blockElements scope false (parts.map fun part =>
        ⟨.cell, ⟨startOf line.stop part.whole, stopOf line.stop part.whole⟩, part.text, []⟩)) =
      parts.map fun part =>
        cellNode scope definitions ⟨startOf line.stop part.whole, stopOf line.stop part.whole⟩
          part.text := by
    intro parts
    rw [blockElements_eq_map, Element.nodes_eq_map, List.map_map, List.map_map]
    exact List.map_congr_left fun part _ => element_cell scope definitions _ _
  unfold rowBlock Block.of
  rw [Block.element, inline_nil, List.nil_append, Element.node]
  exact congrArg (Tree.Node.mk _ _ _ _) (hcells _)

/-- A document of one node finds that node first. -/
theorem findAll_of_child {kind : Tree.Kind} {node : Tree.Node} (h : node.kind = kind)
    (span : Tree.Span) : Tree.Node.findAll kind ⟨.document, span, none, .none, [node]⟩ =
      node :: node.findAll kind := by
  unfold Tree.Node.findAll
  rw [Tree.Node.descendants, Tree.Node.withDescendants, Tree.Node.withDescendants, List.append_nil,
    List.filter_cons_of_pos (by simp [h])]

/-- The first table of a source that is one pipe table. -/
theorem findAll_table {source : String} {start stop : Nat} {lines : List Line}
    (h : blocksOf source.toList = [.of .table start stop (lines.map rowBlock)]) :
    ∃ scope definitions table rest, (parse source).findAll .table = table :: rest ∧
      table.children = lines.map (rowNode scope definitions) := by
  let scope : Scope := ⟨source.toList, keysOf definedIdentifier? (blocksOf source.toList),
    keysOf footnoteIdentifier? (blocksOf source.toList), false⟩
  let table : Element :=
    ⟨.table, ⟨start, stop⟩, blockElements scope false (lines.map rowBlock)⟩
  have htree : syntaxTree source = ⟨.root, ⟨0, source.utf8ByteSize⟩, [table]⟩ := by
    unfold syntaxTree
    simp only
    rw [show blockElements scope false (blocksOf source.toList) = [table] from ?_]
    rw [h, blockElements_eq_map, List.map_singleton, Block.of, Block.element, inline_nil,
      List.nil_append]
    rfl
  let definitions := (syntaxTree source).definitions
  have hroot : parse source =
      ⟨.document, ⟨0, source.utf8ByteSize⟩, none, .none, [table.node definitions]⟩ := by
    have hdocument : parse source = (syntaxTree source).node definitions := rfl
    rw [hdocument, htree, Element.node]
    rfl
  have hchildren : (table.node definitions).children = lines.map (rowNode scope definitions) := by
    have hnodes : (table.node definitions).children =
        Element.nodes definitions (blockElements scope false (lines.map rowBlock)) := rfl
    rw [hnodes, blockElements_eq_map, Element.nodes_eq_map, List.map_map, List.map_map]
    exact List.map_congr_left fun line _ => element_row scope definitions line
  refine ⟨scope, definitions, table.node definitions, (table.node definitions).findAll .table, ?_,
    hchildren⟩
  have hkind : (table.node definitions).kind = .table := rfl
  rw [hroot]
  exact findAll_of_child hkind _

end SopDocs.Markdown
