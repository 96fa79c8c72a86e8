import Mathlib.Data.List.Basic
import Mathlib.Data.List.Lex
import SopDocs.Markdown.Syntax

/-!
# References take the first definition of the document

Two recursions go through a syntax tree. One collects the definitions, also from the parts that
the document tree drops, and the other builds the document tree. What they say of each other is
said with paths of child numbers: an element stands in the syntax tree where its node stands in
the document tree, and of two definitions the first is the one with the smaller path.
-/

namespace SopDocs

/-! ### Paths -/

/-- The node at a path of child numbers. -/
def Tree.Node.at? : Tree.Node → List Nat → Option Tree.Node
  | n, [] => some n
  | n, i :: p => (n.children[i]?).bind (·.at? p)

namespace Markdown

open SopDocs.Tree (Span Node Kind Data)

/-- What is a node with children in the document tree. Anything else is a leaf there, whatever
stands below it. -/
def Content.isBranch : Content → Bool
  | .root | .paragraph | .heading _ | .emphasis | .strong | .delete | .link _ _ => true
  | .linkReference _ | .list _ | .item | .quote | .table | .row | .cell => true
  | _ => false

namespace Element

/-- The element at a path of child numbers. -/
def at? : Element → List Nat → Option Element
  | e, [] => some e
  | e, i :: p => (e.children[i]?).bind (·.at? p)

/-- The element at a path, where nothing above it is dropped to a leaf. -/
def ConvertedAt (root : Element) (p : List Nat) (e : Element) : Prop :=
  root.at? p = some e ∧
    ∀ q above, q <+: p → q ≠ p → root.at? q = some above → above.content.isBranch = true

/-- A definition of an identifier, at a path. -/
def DefinesAt (root : Element) (identifier : String) (p : List Nat) (d : Definition) : Prop :=
  (∃ e, root.at? p = some e ∧ definition? e.content = some d) ∧ d.identifier = identifier

/-- The definition of an identifier that comes before all others in document order, in which an
element stands before what is below it and that before the next sibling. -/
def FirstDefinition (root : Element) (identifier : String) (d : Definition) : Prop :=
  ∃ p, root.DefinesAt identifier p d ∧ ∀ q other, root.DefinesAt identifier q other → p ≤ q

/-- Some definition of the identifier stands somewhere in the tree. -/
def Defines (root : Element) (identifier : String) : Prop :=
  ∃ p d, root.DefinesAt identifier p d

/-! ### The definitions in document order -/

mutual
/-- All elements with their paths, each before those below it. -/
def places : Element → List (List Nat × Element)
  | ⟨content, span, children⟩ => ([], ⟨content, span, children⟩) :: placesFrom 0 children

/-- The elements of siblings, of which the first has number `i`. -/
def placesFrom (i : Nat) : List Element → List (List Nat × Element)
  | [] => []
  | e :: r => e.places.map (fun place => (i :: place.1, place.2)) ++ placesFrom (i + 1) r
end

/-- The definition that stands at a place. -/
def definitionAt? (place : List Nat × Element) : Option Definition :=
  definition? place.2.content

mutual
theorem definitions_eq : ∀ e : Element, e.definitions = e.places.filterMap definitionAt?
  | ⟨content, span, children⟩ => by
    rw [definitions, places, List.filterMap_cons, definitionsOf_eq 0 children]
    unfold definitionAt?
    cases definition? content <;> rfl

theorem definitionsOf_eq (i : Nat) : ∀ es : List Element,
    definitionsOf es = (placesFrom i es).filterMap definitionAt?
  | [] => rfl
  | e :: r => by
    have hplaces : (e.places.map fun place => (i :: place.1, place.2)).filterMap definitionAt? =
        e.places.filterMap definitionAt? := List.filterMap_map
    rw [definitionsOf, placesFrom, List.filterMap_append, hplaces, e.definitions_eq,
      definitionsOf_eq (i + 1) r]
end

mutual
theorem mem_places_iff : ∀ {e f : Element} {p : List Nat},
    (p, f) ∈ e.places ↔ e.at? p = some f
  | ⟨content, span, children⟩, f, [] => by
    have hbelow : ([], f) ∉ placesFrom 0 children := by
      intro h
      obtain ⟨j, p, e, hpath, -⟩ := mem_placesFrom_iff.mp h
      cases hpath
    rw [places, List.mem_cons, or_iff_left hbelow, at?, Option.some.injEq, Prod.mk.injEq,
      and_iff_right rfl, eq_comm]
  | ⟨content, span, children⟩, f, i :: p => by
    rw [places, List.mem_cons, or_iff_right (by simp), mem_placesFrom_iff, at?,
      Option.bind_eq_some_iff]
    simp

theorem mem_placesFrom_iff : ∀ {i : Nat} {es : List Element} {f : Element} {q : List Nat},
    (q, f) ∈ placesFrom i es ↔
      ∃ j p e, q = (i + j) :: p ∧ es[j]? = some e ∧ e.at? p = some f
  | i, [], f, q => by simp [placesFrom]
  | i, e :: r, f, q => by
    rw [placesFrom, List.mem_append, mem_placesFrom_iff]
    constructor
    · rintro (h | ⟨j, p, g, rfl, hg, hf⟩)
      · obtain ⟨⟨p, g⟩, hg, heq⟩ := List.mem_map.mp h
        obtain ⟨rfl, rfl⟩ := Prod.mk.inj heq
        exact ⟨0, p, e, rfl, rfl, mem_places_iff.mp hg⟩
      · exact ⟨j + 1, p, g, by rw [Nat.add_right_comm, Nat.add_assoc], hg, hf⟩
    · rintro ⟨j, p, g, rfl, hg, hf⟩
      cases j with
      | zero =>
        obtain rfl := Option.some.inj hg
        exact .inl (List.mem_map.mpr ⟨(p, f), mem_places_iff.mpr hf, rfl⟩)
      | succ j =>
        exact .inr ⟨j, p, g, by rw [Nat.add_right_comm, Nat.add_assoc], hg, hf⟩
end

mutual
/-- Document order is the order of paths. -/
theorem pairwise_places : ∀ e : Element, e.places.Pairwise (fun a b => a.1 < b.1)
  | ⟨content, span, children⟩ => by
    rw [places, List.pairwise_cons]
    refine ⟨?_, pairwise_placesFrom 0 children⟩
    rintro ⟨p, e⟩ h
    obtain ⟨j, p, -, rfl, -⟩ := mem_placesFrom_iff.mp h
    exact List.nil_lt_cons _ _

theorem pairwise_placesFrom (i : Nat) : ∀ es : List Element,
    (placesFrom i es).Pairwise (fun a b => a.1 < b.1)
  | [] => .nil
  | e :: r => by
    rw [placesFrom, List.pairwise_append, List.pairwise_map]
    refine ⟨?_, pairwise_placesFrom (i + 1) r, ?_⟩
    · refine (pairwise_places e).imp fun h => ?_
      exact List.cons_lt_cons_iff.mpr (.inr ⟨rfl, h⟩)
    · intro a ha b hb
      obtain ⟨place, -, rfl⟩ := List.mem_map.mp ha
      obtain ⟨j, p, -, hpath, -⟩ := mem_placesFrom_iff.mp hb
      rw [hpath]
      exact List.cons_lt_cons_iff.mpr (.inl (by omega))
end

theorem definesAt_iff {root : Element} {identifier : String} {p : List Nat} {d : Definition} :
    root.DefinesAt identifier p d ↔ ∃ e, (p, e) ∈ root.places ∧
      definitionAt? (p, e) = some d ∧ (d.identifier == identifier) = true := by
  unfold DefinesAt
  simp only [mem_places_iff, beq_iff_eq, exists_and_right, ← and_assoc]
  rfl

/-- The search through the collected definitions finds the first one. -/
theorem target?_eq_some_iff {root : Element} {identifier : String} {d : Definition} :
    target? root.definitions identifier = some d ↔ root.FirstDefinition identifier d := by
  have hsorted := pairwise_places root
  unfold target? FirstDefinition
  simp only [definesAt_iff]
  rw [definitions_eq, List.find?_filterMap, Option.bind_eq_some_iff]
  simp only [List.find?_eq_some_iff_append, Option.any_eq_true]
  constructor
  · rintro ⟨⟨p, e⟩, ⟨⟨d', hd', hidentifier⟩, before, after, hplaces, hnone⟩, hd⟩
    obtain rfl := Option.some.inj (hd'.symm.trans hd)
    refine ⟨p, ⟨e, by rw [hplaces]; simp, hd, hidentifier⟩, ?_⟩
    rintro q other ⟨f, hf, hother, hsame⟩
    rw [hplaces] at hf hsorted
    rcases List.mem_append.mp hf with hf | hf
    · have hnot := hnone _ hf
      rw [hother, Option.any_some, hsame] at hnot
      cases hnot
    · rcases List.mem_cons.mp hf with heq | hf
      · exact le_of_eq (Prod.mk.inj heq).1.symm
      · have hlater := (List.pairwise_cons.mp (List.pairwise_append.mp hsorted).2.1).1 _ hf
        exact le_of_lt hlater
  · rintro ⟨p, ⟨e, he, hd, hidentifier⟩, hfirst⟩
    obtain ⟨before, after, hplaces⟩ := List.append_of_mem he
    refine ⟨(p, e), ⟨⟨d, hd, hidentifier⟩, before, after, hplaces, ?_⟩, hd⟩
    rintro ⟨q, f⟩ hf
    rw [hplaces] at hsorted
    have hearlier : q < p := (List.pairwise_append.mp hsorted).2.2 _ hf _ List.mem_cons_self
    rw [Bool.not_eq_true', ← Bool.not_eq_true, Option.any_eq_true]
    rintro ⟨other, hother, hsame⟩
    have hmem : (q, f) ∈ root.places := by rw [hplaces]; exact List.mem_append_left _ hf
    exact not_lt_of_ge (hfirst q other ⟨f, hmem, hother, hsame⟩) hearlier

theorem target?_eq_none_iff {root : Element} {identifier : String} :
    target? root.definitions identifier = none ↔ ¬ root.Defines identifier := by
  have hnone : target? root.definitions identifier = none ↔
      ∀ d ∈ root.definitions, ¬ (d.identifier == identifier) = true := List.find?_eq_none
  rw [hnone, definitions_eq]
  simp only [List.mem_filterMap, Defines, definesAt_iff]
  constructor
  · rintro h ⟨p, d, e, he, hd, hidentifier⟩
    exact h d ⟨_, he, hd⟩ hidentifier
  · rintro h d ⟨⟨p, e⟩, he, hd⟩ hidentifier
    exact h ⟨p, d, e, he, hd, hidentifier⟩

/-! ### Elements and nodes at the same path -/

section Conversion

variable {root e : Element} {definitions : List Definition}

theorem convertedAt_nil : root.ConvertedAt [] e ↔ root = e := by
  constructor
  · exact fun h => Option.some.inj h.1
  · rintro rfl
    exact ⟨rfl, fun q _ hq hne => absurd (List.prefix_nil.mp hq) hne⟩

/-- What is converted below a branch is what is converted below one of its children. -/
theorem convertedAt_cons {i : Nat} {p : List Nat} : root.ConvertedAt (i :: p) e ↔
    root.content.isBranch = true ∧ ∃ child, root.children[i]? = some child ∧
      child.ConvertedAt p e := by
  constructor
  · rintro ⟨hat, habove⟩
    obtain ⟨child, hchild, hat⟩ := Option.bind_eq_some_iff.mp hat
    refine ⟨habove [] root List.nil_prefix (List.cons_ne_nil i p).symm rfl, child, hchild, hat, ?_⟩
    intro q above hq hne hqat
    refine habove (i :: q) above (List.cons_prefix_cons.mpr ⟨rfl, hq⟩) ?_ ?_
    · exact fun h => hne (List.cons.inj h).2
    · exact Option.bind_eq_some_iff.mpr ⟨child, hchild, hqat⟩
  · rintro ⟨hbranch, child, hchild, hat, habove⟩
    refine ⟨Option.bind_eq_some_iff.mpr ⟨child, hchild, hat⟩, ?_⟩
    intro q above hq hne hqat
    cases q with
    | nil =>
      obtain rfl := Option.some.inj hqat
      exact hbranch
    | cons j q =>
      obtain ⟨rfl, hbelow⟩ := List.cons_prefix_cons.mp hq
      obtain ⟨other, hother, hqat⟩ := Option.bind_eq_some_iff.mp hqat
      obtain rfl := Option.some.inj (hchild.symm.trans hother)
      exact habove q above hbelow (fun h => hne (by rw [h])) hqat

theorem nodes_eq_map (definitions : List Definition) (es : List Element) :
    nodes definitions es = es.map (node definitions) := by
  induction es with
  | nil => rfl
  | cons e es ih => rw [nodes, ih, List.map_cons]

theorem node_eq (definitions : List Definition) (e : Element) :
    e.node definitions =
      ⟨(shapeOf definitions e.content).kind, e.span, (shapeOf definitions e.content).value,
        (shapeOf definitions e.content).data,
        if (shapeOf definitions e.content).keepsChildren then e.children.map (node definitions)
          else []⟩ := by
  rw [← nodes_eq_map]
  cases e with
  | mk content span children => rw [node]

theorem keepsChildren_shapeOf (definitions : List Definition) (content : Content) :
    (shapeOf definitions content).keepsChildren = content.isBranch := by
  cases content with
  | linkReference identifier =>
    simp only [shapeOf]
    split <;> rfl
  | imageReference identifier =>
    simp only [shapeOf]
    split <;> rfl
  | _ => rfl

theorem children_node (definitions : List Definition) (e : Element) :
    (e.node definitions).children =
      if e.content.isBranch then e.children.map (node definitions) else [] := by
  rw [node_eq, keepsChildren_shapeOf]

/-- The node at a path is that of the element there, if the element is converted. -/
theorem at?_node_eq_some_iff {p : List Nat} {n : Node} :
    (root.node definitions).at? p = some n ↔
      ∃ e, root.ConvertedAt p e ∧ e.node definitions = n := by
  induction p generalizing root with
  | nil => simp [Tree.Node.at?, convertedAt_nil]
  | cons i p ih =>
    simp only [Tree.Node.at?, Option.bind_eq_some_iff, convertedAt_cons, children_node]
    constructor
    · rintro ⟨child, hchild, hat⟩
      cases hbranch : root.content.isBranch with
      | false => simp [hbranch] at hchild
      | true =>
        rw [hbranch, if_pos rfl, List.getElem?_map, Option.map_eq_some_iff] at hchild
        obtain ⟨element, helement, rfl⟩ := hchild
        obtain ⟨e, he, hn⟩ := ih.mp hat
        exact ⟨e, ⟨rfl, element, helement, he⟩, hn⟩
    · rintro ⟨e, ⟨hbranch, element, helement, he⟩, hn⟩
      refine ⟨element.node definitions, ?_, ih.mpr ⟨e, he, hn⟩⟩
      rw [hbranch, if_pos rfl, List.getElem?_map, helement, Option.map_some]

end Conversion

end Element

/-! ### What a node says of its element -/

/-- The kind of node that stands for a content on its own. -/
def Content.kind : Content → Kind
  | .root => .document
  | .paragraph => .paragraph
  | .heading _ => .header
  | .text _ => .str
  | .emphasis => .emphasis
  | .strong => .strong
  | .delete => .delete
  | .code _ => .code
  | .codeBlock _ _ => .codeBlock
  | .link _ _ => .link
  | .image _ _ => .image
  | .linkReference _ => .linkReference
  | .imageReference _ => .imageReference
  | .list _ => .list
  | .item => .listItem
  | .quote => .blockQuote
  | .thematicBreak => .horizontalRule
  | .break => .break
  | .html _ => .html
  | .table => .table
  | .row => .tableRow
  | .cell => .tableCell
  | .definition _ _ _ | .footnoteDefinition _ | .footnoteReference | .other => .html

/-- The text that a content holds itself. -/
def Content.value? : Content → Option String
  | .text value | .code value | .codeBlock _ value | .html value => some value
  | _ => none

/-- The data that a content holds itself. -/
def Content.data : Content → Data
  | .heading depth => .header depth
  | .codeBlock language _ => .codeBlock language
  | .link url title | .image url title => .link url title
  | .list ordered => .list ordered
  | _ => .none

namespace Element

/-- Where its identifier is defined, a reference is a node of the kind `resolved` with the target of
the one definition that is the first, and otherwise one of its own kind without a target. -/
structure Resolved (root : Element) (identifier : String) (own resolved : Kind) (n : Node) :
    Prop where
  defined : root.Defines identifier →
    ∃ d, (∀ other, root.FirstDefinition identifier other ↔ other = d) ∧
      n.kind = resolved ∧ n.data = .link d.url d.title
  undefined : (n.kind = own ∧ n.target = none) ↔ ¬ root.Defines identifier

/-- What the document tree holds for an element of the syntax tree `root`. -/
structure Represents (root e : Element) (n : Node) : Prop where
  span : n.span = e.span
  value : n.value = e.content.value?
  children : n.children.length = if e.content.isBranch then e.children.length else 0
  linkReference : ∀ identifier, e.content = .linkReference identifier →
    root.Resolved identifier .linkReference .link n
  imageReference : ∀ identifier, e.content = .imageReference identifier →
    root.Resolved identifier .imageReference .image n
  other : (∀ identifier, e.content ≠ .linkReference identifier) →
    (∀ identifier, e.content ≠ .imageReference identifier) →
      n.kind = e.content.kind ∧ n.data = e.content.data

theorem value_shapeOf (definitions : List Definition) (content : Content) :
    (shapeOf definitions content).value = content.value? := by
  cases content with
  | linkReference identifier =>
    simp only [shapeOf]
    split <;> rfl
  | imageReference identifier =>
    simp only [shapeOf]
    split <;> rfl
  | _ => rfl

/-- A node is resolved if the search for a definition decides what it is. -/
theorem resolved_of_target? {root : Element} {identifier : String} {own resolved : Kind} {n : Node}
    (hne : own ≠ resolved)
    (hsome : ∀ d, target? root.definitions identifier = some d →
      n.kind = resolved ∧ n.data = .link d.url d.title)
    (hnone : target? root.definitions identifier = none → n.kind = own ∧ n.data = .none) :
    root.Resolved identifier own resolved n where
  defined := by
    intro hdefines
    obtain ⟨d, hd⟩ : ∃ d, target? root.definitions identifier = some d := by
      rw [← Option.ne_none_iff_exists', Ne, target?_eq_none_iff, not_not]
      exact hdefines
    refine ⟨d, fun other => ?_, hsome d hd⟩
    rw [← target?_eq_some_iff, hd, Option.some.injEq, eq_comm]
  undefined := by
    rw [← target?_eq_none_iff]
    constructor
    · rintro ⟨hown, -⟩
      rw [Option.eq_none_iff_forall_ne_some]
      intro d hd
      exact hne (hown.symm.trans (hsome d hd).1)
    · intro h
      obtain ⟨hkind, hdata⟩ := hnone h
      exact ⟨hkind, by rw [Tree.Node.target, hdata]⟩

theorem represents_node (root e : Element) : root.Represents e (e.node root.definitions) where
  span := by rw [node_eq]
  value := by rw [node_eq, value_shapeOf]
  children := by
    rw [children_node]
    split <;> simp
  linkReference := by
    intro identifier hcontent
    refine resolved_of_target? (by decide) (fun d hd => ?_) (fun hd => ?_) <;>
      simp [node_eq, hcontent, shapeOf, hd, Shape.parent]
  imageReference := by
    intro identifier hcontent
    refine resolved_of_target? (by decide) (fun d hd => ?_) (fun hd => ?_) <;>
      simp [node_eq, hcontent, shapeOf, hd, Shape.leaf]
  other := by
    intro hlink himage
    rw [node_eq]
    cases hcontent : e.content with
    | linkReference identifier => exact absurd hcontent (hlink identifier)
    | imageReference identifier => exact absurd hcontent (himage identifier)
    | _ => exact ⟨rfl, rfl⟩

/-- **References take the target of the first definition of their identifier.** The document tree
has a node exactly where the syntax tree has an element with no leaf above it. The node has the
span of the element and as many children, in their order, or none where the element becomes a leaf.
A reference among them is a link or an image with the target of the first definition in document
order, wherever that stands, and is left a reference without a target exactly if its identifier is
defined nowhere; any other element keeps its kind, its text and its data. -/
theorem document_represents (root : Element) (p : List Nat) :
    (∀ n, root.document.at? p = some n → ∃ e, root.ConvertedAt p e ∧ root.Represents e n) ∧
      ∀ e, root.ConvertedAt p e → ∃ n, root.document.at? p = some n ∧ root.Represents e n := by
  constructor
  · intro n hn
    obtain ⟨e, he, rfl⟩ := at?_node_eq_some_iff.mp hn
    exact ⟨e, he, represents_node root e⟩
  · intro e he
    exact ⟨_, at?_node_eq_some_iff.mpr ⟨e, he, rfl⟩, represents_node root e⟩

/-- A reference before two definitions of its identifier, the first of them in a footnote. -/
def noteBeforeDefinition : Element :=
  ⟨.root, ⟨0, 0⟩, [
    ⟨.paragraph, ⟨0, 0⟩, [⟨.linkReference "sop", ⟨0, 0⟩, []⟩]⟩,
    ⟨.footnoteDefinition "note", ⟨0, 0⟩, [⟨.definition "sop" "note.md" none, ⟨0, 0⟩, []⟩]⟩,
    ⟨.definition "sop" "root.md" none, ⟨0, 0⟩, []⟩]⟩

example : (noteBeforeDefinition.document.at? [0, 0]).map (·.data) = some (.link "note.md" none) ∧
    (noteBeforeDefinition.document.at? [1, 0]).isNone = true := by
  decide +kernel

end Element

end Markdown

end SopDocs
