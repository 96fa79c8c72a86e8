import SopDocs.Proofs.Text.Search
import SopDocs.Proofs.Text.Slice
import SopDocs.Tree.Section

/-!
# A section is looked up in document order

One function lists the nodes below a node, another looks for the first heading of a kind and gives
what follows it among its siblings. They go through the tree in the same order. To say so, each
node is listed together with its siblings: without the siblings this is the first list, and the
second function finds the first entry whose node is the heading that it looks for.
-/

namespace SopDocs.Tree

/-! ### Nodes among their siblings -/

/-- A node of a tree with the siblings before and after it. -/
structure Place where
  before : List Node
  node : Node
  after : List Node

def Place.siblings (place : Place) : List Node := place.before ++ place.node :: place.after

mutual
/-- The places of all nodes below a node, each before those of its own descendants. -/
def Node.places : Node → List Place
  | ⟨_, _, _, _, children⟩ => placesAmong [] children

/-- The places of siblings, the first of which follow `before`, and of their descendants. -/
def placesAmong (before : List Node) : List Node → List Place
  | [] => []
  | n :: r => ⟨before, n, r⟩ :: (n.places ++ placesAmong (before ++ [n]) r)
end

/-- The places of all headings below a node. -/
def Node.headings (root : Node) : List Place := root.places.filter (·.node.kind == .header)

mutual
theorem Node.map_node_places : ∀ root : Node, root.places.map Place.node = root.descendants
  | ⟨_, _, _, _, children⟩ => map_node_placesAmong [] children

theorem map_node_placesAmong (before : List Node) : ∀ siblings : List Node,
    (placesAmong before siblings).map Place.node = Node.withDescendants siblings
  | [] => rfl
  | n :: r => by
    rw [placesAmong, Node.withDescendants, List.map_cons, List.map_append, n.map_node_places,
      map_node_placesAmong (before ++ [n]) r]
end

theorem Node.map_node_headings (root : Node) :
    root.headings.map Place.node = root.findAll .header := by
  have hfilter : (root.places.filter ((·.kind == .header) ∘ Place.node)).map Place.node =
      (root.places.map Place.node).filter (·.kind == .header) := List.filter_map.symm
  rw [root.map_node_places] at hfilter
  exact hfilter

mutual
/-- The siblings of a place are the children of one node. -/
theorem Node.siblings_of_mem_places : ∀ (root : Node) {place : Place}, place ∈ root.places →
    place.siblings = root.children ∨ ∃ parent ∈ root.descendants, place.siblings = parent.children
  | ⟨_, _, _, _, children⟩, _, h => siblings_of_mem_placesAmong [] children h

theorem siblings_of_mem_placesAmong (before : List Node) : ∀ (siblings : List Node)
    {place : Place}, place ∈ placesAmong before siblings →
    place.siblings = before ++ siblings ∨
      ∃ parent ∈ Node.withDescendants siblings, place.siblings = parent.children
  | [], _, h => absurd h List.not_mem_nil
  | n :: r, place, h => by
    rw [Node.withDescendants]
    rcases List.mem_cons.mp h with rfl | h
    · exact Or.inl rfl
    · rcases List.mem_append.mp h with h | h
      · rcases n.siblings_of_mem_places h with hchildren | ⟨parent, hparent, hchildren⟩
        · exact Or.inr ⟨n, List.mem_cons_self, hchildren⟩
        · refine Or.inr ⟨parent, ?_, hchildren⟩
          exact List.mem_cons_of_mem n (List.mem_append_left _ hparent)
      · rcases siblings_of_mem_placesAmong (before ++ [n]) r h with
          hsiblings | ⟨parent, hparent, hchildren⟩
        · rw [List.append_assoc, List.singleton_append] at hsiblings
          exact Or.inl hsiblings
        · refine Or.inr ⟨parent, ?_, hchildren⟩
          exact List.mem_cons_of_mem n (List.mem_append_right _ hparent)
end

/-! ### The section at a place -/

/-- A sibling that ends a section: a heading of the same or a higher level. -/
def Ends (depth : Nat) (sibling : Node) : Prop := ∃ d, sibling.headingDepth = some d ∧ d ≤ depth

/-- The siblings after a place, up to the next heading of level `depth` or a higher one. -/
def SectionAt (place : Place) (depth : Nat) (content : List Node) : Prop :=
  ∃ rest, place.after = content ++ rest ∧ (∀ n ∈ content, ¬ Ends depth n) ∧
    ∀ n, rest.head? = some n → Ends depth n

theorem endsSection_iff {depth : Nat} {sibling : Node} :
    endsSection depth sibling = true ↔ Ends depth sibling := by
  unfold endsSection Ends
  cases sibling.headingDepth with
  | none => simp
  | some d => simp

theorem sectionAt_iff {place : Place} {depth : Nat} {content : List Node} :
    SectionAt place depth content ↔
      content = place.after.takeWhile (! endsSection depth ·) := by
  have hends : ∀ n, (! endsSection depth n) = false ↔ Ends depth n := by
    intro n
    rw [← endsSection_iff, Bool.not_eq_false']
  unfold SectionAt
  rw [Text.eq_takeWhile_iff]
  simp only [← hends, Bool.not_eq_false]

theorem sectionRange_of_headingDepth {siblings : List Node} {index depth : Nat} {node : Node}
    (hnode : siblings[index]? = some node) (hdepth : node.headingDepth = some depth) :
    sectionRange siblings index = (index + 1, index + 1 +
      ((siblings.drop (index + 1)).takeWhile (! endsSection depth ·)).length) := by
  unfold sectionRange
  rw [hnode, Option.bind_some, hdepth]

/-- The siblings that the section range of a place covers. -/
def Place.range (place : Place) : List Node :=
  let (start, stop) := sectionRange place.siblings place.before.length
  (place.siblings.take stop).drop start

theorem SectionAt.eq_range {place : Place} {depth : Nat} {content : List Node}
    (h : SectionAt place depth content) (hdepth : place.node.headingDepth = some depth) :
    content = place.range := by
  have hnode : place.siblings[place.before.length]? = some place.node := by
    simp [Place.siblings]
  have hafter : place.siblings.drop (place.before.length + 1) = place.after := by
    simp [Place.siblings]
  have hrange := sectionRange_of_headingDepth hnode hdepth
  rw [hafter, ← sectionAt_iff.mp h] at hrange
  obtain ⟨rest, hsplit, -, -⟩ := h
  unfold Place.range
  simp only [hrange]
  rw [List.drop_take, hafter, hsplit, Nat.add_sub_cancel_left, List.take_left]

/-! ### Looking a section up -/

/-- A heading of the level that a locator asks for, with its text in it. -/
def Locator.Finds (locator : Locator) (node : Node) : Prop :=
  node.headingDepth = some locator.depth ∧ Text.Mentions node.plainText locator.text

/-- The place of the first heading that a locator finds, among all headings in their order. -/
def FirstAt (root : Node) (locator : Locator) (place : Place) : Prop :=
  ∃ earlier later, root.headings = earlier ++ place :: later ∧ locator.Finds place.node ∧
    ∀ other ∈ earlier, ¬ locator.Finds other.node

variable {locator : Locator}

theorem Locator.matches_iff {node : Node} : locator.matches node = true ↔ locator.Finds node := by
  unfold Locator.matches Locator.Finds
  rw [Bool.and_eq_true, beq_iff_eq, Text.contains_iff]

theorem Node.kind_of_headingDepth {node : Node} {depth : Nat}
    (h : node.headingDepth = some depth) : node.kind = .header := by
  unfold Node.headingDepth at h
  split at h
  · next hkind _ => exact hkind
  · cases h

mutual
/-- Looking a section up stops at the first place of a heading that the locator finds. -/
theorem Node.section?_eq (locator : Locator) : ∀ root : Node, root.section? locator =
    (root.places.find? (locator.matches ·.node)).map
      fun place => place.after.takeWhile (! endsSection locator.depth ·)
  | ⟨_, _, _, _, children⟩ => sectionAmong?_eq locator [] children

theorem sectionAmong?_eq (locator : Locator) (before : List Node) : ∀ siblings : List Node,
    sectionAmong? locator siblings =
      ((placesAmong before siblings).find? (locator.matches ·.node)).map
        fun place => place.after.takeWhile (! endsSection locator.depth ·)
  | [] => rfl
  | n :: r => by
    rw [sectionAmong?, placesAmong, List.find?_cons, List.find?_append, n.section?_eq locator,
      sectionAmong?_eq locator (before ++ [n]) r]
    cases locator.matches n with
    | true => rfl
    | false => cases n.places.find? (locator.matches ·.node) <;> rfl
end

/-- Only headings are found, so that the other nodes may be left out. -/
theorem Node.find?_places (locator : Locator) (root : Node) :
    root.places.find? (locator.matches ·.node) =
      root.headings.find? (locator.matches ·.node) := by
  have hheader : ∀ place : Place, locator.matches place.node = true →
      (place.node.kind == .header) = true := by
    intro place hmatches
    obtain ⟨hdepth, -⟩ := Locator.matches_iff.mp hmatches
    exact beq_iff_eq.mpr (Node.kind_of_headingDepth hdepth)
  unfold Node.headings
  rw [List.find?_filter]
  congr 1
  funext place
  cases hmatches : locator.matches place.node with
  | false => simp
  | true => simp [hheader place hmatches]

theorem firstAt_iff {root : Node} {place : Place} : FirstAt root locator place ↔
    root.headings.find? (locator.matches ·.node) = some place := by
  rw [List.find?_eq_some_iff_append, Locator.matches_iff]
  unfold FirstAt
  constructor
  · rintro ⟨earlier, later, hsplit, hfinds, hnone⟩
    refine ⟨hfinds, earlier, later, hsplit, ?_⟩
    intro other hother
    rw [Bool.not_eq_true', ← Bool.not_eq_true, Locator.matches_iff]
    exact hnone other hother
  · rintro ⟨hfinds, earlier, later, hsplit, hnone⟩
    refine ⟨earlier, later, hsplit, hfinds, ?_⟩
    intro other hother
    rw [← Locator.matches_iff, Bool.not_eq_true, ← Bool.not_eq_true']
    exact hnone other hother

/-- **The section of a locator is that of the first heading it finds.** -/
theorem Node.section?_eq_some_iff {root : Node} {content : List Node} :
    root.section? locator = some content ↔
      ∃ place, FirstAt root locator place ∧ SectionAt place locator.depth content := by
  rw [root.section?_eq, root.find?_places, Option.map_eq_some_iff]
  constructor
  · rintro ⟨place, hplace, rfl⟩
    exact ⟨place, firstAt_iff.mpr hplace, sectionAt_iff.mpr rfl⟩
  · rintro ⟨place, hplace, hcontent⟩
    exact ⟨place, firstAt_iff.mp hplace, (sectionAt_iff.mp hcontent).symm⟩

/-- The section of a locator is the section range of the heading that it finds. -/
theorem FirstAt.section?_eq {root : Node} {place : Place} (h : FirstAt root locator place) :
    root.section? locator = some place.range := by
  have hcontent : SectionAt place locator.depth
      (place.after.takeWhile (! endsSection locator.depth ·)) := sectionAt_iff.mpr rfl
  have hdepth : place.node.headingDepth = some locator.depth := by
    obtain ⟨_, _, _, hfinds, _⟩ := h
    exact hfinds.1
  rw [Node.section?_eq_some_iff.mpr ⟨place, h, hcontent⟩, hcontent.eq_range hdepth]

theorem Node.section?_eq_none_iff {root : Node} :
    root.section? locator = none ↔ ∀ heading ∈ root.findAll .header, ¬ locator.Finds heading := by
  rw [root.section?_eq, root.find?_places, Option.map_eq_none_iff, List.find?_eq_none,
    ← root.map_node_headings, List.forall_mem_map]
  simp only [Locator.matches_iff]

end SopDocs.Tree
