import SopDocs.Proofs.Tree.Section

/-!
# Sections among siblings are nested or apart

The section of a heading starts right behind it and stops where the next heading of the same or a
higher level stands, or behind the last sibling. A heading in the section of another is deeper than
that one, so what stops the outer section stops the inner one too, if nothing did before. That is
all that nesting rests on: the levels may skip some or come in any order.
-/

namespace SopDocs.Tree

/-- A heading of level `depth` stands at an index among siblings. -/
def HeadingAt (siblings : List Node) (index depth : Nat) : Prop :=
  ∃ node, siblings[index]? = some node ∧ node.headingDepth = some depth

/-- Where the section of the heading of level `depth` at `index` stops. -/
structure StopsAt (siblings : List Node) (index depth stop : Nat) : Prop where
  start_le : index + 1 ≤ stop
  le_length : stop ≤ siblings.length
  deeper : ∀ k d, index < k → k < stop → HeadingAt siblings k d → depth < d
  stopped : stop = siblings.length ∨ ∃ d ≤ depth, HeadingAt siblings stop d

variable {siblings : List Node} {index depth : Nat}

theorem HeadingAt.lt_length (h : HeadingAt siblings index depth) : index < siblings.length := by
  obtain ⟨node, hnode, -⟩ := h
  exact (List.getElem?_eq_some_iff.mp hnode).1

/-- Behind a heading stand the siblings of its section and then, if any, one that ends it. -/
theorem HeadingAt.exists_split (h : HeadingAt siblings index depth) : ∃ content rest,
    siblings.drop (index + 1) = content ++ rest ∧
    sectionRange siblings index = (index + 1, index + 1 + content.length) ∧
    (∀ node ∈ content, ¬ Ends depth node) ∧ ∀ node, rest.head? = some node → Ends depth node := by
  obtain ⟨node, hnode, hdepth⟩ := h
  let place : Place := ⟨siblings.take index, node, siblings.drop (index + 1)⟩
  obtain ⟨rest, hsplit, hinside, hstop⟩ : SectionAt place depth
    ((siblings.drop (index + 1)).takeWhile (! endsSection depth ·)) := sectionAt_iff.mpr rfl
  exact ⟨_, rest, hsplit, sectionRange_of_headingDepth hnode hdepth, hinside, hstop⟩

/-- The section range starts right behind the heading and stops where its section does. -/
theorem HeadingAt.exists_stop (h : HeadingAt siblings index depth) :
    ∃ stop, sectionRange siblings index = (index + 1, stop) ∧
      StopsAt siblings index depth stop := by
  have hlength := h.lt_length
  obtain ⟨content, rest, hsplit, hrange, hinside, hstop⟩ := h.exists_split
  have hafter : ∀ m, siblings[index + 1 + m]? = (content ++ rest)[m]? := by
    intro m
    rw [← hsplit, List.getElem?_drop]
  have hcount : siblings.length - (index + 1) = content.length + rest.length := by
    rw [← List.length_drop, hsplit, List.length_append]
  refine ⟨index + 1 + content.length, hrange, by omega, by omega, ?_, ?_⟩
  · rintro k d hlt hk ⟨inner, hinner, hd⟩
    obtain ⟨m, rfl⟩ : ∃ m, k = index + 1 + m := ⟨k - (index + 1), by omega⟩
    have hm : m < content.length := by omega
    rw [hafter, List.getElem?_append_left hm] at hinner
    apply Nat.lt_of_not_le
    intro hle
    exact hinside inner (List.mem_of_getElem? hinner) ⟨d, hd, hle⟩
  · cases rest with
    | nil =>
      rw [List.length_nil] at hcount
      exact Or.inl (by omega)
    | cons next rest =>
      have hnext : siblings[index + 1 + content.length]? = some next := by
        rw [hafter, List.getElem?_append_right (Nat.le_refl _), Nat.sub_self]
        rfl
      obtain ⟨d, hd, hle⟩ := hstop next rfl
      exact Or.inr ⟨d, hle, next, hnext, hd⟩

/-! ### Two sections -/

variable {inner innerDepth stop innerStop : Nat}

/-- The section of a heading inside another section stops inside it. -/
theorem StopsAt.nested (houter : StopsAt siblings index depth stop)
    (hinner : StopsAt siblings inner innerDepth innerStop)
    (hheading : HeadingAt siblings inner innerDepth) (hlt : index < inner) (hin : inner < stop) :
    innerStop ≤ stop := by
  have hdepth : depth < innerDepth := houter.deeper inner innerDepth hlt hin hheading
  apply Nat.le_of_not_lt
  intro hover
  -- then the heading that stops the outer section stands in the inner one
  rcases houter.stopped with hend | ⟨d, hle, hstop⟩
  · have := hinner.le_length
    omega
  · have := hinner.deeper stop d hin hover hstop
    omega

/-- An index lies in a range whose end is excluded. -/
def InRange (range : Nat × Nat) (k : Nat) : Prop := range.1 ≤ k ∧ k < range.2

/-- **The section range of a heading is exact, and the ranges of two headings are nested or apart.**
It goes from behind the heading to the next sibling heading of the same or a higher level or, if
there is none, over all siblings. The range of a later heading lies in it if that heading does, and
has no index in common with it otherwise. -/
theorem sectionRange_nested (siblings : List Node) :
    (∀ index depth, HeadingAt siblings index depth →
      ∃ stop, sectionRange siblings index = (index + 1, stop) ∧
        index + 1 ≤ stop ∧ stop ≤ siblings.length ∧
        (∀ k d, index < k → k < stop → HeadingAt siblings k d → depth < d) ∧
        (stop = siblings.length ∨ ∃ d ≤ depth, HeadingAt siblings stop d)) ∧
    ∀ index depth inner innerDepth, HeadingAt siblings index depth →
      HeadingAt siblings inner innerDepth → index < inner →
      (InRange (sectionRange siblings index) inner →
        (sectionRange siblings index).1 ≤ (sectionRange siblings inner).1 ∧
        (sectionRange siblings inner).2 ≤ (sectionRange siblings index).2) ∧
      (¬ InRange (sectionRange siblings index) inner →
        ∀ k, InRange (sectionRange siblings index) k →
          ¬ InRange (sectionRange siblings inner) k) := by
  constructor
  · intro index depth hheading
    obtain ⟨stop, hrange, hstop⟩ := hheading.exists_stop
    exact ⟨stop, hrange, hstop.start_le, hstop.le_length, hstop.deeper, hstop.stopped⟩
  · intro index depth inner innerDepth hheading hinner hlt
    obtain ⟨stop, hrange, hstop⟩ := hheading.exists_stop
    obtain ⟨innerStop, hinnerRange, hinnerStop⟩ := hinner.exists_stop
    rw [hrange, hinnerRange]
    constructor
    · rintro ⟨-, hin⟩
      exact ⟨Nat.succ_le_succ (Nat.le_of_lt hlt), hstop.nested hinnerStop hinner hlt hin⟩
    · rintro hout k ⟨-, hk⟩ ⟨hinnerStart, -⟩
      -- the outer section stops no later than the inner heading, which is in front of its own
      exact hout ⟨hlt, (Nat.le_of_succ_le hinnerStart).trans_lt hk⟩

/-- Headings whose levels skip some and come in no order, with a text between them. -/
def unevenSiblings : List Node :=
  let heading := fun depth => (⟨.header, ⟨0, 0⟩, none, .header depth, []⟩ : Node)
  [heading 2, heading 5, heading 3, ⟨.paragraph, ⟨0, 0⟩, none, .none, []⟩, heading 4,
    heading 1, heading 6]

theorem sectionRange_nested_uneven :
    HeadingAt unevenSiblings 0 2 ∧ HeadingAt unevenSiblings 1 5 ∧ HeadingAt unevenSiblings 2 3 ∧
    sectionRange unevenSiblings 0 = (1, 5) ∧ sectionRange unevenSiblings 1 = (2, 2) ∧
    sectionRange unevenSiblings 2 = (3, 5) ∧
    (∃ stop, sectionRange unevenSiblings 0 = (1, stop) ∧
      (stop = 7 ∨ ∃ d ≤ 2, HeadingAt unevenSiblings stop d)) ∧
    (sectionRange unevenSiblings 2).2 ≤ (sectionRange unevenSiblings 0).2 ∧
    ∀ k, InRange (sectionRange unevenSiblings 1) k →
      ¬ InRange (sectionRange unevenSiblings 2) k := by
  have hfirst : HeadingAt unevenSiblings 0 2 := ⟨_, rfl, rfl⟩
  have hsecond : HeadingAt unevenSiblings 1 5 := ⟨_, rfl, rfl⟩
  have hthird : HeadingAt unevenSiblings 2 3 := ⟨_, rfl, rfl⟩
  have hin : InRange (sectionRange unevenSiblings 0) 2 := ⟨by decide, by decide⟩
  have hout : ¬ InRange (sectionRange unevenSiblings 1) 2 := fun h => absurd h.2 (by decide)
  obtain ⟨hexact, hpairs⟩ := sectionRange_nested unevenSiblings
  obtain ⟨stop, hrange, -, -, -, hstopped⟩ := hexact 0 2 hfirst
  obtain ⟨hnested, -⟩ := hpairs 0 2 2 3 hfirst hthird (by decide)
  obtain ⟨-, hapart⟩ := hpairs 1 5 2 3 hsecond hthird (by decide)
  exact ⟨hfirst, hsecond, hthird, rfl, rfl, rfl, ⟨stop, hrange, hstopped⟩, (hnested hin).2,
    hapart hout⟩

end SopDocs.Tree
