import SopDocs.Proofs.Markdown.Phrase
import SopDocs.Proofs.Markdown.Reading

/-!
# The elements of a text reach from its start to its end

Reading a text groups what is read but neither loses nor moves its ends. So the first
element starts where the text does and the last one stops where it does. There is one
exception: the backslash that escapes the first character belongs to no element.
-/

namespace SopDocs.Markdown

variable {f l : Glyph} {p : Piece}

/-- A text without the backslash that escapes its first character. -/
def dropEscape : List Glyph → List Glyph
  | g :: h :: r => if g.char == '\\' && isAsciiPunctuation h.char then h :: r else g :: h :: r
  | gs => gs

theorem head_dropEscape {g : Glyph} (r : List Glyph)
    (h : g.char = '\\' → ∀ i, r.head? = some i → isAsciiPunctuation i.char = false) :
    (dropEscape (g :: r)).head? = some g := by
  cases r with
  | nil => rfl
  | cons i r =>
    rw [dropEscape, if_neg]
    · rfl
    · simp only [Bool.and_eq_true, beq_iff_eq, not_and, Bool.not_eq_true]
      exact fun hg => h hg i rfl

/-! ### Reading -/

/-- How one step of reading changes the pieces, last one first: those from some point on become one
piece. It reaches from where they started to `l`, or from `f` if they were none. -/
inductive Grows (f l : Glyph) : List Piece → List Piece → Prop where
  | added {outer : List Piece} (p : Piece) (hopens : p.OpensAt f) (hcloses : p.ClosesAt l) :
      Grows f l outer (p :: outer)
  | closed {inner outer : List Piece} (opening p : Piece)
      (hopens : ∀ f', opening.OpensAt f' → p.OpensAt f') (hcloses : p.ClosesAt l) :
      Grows f l (inner ++ opening :: outer) (p :: outer)

namespace Grows

variable {old new : List Piece}

theorem closes (h : Grows f l old new) : Closed l new := by
  cases h with
  | added p _ hcloses => exact closed_cons hcloses
  | closed opening p _ hcloses => exact closed_cons hcloses

theorem opens_of_nil (h : Grows f l [] new) : Opened f new := by
  generalize hold : ([] : List Piece) = old at h
  cases h with
  | added p hopens _ =>
    subst hold
    exact ⟨p, rfl, hopens⟩
  | closed opening p _ _ => simp at hold

theorem opens {f' : Glyph} (h : Grows f l old new) (hold : Opened f' old) : Opened f' new := by
  cases h with
  | added p _ _ => exact hold.cons
  | @closed inner outer opening p hopens _ =>
    cases outer with
    | nil =>
      obtain ⟨q, hq, hq'⟩ := hold
      rw [List.getLast?_concat] at hq
      rw [← Option.some.inj hq] at hq'
      exact ⟨p, rfl, hopens f' hq'⟩
    | cons q outer =>
      have houter : Opened f' (q :: outer) := by
        refine opened_of_append (inner ++ [opening]) ?_ (List.cons_ne_nil q outer)
        rw [List.append_assoc]
        exact hold
      exact houter.cons

end Grows

/-- The pieces that surround open labels, last one first, with the openings as text. -/
def aroundLabels : List OpenLabel → List Piece
  | [] => []
  | label :: labels => .data label.opening :: (label.before ++ aroundLabels labels)

/-- The pieces of a reading, last one first. -/
def Reading.flat (state : Reading) : List Piece := state.pieces ++ aroundLabels state.labels

theorem finish_eq (state : Reading) : state.finish = state.flat.reverse := by
  have hfold : ∀ (labels : List OpenLabel) (ps : List Piece),
      labels.foldl (fun inner l => inner ++ .data l.opening :: l.before) ps =
        ps ++ aroundLabels labels := by
    intro labels
    induction labels with
    | nil => simp [aroundLabels]
    | cons label labels ih =>
      intro ps
      rw [List.foldl_cons, ih, aroundLabels]
      simp
  unfold Reading.finish Reading.flat
  rw [hfold]

/-- What one step of reading takes off the start of a text, and what it makes of the pieces. -/
def Advances (gs : List Glyph) (state : Reading) (next : Reading × List Glyph) : Prop :=
  ∃ read f l, gs = read ++ next.2 ∧ read.getLast? = some l ∧
    (dropEscape gs).head? = some f ∧ Grows f l state.flat next.1.flat

section Steps

variable {scope : Scope} {state : Reading} {g : Glyph} {r rest : List Glyph}

/-- A step that adds one piece. -/
theorem advances_add {read : List Glyph} {last : Option Char} (hread : g :: r = read ++ rest)
    (hhead : (dropEscape (g :: r)).head? = some f) (hlast : read.getLast? = some l)
    (hopens : p.OpensAt f) (hcloses : p.ClosesAt l) :
    Advances (g :: r) state (state.add p last, rest) :=
  ⟨read, f, l, hread, hlast, hhead, .added p hopens hcloses⟩

theorem advances_addData (read : List Glyph) (hread : g :: r = read ++ rest) (hne : read ≠ [])
    (hhead : (dropEscape (g :: r)).head? = some g) :
    Advances (g :: r) state (state.addData read, rest) := by
  cases read with
  | nil => exact absurd rfl hne
  | cons g' t =>
    obtain ⟨rfl, -⟩ := List.cons.inj hread
    exact advances_add hread hhead (List.getLast?_cons ..) rfl (List.getLast?_cons ..)

theorem advances_openLabel {kind : LabelKind} (opening : List Glyph)
    (hread : g :: r = opening ++ rest) (hne : opening ≠ [])
    (hhead : (dropEscape (g :: r)).head? = some g) :
    Advances (g :: r) state (state.openLabel kind opening, rest) := by
  cases opening with
  | nil => exact absurd rfl hne
  | cons g' t =>
    obtain ⟨rfl, -⟩ := List.cons.inj hread
    exact ⟨_, g, _, hread, List.getLast?_cons .., hhead,
      .added (.data (g :: t)) rfl (List.getLast?_cons ..)⟩

/-- A step that adds a piece for all that it reads up to `rest`. -/
theorem advances_taken {last : Option Char} (hleaves : Leaves (g :: r) rest)
    (hhead : (dropEscape (g :: r)).head? = some g) (hopens : p.OpensAt g)
    (hcloses : ∀ l, (taken (g :: r) rest).getLast? = some l → p.ClosesAt l) :
    Advances (g :: r) state (state.add p last, rest) := by
  have hlast := List.getLast?_eq_some_getLast (taken_ne_nil hleaves)
  exact advances_add (eq_taken_append hleaves.suffix) hhead hlast hopens (hcloses _ hlast)

theorem taken_cons (g : Glyph) (h : rest <:+ r) : taken (g :: r) rest = g :: taken r rest := by
  obtain ⟨read, rfl⟩ := h
  rw [taken_append, ← List.cons_append, taken_append]

theorem head?_taken (h : Leaves (g :: r) rest) : (taken (g :: r) rest).head? = some g := by
  obtain ⟨read, hread, heq⟩ := h
  rw [heq, taken_append]
  cases read with
  | nil => exact absurd rfl hread
  | cons i t =>
    rw [List.cons_append] at heq
    rw [(List.cons.inj heq).1]
    rfl

/-- The offset where something stops is the same with what stands before it. -/
theorem stopOf_taken (h : Leaves r rest) (hlast : (taken (g :: r) rest).getLast? = some l) :
    stopOf 0 (taken r rest) = l.stop := by
  rw [taken_cons g h.suffix, List.getLast?_cons,
    List.getLast?_eq_some_getLast (taken_ne_nil h)] at hlast
  exact stopOf_of_getLast? 0 ((List.getLast?_eq_some_getLast (taken_ne_nil h)).trans hlast)

theorem runPiece_opensAt {gs : List Glyph} (h : gs.head? = some f) : (runPiece gs).OpensAt f := by
  unfold runPiece
  split
  · exact h
  · exact h

theorem runPiece_closesAt {gs : List Glyph} (h : gs.getLast? = some l) :
    (runPiece gs).ClosesAt l := by
  unfold runPiece
  split
  · exact h
  · exact h

theorem aroundLabels_map (labels : List OpenLabel) {active : OpenLabel → Bool} :
    aroundLabels (labels.map fun l =>
      if l.kind = .image then l else { l with active := active l }) =
      aroundLabels labels := by
  induction labels with
  | nil => rfl
  | cons label labels ih =>
    rw [List.map_cons, aroundLabels, aroundLabels, ih]
    split <;> rfl

/-- A label that closes becomes one element from its opening on; one that does not is text. -/
theorem advances_closeLabel (hchar : g.char = ']') :
    Advances (g :: r) state (closeLabel scope state g r) := by
  have hhead : (dropEscape (g :: r)).head? = some g :=
    head_dropEscape r fun h => by rw [hchar] at h; cases h
  unfold closeLabel
  split
  · exact advances_addData [g] rfl (List.cons_ne_nil _ _) hhead
  · next label labels heq =>
    have hflat : state.flat =
        state.pieces ++ .data label.opening :: (label.before ++ aroundLabels labels) := by
      unfold Reading.flat
      rw [heq]
      rfl
    have hrefused : Advances (g :: r) state
        ({ state with
            labels := labels
            pieces := .data [g] :: (state.pieces ++ .data label.opening :: label.before)
            previous := some g.char }, r) := by
      refine ⟨[g], g, g, rfl, rfl, hhead, ?_⟩
      have hnew : ∀ previous, Reading.flat ⟨labels,
          .data [g] :: (state.pieces ++ .data label.opening :: label.before), previous⟩ =
          .data [g] :: state.flat := by
        intro previous
        rw [hflat]
        simp [Reading.flat]
      rw [hnew]
      exact .added (.data [g]) rfl rfl
    have hclosed : ∀ {e : Element} {last : Option Char} {after : List Glyph}, after <:+ r →
        e.span = ⟨startOf 0 label.opening, stopOf 0 (g :: taken r after)⟩ →
        Advances (g :: r) state (state.closeWith label labels e last, after) := by
      intro e last after hafter hspan
      have hread : g :: r = (g :: taken r after) ++ after := by
        rw [List.cons_append, ← eq_taken_append hafter]
      have hlast : (g :: taken r after).getLast? = some ((taken r after).getLast?.getD g) :=
        List.getLast?_cons ..
      refine ⟨g :: taken r after, g, _, hread, hlast, hhead, ?_⟩
      have hnew : (state.closeWith label labels e last).flat =
          .element e :: (label.before ++ aroundLabels labels) := by
        unfold Reading.closeWith Reading.flat
        simp only
        split
        · rfl
        · rw [aroundLabels_map]
          rfl
      rw [hnew, hflat]
      refine .closed (.data label.opening) (.element e) ?_ ?_
      · intro f' hf'
        exact (congrArg Tree.Span.start hspan).trans (head?_of_startOf hf')
      · exact (congrArg Tree.Span.stop hspan).trans (stopOf_of_getLast? 0 hlast)
    simp only
    split
    · exact hrefused
    · split
      · refine hclosed List.suffix_rfl ?_
        rw [show taken r r = [] from taken_append [] r]
        rfl
      · split
        · exact hrefused
        · next key target after hclosing =>
          exact hclosed (closing?_suffix hclosing) rfl

/-- Each construct takes a part off the start of a text without line ends. -/
theorem readOne_advances (hg : g.isEnd = false) (hr : ∀ i ∈ r, i.isEnd = false) :
    Advances (g :: r) state (readOne scope state g r) := by
  unfold readOne
  simp only [hg, Bool.false_eq_true, if_false]
  split
  · next hslash =>
    split
    · exact advances_addData [g] rfl (List.cons_ne_nil _ _) rfl
    · next i t =>
      have hi : i.isEnd = false := hr i List.mem_cons_self
      simp only [hi, Bool.false_eq_true, if_false]
      split
      · next hpunctuation =>
        have hhead : (dropEscape (g :: i :: t)).head? = some i := by
          rw [dropEscape, if_pos (by simp [hslash, hpunctuation])]
          rfl
        have hread : g :: i :: t = [g, i] ++ t := rfl
        exact advances_add hread hhead rfl rfl rfl
      · next hpunctuation =>
        refine advances_addData [g] rfl (List.cons_ne_nil _ _) (head_dropEscape _ ?_)
        intro _ j hj
        rw [← Option.some.inj hj]
        simpa using hpunctuation
  · next hslash =>
    have hhead : (dropEscape (g :: r)).head? = some g :=
      head_dropEscape r fun h => absurd h (by simpa using hslash)
    have hplain : Advances (g :: r) state (state.addData [g], r) :=
      advances_addData [g] rfl (List.cons_ne_nil _ _) hhead
    have hdrop : ∀ c : Char, Leaves (g :: r) (r.dropWhile (·.char == c)) := fun c =>
      leaves_cons (List.dropWhile_suffix _)
    split
    · split
      · exact hplain
      · next cs rest href =>
        have hleaves := reference?_leaves href
        exact advances_taken (leaves_cons hleaves.suffix) hhead rfl
          fun l hl => stopOf_taken hleaves hl
    · split
      · next htick =>
        split
        · next e rest hcode =>
          obtain ⟨read, last, hread, hlast, hspan⟩ := code?_leaves htick hcode
          exact advances_add hread hhead hlast (congrArg Tree.Span.start hspan)
            (congrArg Tree.Span.stop hspan)
        · exact advances_addData _ (eq_taken_append (hdrop '\x60').suffix)
            (taken_ne_nil (hdrop '\x60')) hhead
      · split
        · exact advances_taken (hdrop g.char) hhead (runPiece_opensAt (head?_taken (hdrop g.char)))
            fun l hl => runPiece_closesAt hl
        · split
          · split
            · next before shown rest haddress =>
              have hleaves := bracketed?_leaves haddress
              exact advances_taken (leaves_cons hleaves.suffix) hhead rfl
                fun l hl => stopOf_taken hleaves hl
            · split
              · next rest hhtml =>
                have hleaves := run_leaves hhtml
                exact advances_taken (leaves_cons hleaves.suffix) hhead rfl
                  fun l hl => by
                    rw [taken_cons g hleaves.suffix] at hl
                    exact stopOf_of_getLast? 0 hl
              · exact hplain
          · split
            · split
              · next before rest haddress =>
                have hleaves := bare?_leaves haddress
                exact advances_taken hleaves hhead rfl fun l hl => stopOf_of_getLast? 0 hl
              · exact hplain
            · split
              · split
                · next i t =>
                  split
                  · exact advances_openLabel [g, i] rfl (List.cons_ne_nil _ _) hhead
                  · exact hplain
                · exact hplain
              · split
                · split
                  · next i t =>
                    split
                    · exact advances_openLabel [g, i] rfl (List.cons_ne_nil _ _) hhead
                    · exact advances_openLabel [g] rfl (List.cons_ne_nil _ _) hhead
                  · exact advances_openLabel [g] rfl (List.cons_ne_nil _ _) hhead
                · split
                  · next hbracket =>
                    exact advances_closeLabel (beq_iff_eq.mp hbracket)
                  · exact hplain

end Steps

/-- The pieces of a text without line ends reach from its start to its end. -/
theorem readAll_spans (scope : Scope) {fuel : Nat} (state : Reading) {gs : List Glyph}
    (hfuel : gs.length ≤ fuel) (hends : ∀ g ∈ gs, g.isEnd = false) (hlast : gs.getLast? = some l) :
    Closed l (readAll scope fuel state gs).flat ∧
      (∀ f, Opened f state.flat → Opened f (readAll scope fuel state gs).flat) ∧
      (state.flat = [] → ∀ f, (dropEscape gs).head? = some f →
        Opened f (readAll scope fuel state gs).flat) := by
  induction fuel generalizing state gs with
  | zero =>
    have hnil : gs = [] := List.eq_nil_of_length_eq_zero (Nat.le_zero.mp hfuel)
    rw [hnil] at hlast
    cases hlast
  | succ fuel ih =>
    cases gs with
    | nil => cases hlast
    | cons g r =>
      have hg : g.isEnd = false := hends g List.mem_cons_self
      have hr : ∀ i ∈ r, i.isEnd = false := fun i hi => hends i (List.mem_cons_of_mem g hi)
      have hadvances : Advances (g :: r) state (readOne scope state g r) := readOne_advances hg hr
      obtain ⟨read, f', l', hread, hlast', hhead, hgrows⟩ := hadvances
      rw [readAll]
      generalize readOne scope state g r = next at hread hgrows
      obtain ⟨state', rest⟩ := next
      simp only at hread hgrows ⊢
      have hnil : state.flat = [] → ∀ f, (dropEscape (g :: r)).head? = some f →
          Opened f state'.flat := by
        intro hflat f hf
        rw [hflat] at hgrows
        rw [← Option.some.inj (hhead.symm.trans hf)]
        exact hgrows.opens_of_nil
      cases rest with
      | nil =>
        have hstop : readAll scope fuel state' [] = state' := by cases fuel <;> rfl
        rw [hstop]
        rw [hread, List.append_nil, hlast'] at hlast
        rw [← Option.some.inj hlast]
        exact ⟨hgrows.closes, fun f hf => hgrows.opens hf, hnil⟩
      | cons i t =>
        have hread' : read ≠ [] := by
          rintro rfl
          cases hlast'
        have hlength : (i :: t).length ≤ fuel := by
          have := List.length_pos_iff.mpr hread'
          have := congrArg List.length hread
          simp only [List.length_append, List.length_cons] at this hfuel ⊢
          omega
        have hends' : ∀ j ∈ i :: t, j.isEnd = false := fun j hj =>
          hends j (by rw [hread]; exact List.mem_append_right read hj)
        have hlast'' : (i :: t).getLast? = some l := by
          rw [hread, List.getLast?_append, List.getLast?_cons, Option.some_or] at hlast
          rw [List.getLast?_cons]
          exact hlast
        obtain ⟨hclosed, hopened, -⟩ := @ih state' (i :: t) hlength hends' hlast''
        exact ⟨hclosed, fun f hf => hopened f (hgrows.opens hf),
          fun hflat f hf => hopened f (hnil hflat f hf)⟩

/-- **The elements of a text reach from its start to its end.** A text without line ends, and
without space at its ends, keeps both; only a backslash that escapes its first character is left
out. -/
theorem inline_spans (scope : Scope) (trims : Bool) {gs : List Glyph}
    (hends : ∀ g ∈ gs, g.isEnd = false) (hhead : (dropEscape gs).head? = some f)
    (hlast : gs.getLast? = some l) (hf : f.isSpace = false) (hl : l.isSpace = false) :
    (inline scope trims gs).head?.map (·.span.start) = some f.start ∧
      (inline scope trims gs).getLast?.map (·.span.stop) = some l.stop := by
  obtain ⟨⟨last, hplast, hcloses⟩, -, hopened⟩ :=
    readAll_spans scope .start (Nat.le_refl gs.length) hends hlast
  obtain ⟨first, hpfirst, hopens⟩ := hopened rfl f hhead
  rw [← List.head?_reverse] at hpfirst
  rw [← List.getLast?_reverse] at hplast
  unfold inline
  rw [finish_eq]
  exact phrase_spans true true trims hpfirst hplast hopens hcloses hf hl

end SopDocs.Markdown
