import SopDocs.Markdown.Phrase
import SopDocs.Proofs.Text.Slice

/-!
# Phrases keep the ends of their pieces

Matching the marks of emphasis and joining text regroups pieces, and text loses only
space at its ends. So the first element of a phrase starts where its first piece does,
and the last element stops where its last piece does.
-/

namespace SopDocs.Markdown

/-! ### Ends of pieces -/

namespace Piece

/-- Whether a piece starts where a glyph does; text starts with the glyph itself. -/
def OpensAt (f : Glyph) : Piece → Prop
  | .data gs => gs.head? = some f
  | .run gs _ _ => gs.head? = some f
  | .literal _ start _ => start = f.start
  | .element e => e.span.start = f.start
  | .lineEnd _ => False
  | .hardBreak _ => False

/-- Whether a piece stops where a glyph does; text stops with the glyph itself. -/
def ClosesAt (l : Glyph) : Piece → Prop
  | .data gs => gs.getLast? = some l
  | .run gs _ _ => gs.getLast? = some l
  | .literal _ _ stop => stop = l.stop
  | .element e => e.span.stop = l.stop
  | .lineEnd _ => False
  | .hardBreak _ => False

end Piece

/-- Whether the last of some pieces, the first one in the text, starts where a glyph does. -/
def Opened (f : Glyph) (ps : List Piece) : Prop := ∃ p, ps.getLast? = some p ∧ p.OpensAt f

/-- Whether the first of some pieces, the last one in the text, stops where a glyph does. -/
def Closed (l : Glyph) (ps : List Piece) : Prop := ∃ p, ps.head? = some p ∧ p.ClosesAt l

variable {f l : Glyph} {p : Piece} {ps outer : List Piece}

theorem closed_cons (h : p.ClosesAt l) : Closed l (p :: ps) := ⟨p, rfl, h⟩

theorem Opened.cons (h : Opened f ps) : Opened f (p :: ps) := by
  obtain ⟨q, hq, hopens⟩ := h
  refine ⟨q, ?_, hopens⟩
  rw [List.getLast?_cons, hq]
  rfl

theorem opened_of_append (inner : List Piece) (h : Opened f (inner ++ outer)) (hne : outer ≠ []) :
    Opened f outer := by
  obtain ⟨q, hq, hopens⟩ := h
  rw [List.getLast?_append, List.getLast?_eq_some_getLast hne, Option.some_or] at hq
  exact ⟨q, (List.getLast?_eq_some_getLast hne).trans hq, hopens⟩

theorem head?_of_startOf {gs : List Glyph} (h : gs.head? = some f) : startOf 0 gs = f.start := by
  cases gs with
  | nil => cases h
  | cons g r => rw [← Option.some.inj h]; rfl

theorem stopOf_of_getLast? {gs : List Glyph} (other : Nat) (h : gs.getLast? = some l) :
    stopOf other gs = l.stop := by
  unfold stopOf
  rw [h]

/-! ### Emphasis -/

/-- What stands before the opener of a run is on either side of it. -/
theorem opener?_eq {closer opener : List Glyph} {closerOpens closes : Bool}
    {before inner outer : List Piece}
    (h : opener? closer closerOpens before = some (inner, (opener, closes), outer)) :
    ∃ opens, before = inner ++ .run opener opens closes :: outer := by
  induction before generalizing inner with
  | nil => cases h
  | cons p r ih =>
    have hskipped : (opener? closer closerOpens r).map (fun q => (p :: q.1, q.2)) =
        some (inner, (opener, closes), outer) →
        ∃ opens, p :: r = inner ++ .run opener opens closes :: outer := by
      intro h
      obtain ⟨⟨front, found⟩, hr, he⟩ := Option.map_eq_some_iff.mp h
      obtain ⟨rfl, rfl⟩ := Prod.mk.inj he
      obtain ⟨opens, hopens⟩ := ih hr
      exact ⟨opens, by rw [hopens]; rfl⟩
    cases p with
    | run gs opens closes' =>
      rw [opener?] at h
      split at h
      · cases h
        exact ⟨opens, rfl⟩
      · exact hskipped h
    | _ => exact hskipped h

/-- A run that closes others still ends the text, as a run or as part of an element. -/
theorem closeRun_closed (links : Bool) {fuel : Nat} {before : List Piece} {gs : List Glyph}
    {opens : Bool} (hlast : gs.getLast? = some l) :
    Closed l (closeRun links fuel before gs opens) := by
  induction fuel generalizing before gs with
  | zero => exact closed_cons hlast
  | succ fuel ih =>
    unfold closeRun
    split
    · exact closed_cons hlast
    · next inner opener closes outer _ =>
      simp only
      generalize (if 1 < opener.length && 1 < gs.length then 2 else 1) = count
      split
      · next hrest =>
        have hall : gs.take count = gs := by
          rw [← List.take_append_drop count gs, List.isEmpty_iff.mp hrest, List.append_nil,
            List.take_take, Nat.min_self]
        refine closed_cons ?_
        rw [hall]
        exact stopOf_of_getLast? 0 hlast
      · next hrest =>
        refine ih ?_
        have hlong : ¬ gs.length ≤ count := fun hle =>
          hrest (List.isEmpty_iff.mpr (List.drop_eq_nil_of_le hle))
        rw [List.getLast?_drop, if_neg hlong]
        exact hlast

/-- Closing runs does not move the start of a text. -/
theorem closeRun_opened (links : Bool) {fuel : Nat} {before : List Piece} {gs : List Glyph}
    {opens : Bool} (hbefore : Opened f before) :
    Opened f (closeRun links fuel before gs opens) := by
  induction fuel generalizing before gs with
  | zero => exact hbefore.cons
  | succ fuel ih =>
    unfold closeRun
    split
    · exact hbefore.cons
    · next inner opener closes outer hopener =>
      obtain ⟨o, rfl⟩ := opener?_eq hopener
      simp only
      generalize (if 1 < opener.length && 1 < gs.length then 2 else 1) = count
      generalize elementsOfPieces links false false inner.reverse = children
      generalize emphasisContent ((gs.head?.map (·.char)).getD ' ') count = content
      generalize hk : opener.length - count = k
      let element : Element :=
        ⟨content, ⟨startOf 0 (opener.drop k), stopOf 0 (gs.take count)⟩, children⟩
      have hnew : Opened f (.element element ::
          if (opener.take k).isEmpty then outer
          else .run (opener.take k) true closes :: outer) := by
        cases outer with
        | cons p outer =>
          have houter : Opened f (p :: outer) := by
            refine opened_of_append (inner ++ [.run opener o closes]) ?_ (List.cons_ne_nil p outer)
            rw [List.append_assoc]
            exact hbefore
          split
          · exact houter.cons
          · exact houter.cons.cons
        | nil =>
          obtain ⟨q, hq, hopens⟩ := hbefore
          rw [List.getLast?_concat] at hq
          rw [← Option.some.inj hq] at hopens
          obtain ⟨g, r, rfl⟩ : ∃ g r, opener = g :: r := by
            cases opener with
            | nil => cases hopens
            | cons g r => exact ⟨g, r, rfl⟩
          cases k with
          | zero =>
            rw [if_pos (show (List.take 0 (g :: r)).isEmpty = true from rfl)]
            exact ⟨_, rfl, head?_of_startOf hopens⟩
          | succ k =>
            rw [if_neg (by simp)]
            exact ⟨_, rfl, hopens⟩
      split
      · exact hnew
      · exact ih hnew

/-- What `matchRuns` does with one piece. -/
def addPiece (links : Bool) (before : List Piece) (p : Piece) : List Piece :=
  match p with
  | .run gs opens true => closeRun links gs.length before gs opens
  | p => p :: before

theorem addPiece_closed (links : Bool) (before : List Piece) (h : p.ClosesAt l) :
    Closed l (addPiece links before p) := by
  unfold addPiece
  split
  · exact closeRun_closed links h
  · exact closed_cons h

theorem addPiece_opened (links : Bool) (h : Opened f ps) : Opened f (addPiece links ps p) := by
  unfold addPiece
  split
  · exact closeRun_opened links h
  · exact h.cons

theorem addPiece_nil (links : Bool) (p : Piece) : addPiece links [] p = [p] := by
  unfold addPiece
  split
  · next gs opens => cases gs <;> rfl
  · rfl

theorem matchRuns_eq (links : Bool) (pieces : List Piece) :
    matchRuns links pieces = pieces.foldl (addPiece links) [] := rfl

theorem matchRuns_closed (links : Bool) {pieces : List Piece} (hlast : pieces.getLast? = some p)
    (h : p.ClosesAt l) : Closed l (matchRuns links pieces) := by
  obtain ⟨front, rfl⟩ := List.getLast?_eq_some_iff.mp hlast
  rw [matchRuns_eq, List.foldl_append]
  exact addPiece_closed links _ h

theorem matchRuns_opened (links : Bool) {pieces : List Piece} (hhead : pieces.head? = some p)
    (h : p.OpensAt f) : Opened f (matchRuns links pieces) := by
  have hfold : ∀ (rest before : List Piece), Opened f before →
      Opened f (rest.foldl (addPiece links) before) := by
    intro rest
    induction rest with
    | nil => exact fun _ h => h
    | cons q rest ih => exact fun _ h => ih _ (addPiece_opened links h)
  cases pieces with
  | nil => cases hhead
  | cons q pieces =>
    rw [List.head?_cons, Option.some.injEq] at hhead
    subst hhead
    rw [matchRuns_eq, List.foldl_cons, addPiece_nil]
    exact hfold pieces [q] ⟨q, rfl, h⟩

/-! ### Text next to text -/

theorem joined_head {gs : List Glyph} (h : gs.head? = some f) (ps : List Piece) :
    ∃ q, (joinText.joined gs ps).head? = some q ∧ q.OpensAt f := by
  unfold joinText.joined
  split
  · refine ⟨_, rfl, ?_⟩
    exact List.head?_append.trans (by rw [h]; rfl)
  · exact ⟨_, rfl, h⟩

theorem joined_last (gs : List Glyph) {q : Piece} (hlast : ps.getLast? = some q)
    (h : q.ClosesAt l) : ∃ q', (joinText.joined gs ps).getLast? = some q' ∧ q'.ClosesAt l := by
  unfold joinText.joined
  split
  · next hs r =>
    cases r with
    | nil =>
      rw [← Option.some.inj hlast] at h
      refine ⟨_, rfl, ?_⟩
      exact List.getLast?_append.trans (by rw [show hs.getLast? = some l from h]; rfl)
    | cons q' r => exact ⟨q, hlast, h⟩
  · refine ⟨q, ?_, h⟩
    rw [List.getLast?_cons, hlast]
    rfl

theorem joinText_head (hhead : ps.head? = some p) (h : p.OpensAt f) :
    ∃ q, (joinText ps).head? = some q ∧ q.OpensAt f := by
  cases ps with
  | nil => cases hhead
  | cons q ps =>
    rw [List.head?_cons, Option.some.injEq] at hhead
    subst hhead
    cases q with
    | data gs => exact joined_head h (joinText ps)
    | run gs opens closes => exact joined_head h (joinText ps)
    | _ => exact ⟨_, rfl, h⟩

theorem joinText_last (hlast : ps.getLast? = some p) (h : p.ClosesAt l) :
    ∃ q, (joinText ps).getLast? = some q ∧ q.ClosesAt l := by
  induction ps with
  | nil => cases hlast
  | cons q ps ih =>
    cases ps with
    | nil =>
      rw [List.getLast?_singleton, Option.some.injEq] at hlast
      subst hlast
      cases q <;> exact ⟨_, rfl, h⟩
    | cons q' ps =>
      obtain ⟨last, heq, hcloses⟩ := ih hlast
      have hother : ∀ p,
          ∃ q'', (p :: joinText (q' :: ps)).getLast? = some q'' ∧ q''.ClosesAt l := by
        intro p
        refine ⟨last, ?_, hcloses⟩
        rw [List.getLast?_cons, heq]
        rfl
      cases q with
      | data gs => exact joined_last gs heq hcloses
      | run gs opens closes => exact joined_last gs heq hcloses
      | _ => exact hother _

/-! ### Atoms -/

namespace Atom

/-- The offset where an atom starts. -/
def start : Atom → Nat
  | .text _ start _ => start
  | .element e => e.span.start

/-- The offset where an atom stops. -/
def stop : Atom → Nat
  | .text _ _ stop => stop
  | .element e => e.span.stop

end Atom

/-- Atoms that cover a text, each some glyphs of it. -/
inductive Tiles : List Glyph → List Atom → Prop where
  | nil : Tiles [] []
  | cons {gs rest : List Glyph} {a : Atom} {as : List Atom} {first last : Glyph}
      (hhead : gs.head? = some first) (hlast : gs.getLast? = some last)
      (hstart : a.start = first.start) (hstop : a.stop = last.stop) (hrest : Tiles rest as) :
      Tiles (gs ++ rest) (a :: as)

namespace Tiles

variable {gs hs : List Glyph} {as bs : List Atom}

theorem append (h : Tiles gs as) (h' : Tiles hs bs) : Tiles (gs ++ hs) (as ++ bs) := by
  induction h with
  | nil => exact h'
  | cons hhead hlast hstart hstop _ ih =>
    rw [List.append_assoc]
    exact .cons hhead hlast hstart hstop ih

theorem start_head (h : Tiles gs as) (hhead : gs.head? = some f) :
    as.head?.map Atom.start = some f.start := by
  cases h with
  | nil => cases hhead
  | cons hhead' _ hstart _ _ =>
    rw [List.head?_append, hhead'] at hhead
    rw [← Option.some.inj hhead, ← hstart]
    rfl

theorem stop_last (h : Tiles gs as) (hlast : gs.getLast? = some l) :
    as.getLast?.map Atom.stop = some l.stop := by
  induction h with
  | nil => cases hlast
  | cons _ hlast' _ hstop hrest ih =>
    cases hrest with
    | nil =>
      rw [List.append_nil, hlast'] at hlast
      rw [← Option.some.inj hlast, ← hstop]
      rfl
    | @cons hs rest _ _ _ _ _ hlast'' _ _ _ =>
      have hne : (hs ++ rest).getLast? ≠ none := by
        rw [List.getLast?_append, hlast'']
        cases rest.getLast? <;> simp
      rw [List.getLast?_append] at hlast
      cases hrest' : (hs ++ rest).getLast? with
      | none => exact absurd hrest' hne
      | some g =>
        rw [hrest'] at hlast
        exact ih (hrest'.trans hlast)

end Tiles

theorem tiles_singleton {gs : List Glyph} {a : Atom} (hne : gs ≠ [])
    (hstart : a.start = startOf 0 gs) (hstop : a.stop = stopOf 0 gs) : Tiles gs [a] := by
  cases gs with
  | nil => exact absurd rfl hne
  | cons g r =>
    have hlast : (g :: r).getLast? = some (r.getLast?.getD g) := List.getLast?_cons ..
    rw [stopOf_of_getLast? 0 hlast] at hstop
    have htile : Tiles (g :: r ++ []) [a] := .cons rfl hlast hstart hstop .nil
    rw [List.append_nil] at htile
    exact htile

theorem dataAtom_tiles (gs : List Glyph) : Tiles gs (dataAtom gs) := by
  cases gs with
  | nil => exact .nil
  | cons g r => exact tiles_singleton (List.cons_ne_nil g r) rfl rfl

/-! ### Mail addresses in text -/

/-- The glyphs of a part. -/
def partGlyphs : Autolink.Part → List Glyph
  | .plain gs => gs
  | .address _ gs => gs

theorem mailStart?_eq {before address rest : List Glyph} {start : String} {slashes : Bool}
    (h : Autolink.mailStart? before = some (start, slashes, address, rest)) :
    before = address ++ rest := by
  unfold Autolink.mailStart? at h
  simp only at h
  have hbefore := List.takeWhile_append_dropWhile
    (p := fun g : Glyph => Autolink.isMailboxChar g.char) (l := before)
  split at h
  · next hdrop =>
    rw [hdrop, List.append_nil] at hbefore
    split at h
    · cases h
    · cases h
      rw [hbefore, List.append_nil]
  · next g r hdrop =>
    rw [hdrop] at hbefore
    split at h
    · cases h
    · split at h
      · cases h
        rw [List.append_assoc, List.cons_append, List.takeWhile_append_dropWhile, hbefore]
      · cases h
        exact hbefore.symm

theorem mailDomain_eq (slashes : Bool) (gs : List Glyph) :
    gs = (Autolink.mailDomain slashes gs).1 ++ (Autolink.mailDomain slashes gs).2 := by
  induction gs with
  | nil => rfl
  | cons g r ih =>
    unfold Autolink.mailDomain
    simp only
    split
    · rw [List.cons_append, ← ih]
    · rfl

theorem mailDomain?_eq {slashes : Bool} {gs domain rest : List Glyph}
    (h : Autolink.mailDomain? slashes gs = some (domain, rest)) : gs = domain ++ rest := by
  unfold Autolink.mailDomain? at h
  simp only at h
  split at h
  · obtain ⟨rfl, rfl⟩ := Prod.mk.inj (Option.some.inj h)
    exact mailDomain_eq slashes gs
  · cases h

theorem mailParts_glyphs {fuel : Nat} {before gs : List Glyph} (hfuel : gs.length ≤ fuel) :
    (Autolink.mailParts fuel before gs).flatMap partGlyphs = before.reverse ++ gs := by
  induction fuel generalizing before gs with
  | zero =>
    rw [List.eq_nil_of_length_eq_zero (Nat.le_zero.mp hfuel)]
    simp [Autolink.mailParts, partGlyphs]
  | succ fuel ih =>
    cases gs with
    | nil => simp [Autolink.mailParts, partGlyphs]
    | cons g r =>
      have hr : r.length ≤ fuel := by simpa using hfuel
      unfold Autolink.mailParts
      simp only
      split
      · next start address rest r' hfound =>
        split at hfound
        · obtain ⟨⟨start', slashes, address', rest'⟩, hstart, hfound⟩ :=
            Option.bind_eq_some_iff.mp hfound
          obtain ⟨⟨domain, t⟩, hdomain, hfound⟩ := Option.map_eq_some_iff.mp hfound
          cases hfound
          have hbefore := mailStart?_eq hstart
          have hgs := mailDomain?_eq hdomain
          have ht : (t.drop 1).length ≤ fuel := by
            rw [hgs, List.length_append] at hr
            rw [List.length_drop]
            omega
          have hturn : (t.take 1).reverse = t.take 1 := by cases t <;> rfl
          rw [List.flatMap_cons, List.flatMap_cons, ih ht, hturn, List.take_append_drop, hbefore,
            hgs]
          simp [partGlyphs]
        · cases hfound
      · rw [ih hr]
        simp

theorem mailParts_address {fuel : Nat} {before gs : List Glyph} {start : String}
    {shown : List Glyph} (h : .address start shown ∈ Autolink.mailParts fuel before gs) :
    shown ≠ [] := by
  induction fuel generalizing before gs with
  | zero => simp [Autolink.mailParts] at h
  | succ fuel ih =>
    cases gs with
    | nil => simp [Autolink.mailParts] at h
    | cons g r =>
      unfold Autolink.mailParts at h
      simp only at h
      split at h
      · next start' address rest r' hfound =>
        rcases List.mem_cons.mp h with h | h
        · cases h
        · rcases List.mem_cons.mp h with h | h
          · cases h
            split at hfound
            · obtain ⟨⟨_, _, address', _⟩, -, hfound⟩ := Option.bind_eq_some_iff.mp hfound
              obtain ⟨_, -, hfound⟩ := Option.map_eq_some_iff.mp hfound
              cases hfound
              simp
            · cases hfound
          · exact ih h
      · exact ih h

theorem dataAtoms_tiles (links : Bool) (gs : List Glyph) : Tiles gs (dataAtoms links gs) := by
  unfold dataAtoms
  cases links with
  | false => exact dataAtom_tiles gs
  | true =>
    have hparts : ∀ parts : List Autolink.Part,
        (∀ start shown, .address start shown ∈ parts → shown ≠ []) →
        Tiles (parts.flatMap partGlyphs) (parts.flatMap fun part =>
          match part with
          | .plain gs => dataAtom gs
          | .address before gs =>
            [.element (addressElement before gs (startOf 0 gs) (stopOf 0 gs))]) := by
      intro parts
      induction parts with
      | nil => exact fun _ => .nil
      | cons part parts ih =>
        intro haddress
        have hrest := ih fun start shown h => haddress start shown (List.mem_cons_of_mem _ h)
        cases part with
        | plain hs => exact (dataAtom_tiles hs).append hrest
        | address start shown =>
          have hne := haddress start shown List.mem_cons_self
          exact (tiles_singleton hne rfl rfl).append hrest
    unfold Autolink.parts
    simp only [if_true]
    split
    · have h := hparts (Autolink.mailParts gs.length [] gs) fun _ _ => mailParts_address
      rw [mailParts_glyphs (Nat.le_refl gs.length)] at h
      exact h
    · have h := hparts [.plain gs] (by simp)
      simpa [partGlyphs] using h

/-! ### From pieces to elements -/

theorem trailingSpaces_append (gs : List Glyph) :
    gs = gs.take (gs.length - (trailingSpaces gs).length) ++ trailingSpaces gs := by
  have hsplit : gs = (gs.reverse.dropWhile Glyph.isSpace).reverse ++ trailingSpaces gs := by
    unfold trailingSpaces
    rw [← List.reverse_append, List.takeWhile_append_dropWhile, List.reverse_reverse]
  generalize trailingSpaces gs = spaces at hsplit ⊢
  generalize (gs.reverse.dropWhile Glyph.isSpace).reverse = kept at hsplit
  subst hsplit
  rw [List.length_append, Nat.add_sub_cancel, List.take_left]

theorem isSpace_of_trailingSpaces {gs : List Glyph} {g : Glyph} (h : g ∈ trailingSpaces gs) :
    g.isSpace = true := by
  unfold trailingSpaces at h
  exact (List.all_eq_true.mp List.all_takeWhile) g (List.mem_reverse.mp h)

/-- Text that starts with a character other than space keeps it when its end is trimmed. -/
theorem head?_take_trailingSpaces {gs : List Glyph} (hhead : gs.head? = some f)
    (hf : f.isSpace = false) :
    (gs.take (gs.length - (trailingSpaces gs).length)).head? = some f := by
  have happend := trailingSpaces_append gs
  cases hkept : gs.take (gs.length - (trailingSpaces gs).length) with
  | nil =>
    rw [hkept, List.nil_append] at happend
    have hmem : f ∈ trailingSpaces gs := happend ▸ List.mem_of_mem_head? hhead
    rw [isSpace_of_trailingSpaces hmem] at hf
    cases hf
  | cons g r =>
    rw [hkept] at happend
    rw [happend] at hhead
    exact hhead

theorem trailingSpaces_eq_nil {gs : List Glyph} (hlast : gs.getLast? = some l)
    (hl : l.isSpace = false) : trailingSpaces gs = [] := by
  obtain ⟨front, rfl⟩ := List.getLast?_eq_some_iff.mp hlast
  simp [trailingSpaces, hl]

theorem getLast?_skipSpaces {gs : List Glyph} (hlast : gs.getLast? = some l)
    (hl : l.isSpace = false) : (skipSpaces gs).getLast? = some l := by
  obtain ⟨front, rfl⟩ := List.getLast?_eq_some_iff.mp hlast
  unfold skipSpaces
  rw [List.dropWhile_append]
  split
  · simp [hl]
  · simp

/-- Text in front of pieces loses nothing at its start if that is no space. -/
theorem exists_kept (links outermost trims : Bool) (broken : Option Nat) {gs : List Glyph}
    (hhead : gs.head? = some f) (hf : f.isSpace = false) (ps : List Piece) :
    ∃ kept rest, atoms links outermost trims broken (.data gs :: ps) =
      dataAtoms links kept ++ rest ∧ kept.head? = some f := by
  have hkept : ∀ atEnd : Bool,
      (gs.take (gs.length - (if atEnd then trailingSpaces gs else []).length)).head? = some f := by
    intro atEnd
    cases atEnd with
    | true => exact head?_take_trailingSpaces hhead hf
    | false =>
      rw [if_neg Bool.false_ne_true, List.length_nil, Nat.sub_zero, List.take_length]
      exact hhead
  have hskip : ∀ kept : List Glyph, kept.head? = some f → (skipSpaces kept).head? = some f := by
    intro kept h
    have heq : skipSpaces kept = kept := Text.dropWhile_eq_self_iff.mpr fun g hg => by
      rw [← Option.some.inj (h.symm.trans hg)]
      exact hf
    rw [heq]
    exact h
  refine ⟨_, _, by unfold atoms; rfl, ?_⟩
  cases trims with
  | true => exact hskip _ (hkept _)
  | false => exact hkept _

/-- The first atom of pieces starts where the first piece does. -/
theorem atoms_start (links outermost trims : Bool) (broken : Option Nat)
    (hhead : ps.head? = some p) (hopens : p.OpensAt f) (hf : f.isSpace = false) :
    (atoms links outermost trims broken ps).head?.map Atom.start = some f.start := by
  have happend : ∀ {as bs : List Atom}, as.head?.map Atom.start = some f.start →
      (as ++ bs).head?.map Atom.start = some f.start := by
    intro as bs h
    cases as with
    | nil => cases h
    | cons a as => exact h
  cases ps with
  | nil => cases hhead
  | cons q ps =>
    rw [List.head?_cons, Option.some.injEq] at hhead
    subst hhead
    cases q with
    | data gs =>
      obtain ⟨kept, rest, hatoms, hkept⟩ := exists_kept links outermost trims broken hopens hf ps
      rw [hatoms]
      exact happend ((dataAtoms_tiles links kept).start_head hkept)
    | lineEnd g => cases hopens
    | hardBreak start => cases hopens
    | literal text start stop => exact congrArg some hopens
    | run gs opens closes => exact happend ((dataAtom_tiles gs).start_head hopens)
    | element e => exact congrArg some hopens

/-- The last atom of pieces stops where the last piece does. -/
theorem atoms_stop (links outermost trims : Bool) (broken : Option Nat)
    (hlast : ps.getLast? = some p) (hcloses : p.ClosesAt l) (hl : l.isSpace = false) :
    (atoms links outermost trims broken ps).getLast?.map Atom.stop = some l.stop := by
  have happend : ∀ (as : List Atom) {bs : List Atom}, bs.getLast?.map Atom.stop = some l.stop →
      (as ++ bs).getLast?.map Atom.stop = some l.stop := by
    intro as bs h
    rw [List.getLast?_append]
    cases hbs : bs.getLast? with
    | none =>
      rw [hbs] at h
      cases h
    | some b =>
      rw [hbs] at h
      exact h
  induction ps generalizing trims broken with
  | nil => cases hlast
  | cons q ps ih =>
    cases ps with
    | nil =>
      rw [List.getLast?_singleton, Option.some.injEq] at hlast
      subst hlast
      cases q with
      | data gs =>
        have hspaces : (if outermost then trailingSpaces gs else []) = [] := by
          cases outermost with
          | true => exact trailingSpaces_eq_nil hcloses hl
          | false => rfl
        simp only [atoms, List.append_nil, hspaces, List.length_nil, Nat.sub_zero, List.take_length]
        refine (dataAtoms_tiles links _).stop_last ?_
        cases trims with
        | true => exact getLast?_skipSpaces hcloses hl
        | false => exact hcloses
      | lineEnd g => cases hcloses
      | hardBreak start => cases hcloses
      | literal text start stop => exact congrArg some hcloses
      | run gs opens closes =>
        unfold atoms
        rw [show atoms links outermost false none [] = [] from rfl, List.append_nil]
        exact (dataAtom_tiles gs).stop_last hcloses
      | element e => exact congrArg some hcloses
    | cons q' ps =>
      have hrest := fun trims broken => ih trims broken hlast
      cases q with
      | data gs =>
        unfold atoms
        exact happend _ (hrest _ _)
      | lineEnd g =>
        unfold atoms
        cases broken with
        | some start => exact happend [.element (breakElement start g.stop)] (hrest _ _)
        | none => exact happend [.text g.text g.start g.stop] (hrest _ _)
      | hardBreak start =>
        unfold atoms
        exact hrest _ _
      | literal text start stop =>
        unfold atoms
        exact happend [.text text start stop] (hrest _ _)
      | run gs opens closes =>
        unfold atoms
        exact happend _ (hrest _ _)
      | element e =>
        unfold atoms
        exact happend [.element e] (hrest _ _)

theorem joined_start (t : List Char) (start stop : Nat) (es : List Element) :
    (elementsOf.joined t start stop es).head?.map (·.span.start) = some start := by
  unfold elementsOf.joined
  split <;> rfl

theorem joined_stop (t : List Char) (start stop : Nat) (es : List Element) :
    (elementsOf.joined t start stop es).getLast?.map (·.span.stop) =
      some ((es.getLast?.map (·.span.stop)).getD stop) := by
  unfold elementsOf.joined
  split
  · next value span r =>
    rw [List.getLast?_cons, List.getLast?_cons]
    cases r.getLast? <;> rfl
  · rw [List.getLast?_cons]
    cases es.getLast? <;> rfl

theorem elementsOf_start (as : List Atom) :
    (elementsOf as).head?.map (·.span.start) = as.head?.map Atom.start := by
  cases as with
  | nil => rfl
  | cons a as =>
    cases a with
    | text t start stop => exact joined_start t start stop (elementsOf as)
    | element e => rfl

theorem elementsOf_stop (as : List Atom) :
    (elementsOf as).getLast?.map (·.span.stop) = as.getLast?.map Atom.stop := by
  induction as with
  | nil => rfl
  | cons a as ih =>
    cases a with
    | text t start stop =>
      unfold elementsOf
      rw [joined_stop, ih, List.getLast?_cons]
      cases as.getLast? <;> rfl
    | element e =>
      unfold elementsOf
      rw [List.getLast?_cons, List.getLast?_cons, Option.map_some, Option.map_some]
      cases has : as.getLast? with
      | none =>
        rw [has] at ih
        cases hes : (elementsOf as).getLast? with
        | none => rfl
        | some e' => rw [hes] at ih; cases ih
      | some a =>
        rw [has] at ih
        cases hes : (elementsOf as).getLast? with
        | none => rw [hes] at ih; cases ih
        | some e' => rw [hes] at ih; exact ih

/-- The elements of a phrase reach from the start of its first piece to the end of its last one, if
these are not space. -/
theorem phrase_spans (links outermost trims : Bool) {first last : Piece}
    (hhead : ps.head? = some first) (hlast : ps.getLast? = some last) (hopens : first.OpensAt f)
    (hcloses : last.ClosesAt l) (hf : f.isSpace = false) (hl : l.isSpace = false) :
    (phrase links outermost trims ps).head?.map (·.span.start) = some f.start ∧
      (phrase links outermost trims ps).getLast?.map (·.span.stop) = some l.stop := by
  obtain ⟨p, hp, hpopens⟩ := matchRuns_opened links hhead hopens
  obtain ⟨q, hq, hqcloses⟩ := matchRuns_closed links hlast hcloses
  rw [← List.head?_reverse] at hp
  rw [← List.getLast?_reverse] at hq
  obtain ⟨p', hp', hpopens'⟩ := joinText_head hp hpopens
  obtain ⟨q', hq', hqcloses'⟩ := joinText_last hq hqcloses
  unfold phrase elementsOfPieces
  rw [elementsOf_start, elementsOf_stop]
  exact ⟨atoms_start links outermost trims none hp' hpopens' hf,
    atoms_stop links outermost trims none hq' hqcloses' hl⟩

end SopDocs.Markdown
