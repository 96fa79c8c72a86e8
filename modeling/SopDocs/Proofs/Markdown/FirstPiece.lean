import SopDocs.Proofs.Markdown.Inline

/-!
# A text goes on as it starts

What is read once no label is open is not taken back: labels that are opened later are put around
what follows them, and so are elements of emphasis. So the first piece of a text that is neither
part of a label nor a mark of emphasis decides what the first element of the text is.
-/

namespace SopDocs.Markdown

/-! ### Steps of reading -/

/-- What one step of reading does to what was read before; any text may be left. -/
inductive Moves (scope : Scope) (state : Reading) : Reading × List Glyph → Prop where
  | added (piece : Piece) (last : Option Char) (rest : List Glyph) :
      Moves scope state (state.add piece last, rest)
  | opened (kind : LabelKind) (opening rest : List Glyph) :
      Moves scope state (state.openLabel kind opening, rest)
  | closed (bracket : Glyph) (rest : List Glyph) :
      Moves scope state (closeLabel scope state bracket rest)

/-- Each construct is a piece, or opens a label, or closes one. -/
theorem readOne_moves (scope : Scope) (state : Reading) (g : Glyph) (r : List Glyph) :
    Moves scope state (readOne scope state g r) := by
  have hplain : Moves scope state (state.addData [g], r) := .added _ _ _
  unfold readOne
  cases g.isEnd with
  | true => exact .added _ _ _
  | false =>
    simp only [Bool.false_eq_true, if_false]
    split
    · split
      · exact hplain
      · split
        · exact .added _ _ _
        · split
          · exact .added _ _ _
          · exact hplain
    · split
      · split
        · exact hplain
        · exact .added _ _ _
      · split
        · split
          · exact .added _ _ _
          · exact .added _ _ _
        · split
          · exact .added _ _ _
          · split
            · split
              · exact .added _ _ _
              · split
                · exact .added _ _ _
                · exact hplain
            · split
              · split
                · exact .added _ _ _
                · exact hplain
              · split
                · split
                  · split
                    · exact .opened _ _ _
                    · exact hplain
                  · exact hplain
                · split
                  · split
                    · split
                      · exact .opened _ _ _
                      · exact .opened _ _ _
                    · exact .opened _ _ _
                  · split
                    · exact .closed _ _
                    · exact hplain

/-! ### Pieces below all labels -/

/-- The pieces, last one first, that stand before all open labels. -/
def outerPieces (pieces : List Piece) : List OpenLabel → List Piece
  | [] => pieces
  | label :: labels => outerPieces label.before labels

/-- The pieces of a reading start with some pieces, given last one first, before all its labels. -/
def Rooted (base : List Piece) (state : Reading) : Prop :=
  base <:+ outerPieces state.pieces state.labels

variable {base : List Piece} {scope : Scope} {state : Reading}

/-- Labels around a label that closes may change, but not what stands before them. -/
theorem outerPieces_map (pieces : List Piece) {change : OpenLabel → OpenLabel}
    (hchange : ∀ label, (change label).before = label.before) (labels : List OpenLabel) :
    outerPieces pieces (labels.map change) = outerPieces pieces labels := by
  induction labels generalizing pieces with
  | nil => rfl
  | cons label labels ih => rw [List.map_cons, outerPieces, outerPieces, ih, hchange]

/-- More pieces after those of the innermost label change nothing before the outermost one. -/
theorem suffix_outerPieces (ps pieces : List Piece) (labels : List OpenLabel)
    (h : base <:+ outerPieces pieces labels) : base <:+ outerPieces (ps ++ pieces) labels := by
  cases labels with
  | nil => exact h.trans (List.suffix_append ps pieces)
  | cons label labels => exact h

/-- A step keeps what stands before all labels. -/
theorem Moves.rooted {next : Reading × List Glyph} (hmove : Moves scope state next)
    (h : Rooted base state) : Rooted base next.1 := by
  unfold Rooted at h ⊢
  cases hmove with
  | added piece last rest => exact suffix_outerPieces [piece] state.pieces state.labels h
  | opened kind opening rest => exact h
  | closed bracket rest =>
    unfold closeLabel
    split
    · exact suffix_outerPieces [_] state.pieces state.labels h
    · next label labels hlabels =>
      rw [hlabels, outerPieces] at h
      have hrefused : base <:+ outerPieces
          (.data [bracket] :: (state.pieces ++ .data label.opening :: label.before)) labels := by
        have hmore := suffix_outerPieces
          (.data [bracket] :: (state.pieces ++ [.data label.opening])) label.before labels h
        simpa using hmore
      have hclosed : ∀ (e : Element) (last : Option Char),
          base <:+ outerPieces (state.closeWith label labels e last).pieces
            (state.closeWith label labels e last).labels := by
        intro e last
        have hmore := suffix_outerPieces [.element e] label.before labels h
        unfold Reading.closeWith
        simp only
        split
        · exact hmore
        · rw [outerPieces_map]
          · exact hmore
          · intro l
            split <;> rfl
      simp only
      split
      · exact hrefused
      · split
        · exact hclosed _ _
        · split
          · exact hrefused
          · exact hclosed _ _

theorem readAll_rooted (h : Rooted base state) (fuel : Nat) (gs : List Glyph) :
    Rooted base (readAll scope fuel state gs) := by
  induction fuel generalizing state gs with
  | zero => exact h
  | succ fuel ih =>
    cases gs with
    | nil => exact h
    | cons g r => exact ih ((readOne_moves scope state g r).rooted h) _

theorem Rooted.flat (h : Rooted base state) : base <:+ state.flat := by
  have hlabels : ∀ (labels : List OpenLabel) (pieces : List Piece),
      base <:+ outerPieces pieces labels → base <:+ pieces ++ aroundLabels labels := by
    intro labels
    induction labels with
    | nil =>
      intro pieces h
      rw [aroundLabels, List.append_nil]
      exact h
    | cons label labels ih =>
      intro pieces h
      have hinner := ih label.before h
      rw [aroundLabels]
      exact hinner.trans ((List.suffix_cons _ _).trans (List.suffix_append _ _))
  exact hlabels state.labels state.pieces h

/-! ### The first element -/

section Phrase

variable {p : Piece} {ps : List Piece} {f : Glyph} {gs : List Glyph}

/-- Whether a piece is a run of marks. -/
def Piece.IsRun (p : Piece) : Prop := ∃ gs opens closes, p = .run gs opens closes

/-- Emphasis is put around what stands between two runs, so not around a piece before all runs. -/
theorem closeRun_getLast? (links : Bool) {fuel : Nat} {before : List Piece} {opens : Bool}
    (hp : ¬ p.IsRun) (hlast : before.getLast? = some p) :
    (closeRun links fuel before gs opens).getLast? = some p := by
  have hmore : ∀ {q : Piece} {qs : List Piece}, qs.getLast? = some p →
      (q :: qs).getLast? = some p := by
    intro q qs h
    rw [List.getLast?_cons, h, Option.getD_some]
  induction fuel generalizing before gs with
  | zero => exact hmore hlast
  | succ fuel ih =>
    unfold closeRun
    split
    · exact hmore hlast
    · next inner opener closes outer hopener =>
      obtain ⟨o, rfl⟩ := opener?_eq hopener
      have houter : outer.getLast? = some p := by
        cases outer with
        | nil =>
          rw [List.getLast?_concat] at hlast
          exact absurd ⟨opener, o, closes, (Option.some.inj hlast).symm⟩ hp
        | cons q outer =>
          rw [List.getLast?_append, List.getLast?_cons_cons] at hlast
          cases hq : (q :: outer).getLast? with
          | none => simp at hq
          | some last =>
            rw [hq, Option.some_or] at hlast
            exact hlast
      simp only
      generalize (if 1 < opener.length && 1 < gs.length then 2 else 1) = count
      have hleft : (if (opener.take (opener.length - count)).isEmpty then outer
          else .run (opener.take (opener.length - count)) true closes :: outer).getLast? =
          some p := by
        split
        · exact houter
        · exact hmore houter
      split
      · exact hmore hleft
      · exact ih (hmore hleft)

theorem matchRuns_cons (links : Bool) (hp : ¬ p.IsRun) (ps : List Piece) :
    ∃ rest, (matchRuns links (p :: ps)).reverse = p :: rest := by
  have hfold : ∀ (rest before : List Piece), before.getLast? = some p →
      (rest.foldl (addPiece links) before).getLast? = some p := by
    intro rest
    induction rest with
    | nil => exact fun _ h => h
    | cons q rest ih =>
      intro before h
      refine ih _ ?_
      unfold addPiece
      split
      · exact closeRun_getLast? links hp h
      · rw [List.getLast?_cons, h, Option.getD_some]
  have hlast := hfold ps [p] rfl
  rw [← addPiece_nil links p, ← List.foldl_cons, ← matchRuns_eq, ← List.head?_reverse] at hlast
  exact List.head?_eq_some_iff.mp hlast

/-- An element that a phrase starts with is its first element. -/
theorem phrase_element (links outermost trims : Bool) (e : Element) (ps : List Piece) :
    (phrase links outermost trims (.element e :: ps)).head? = some e := by
  have hrun : ¬ (Piece.element e).IsRun := by
    rintro ⟨_, _, _, h⟩
    cases h
  obtain ⟨rest, hrest⟩ := matchRuns_cons links hrun ps
  rw [phrase, hrest]
  rfl

/-- Characters of a mail address up to its `@`, with those of the scheme that may precede it. -/
def inAddress (c : Char) : Bool := Autolink.isMailboxChar c || c == ':' || c == '@'

theorem inAddress_of_mailStart? {before address rest : List Glyph} {start : String}
    {slashes : Bool} (h : Autolink.mailStart? before = some (start, slashes, address, rest))
    {g : Glyph} (hg : g ∈ address) : inAddress g.char = true := by
  have hmailbox : ∀ i ∈ before.takeWhile (fun g => Autolink.isMailboxChar g.char),
      inAddress i.char = true := by
    intro i hi
    have hchar := List.mem_takeWhile_imp hi
    simp [inAddress, hchar]
  unfold Autolink.mailStart? at h
  simp only at h
  split at h
  · split at h
    · cases h
    · cases h
      exact hmailbox g hg
  · next colon r hdrop =>
    split at h
    · cases h
    · split at h
      · next hscheme =>
        cases h
        rw [Bool.and_eq_true] at hscheme
        rcases List.mem_append.mp hg with hg | hg
        · exact hmailbox g hg
        · rcases List.mem_cons.mp hg with rfl | hg
          · simp [inAddress, hscheme.1]
          · have hchar := List.mem_takeWhile_imp hg
            simp [inAddress, Autolink.isMailboxChar, hchar]
      · cases h
        exact hmailbox g hg

/-- A character that no address has stays in the plain text before the first address. -/
theorem mailParts_first {fuel : Nat} {before : List Glyph} (hf : inAddress f.char = false)
    (hlast : before.getLast? = some f) :
    ∃ hs parts, Autolink.mailParts fuel before gs = .plain hs :: parts ∧ hs.head? = some f := by
  have hplain : ∀ {before : List Glyph}, before.getLast? = some f →
      before.reverse.head? = some f := by
    intro before h
    rw [List.head?_reverse, h]
  induction fuel generalizing before gs with
  | zero => exact ⟨_, [], rfl, hplain hlast⟩
  | succ fuel ih =>
    cases gs with
    | nil => exact ⟨_, [], rfl, hplain hlast⟩
    | cons g r =>
      unfold Autolink.mailParts
      simp only
      split
      · next start address rest r' hfound =>
        split at hfound
        · obtain ⟨⟨start', slashes, address', rest'⟩, hstart, hfound⟩ :=
            Option.bind_eq_some_iff.mp hfound
          obtain ⟨_, -, hfound⟩ := Option.map_eq_some_iff.mp hfound
          cases hfound
          refine ⟨_, _, rfl, hplain ?_⟩
          have hbefore := mailStart?_eq hstart
          cases rest' with
          | nil =>
            rw [List.append_nil] at hbefore
            have hmem : f ∈ address' := hbefore ▸ List.mem_of_getLast? hlast
            rw [inAddress_of_mailStart? hstart hmem] at hf
            cases hf
          | cons i t =>
            rw [hbefore, List.getLast?_append] at hlast
            cases hi : (i :: t).getLast? with
            | none => simp at hi
            | some last =>
              rw [hi, Option.some_or] at hlast
              exact hlast
        · cases hfound
      · refine ih ?_
        rw [List.getLast?_cons, hlast, Option.getD_some]

/-- Text whose first character no address has starts with text. -/
theorem dataAtoms_first (links : Bool) (hhead : gs.head? = some f)
    (hf : inAddress f.char = false) :
    ∃ text start stop rest, dataAtoms links gs = .text text start stop :: rest := by
  have hatom : ∀ {hs : List Glyph}, hs.head? = some f →
      ∃ text start stop, dataAtom hs = [.text text start stop] := by
    intro hs h
    cases hs with
    | nil => cases h
    | cons g r => exact ⟨_, _, _, rfl⟩
  have hparts : ∃ hs parts, Autolink.parts gs = .plain hs :: parts ∧ hs.head? = some f := by
    unfold Autolink.parts
    split
    · obtain ⟨r, rfl⟩ := List.head?_eq_some_iff.mp hhead
      have hnot : (f.char == '@') = false := by
        simp only [inAddress, Bool.or_eq_false_iff] at hf
        exact hf.2
      have hstep : Autolink.mailParts (f :: r).length [] (f :: r) =
          Autolink.mailParts r.length [f] r := by
        rw [List.length_cons, Autolink.mailParts]
        simp [hnot]
      rw [hstep]
      exact mailParts_first hf rfl
    · exact ⟨gs, [], rfl, hhead⟩
  unfold dataAtoms
  cases links with
  | false =>
    obtain ⟨text, start, stop, h⟩ := hatom hhead
    exact ⟨text, start, stop, [], h⟩
  | true =>
    obtain ⟨hs, parts, hparts, hhs⟩ := hparts
    obtain ⟨text, start, stop, h⟩ := hatom hhs
    rw [if_pos rfl, hparts, List.flatMap_cons]
    simp only [h]
    exact ⟨text, start, stop, _, rfl⟩

/-- Text that a phrase starts with is the start of its first element. -/
theorem phrase_text (links outermost trims : Bool) (hhead : gs.head? = some f)
    (hf : inAddress f.char = false) (hspace : f.isSpace = false) (ps : List Piece) :
    ∃ e, (phrase links outermost trims (.data gs :: ps)).head? = some e ∧
      ∃ value, e.content = .text value := by
  have hrun : ¬ (Piece.data gs).IsRun := by
    rintro ⟨_, _, _, h⟩
    cases h
  obtain ⟨rest, hrest⟩ := matchRuns_cons links hrun ps
  have hjoined : ∃ hs r, joinText (.data gs :: rest) = .data hs :: r ∧ hs.head? = some f := by
    rw [joinText]
    unfold joinText.joined
    split
    · next hs r _ => exact ⟨gs ++ hs, r, rfl, by rw [List.head?_append, hhead, Option.some_or]⟩
    · exact ⟨gs, _, rfl, hhead⟩
  obtain ⟨hs, r, hjoined, hhs⟩ := hjoined
  obtain ⟨kept, more, hatoms, hkept⟩ := exists_kept links outermost trims none hhs hspace r
  obtain ⟨text, start, stop, as, hdata⟩ := dataAtoms_first links hkept hf
  rw [phrase, hrest, elementsOfPieces, hjoined, hatoms, hdata, List.cons_append, elementsOf]
  unfold elementsOf.joined
  split
  · exact ⟨_, rfl, _, rfl⟩
  · exact ⟨_, rfl, _, rfl⟩

end Phrase

end SopDocs.Markdown
