import SopDocs.Proofs.Markdown.Escape
import SopDocs.Proofs.Markdown.Inline
import SopDocs.Proofs.Markdown.Source

/-!
# Labels that are read as they are written

The text of a link is read as any text is: code, addresses, emphasis and other labels in it are not
text. A text that has none of their marks, in which no underscore may open emphasis and no address
starts, is read piece by piece as the text that it is, and these pieces are one text again.
-/

namespace SopDocs.Markdown

/-- Marks of code, of labels, of HTML, of emphasis other than by underscores, and of addresses with
a scheme. -/
def isLabelMark (c : Char) : Bool := "[]<*~/\x60".toList.contains c

/-- A text that is read as it is written, where it follows the character `b` and stands before a
closing bracket. -/
structure PlainAfter (b : Char) (cs : List Char) : Prop where
  unmarked : ∀ c ∈ cs, isLabelMark c = false ∧ isControl c = false
  escapes : EscapeFree (cs ++ [']'])
  references : ReferenceFree cs
  underscores : ∀ before after, cs = before ++ '_' :: after →
    before.getLast?.getD b = '_' ∨ flankOf (before.getLast?.getD b) = .other
  hosts : ∀ before after, cs = before ++ after →
    Autolink.mayPrecedeHost (some (before.getLast?.getD b)) = true →
      (after.take 4).map Char.toLower ≠ "www.".toList

/-- A text that a link around it shows. -/
structure OwnLabel (cs : List Char) : Prop where
  link : cs.head? ≠ some '^'
  plain : PlainAfter '[' cs

/-- What is left of a text that is read as it is written is one, after the part before it. -/
theorem PlainAfter.right {b : Char} {cs ds : List Char} (h : PlainAfter b (cs ++ ds)) :
    PlainAfter (cs.getLast?.getD b) ds where
  unmarked := fun c hc => h.unmarked c (List.mem_append_right cs hc)
  escapes := by
    intro before c after heq
    refine h.escapes (cs ++ before) c after ?_
    rw [List.append_assoc, heq, List.append_assoc]
  references := by
    intro before after heq
    refine h.references (cs ++ before) after ?_
    rw [heq, List.append_assoc]
  underscores := by
    intro before after heq
    have hmark := h.underscores (cs ++ before) after (by rw [heq, List.append_assoc])
    rw [List.getLast?_append, Option.getD_or] at hmark
    exact hmark
  hosts := by
    intro before after heq
    have hhost := h.hosts (cs ++ before) after (by rw [heq, List.append_assoc])
    rw [List.getLast?_append, Option.getD_or] at hhost
    exact hhost

theorem eq_dot_of_toLower {c : Char} (h : c.toLower = '.') : c = '.' := by
  unfold Char.toLower at h
  split at h
  · next hupper =>
    have hval := congrArg (fun c : Char => c.val.toNat) h
    simp [UInt32.le_iff_toNat_le] at hval hupper
    omega
  · exact h

/-- Characters that mean something in a label, alone or with others. -/
def isWordMark (c : Char) : Bool := isLabelMark c || isControl c || "\\&_.^".toList.contains c

/-- Two texts without any mark, with an underscore between them that follows a letter or a digit, are
a label that is read as it is written. -/
theorem ownLabel_of_unmarked {cs ds : List Char} (h : (cs ++ ds).any isWordMark = false)
    (hlast : (cs.getLast?.map flankOf) = some .other) : OwnLabel (cs ++ '_' :: ds) := by
  obtain ⟨last, hlast, hother⟩ := Option.map_eq_some_iff.mp hlast
  rw [List.any_eq_false] at h
  have hne : ∀ {d : Char}, isWordMark d = true → d ∉ cs ++ ds := fun hd hmem => h _ hmem hd
  have hmem : ∀ {c : Char}, c ∈ cs ++ '_' :: ds → c = '_' ∨ c ∈ cs ++ ds := by
    intro c hc
    simp only [List.mem_append, List.mem_cons] at hc ⊢
    tauto
  have hnot : ∀ {d : Char}, isWordMark d = true → d ≠ '_' → d ∉ cs ++ '_' :: ds := fun hd hother hc =>
    (hmem hc).elim hother (hne hd)
  refine ⟨fun hhead => hnot (d := '^') (by decide) (by decide) (List.mem_of_head? hhead), ?_, ?_,
    referenceFree_of_not_mem (hnot (by decide) (by decide)), ?_, ?_⟩
  · intro c hc
    rcases hmem hc with rfl | hc
    · exact ⟨by decide, by decide⟩
    · have hmark := h c hc
      rw [isWordMark, Bool.or_eq_true, Bool.or_eq_true, not_or, not_or, Bool.not_eq_true,
        Bool.not_eq_true] at hmark
      exact hmark.1
  · refine escapeFree_of_not_mem ?_
    simpa using hnot (d := '\\') (by decide) (by decide)
  · intro before after heq
    have hunderscore : '_' ∉ cs ++ ds := hne (by decide)
    rw [List.mem_append, not_or] at hunderscore
    obtain ⟨rfl, -, -⟩ := (List.append_cons_inj_of_notMem hunderscore.1 hunderscore.2).mp heq
    rw [hlast]
    exact .inr hother
  · intro before after heq _ hwww
    have hdot : '.' ∈ (after.take 4).map Char.toLower := by
      rw [hwww]
      decide
    obtain ⟨c, hc, hlower⟩ := List.mem_map.mp hdot
    refine hnot (d := '.') (by decide) (by decide) ?_
    rw [heq, ← eq_dot_of_toLower hlower]
    exact List.mem_append_right before (List.mem_of_mem_take hc)

/-! ### Reading a label -/

/-- A piece that shows glyphs as they are: text, or a run that opens nothing. -/
inductive Piece.Shows : Piece → List Glyph → Prop where
  | data (gs : List Glyph) : (Piece.data gs).Shows gs
  | run (gs : List Glyph) (closes : Bool) : (Piece.run gs false closes).Shows gs

/-- Pieces that show glyphs as they are, each some more of them. -/
inductive Shows : List Piece → List Glyph → Prop where
  | nil : Shows [] []
  | cons {p : Piece} {ps : List Piece} {read gs : List Glyph} (hp : p.Shows read)
      (hrest : Shows ps gs) : Shows (p :: ps) (read ++ gs)

section Steps

variable {scope : Scope} {state : Reading} {b : Char} {g bracket : Glyph} {r rest : List Glyph}

/-- One step in a text that is read as it is written: a part of it becomes a piece that shows it. No
underscore is left after one that was read. -/
inductive ReadsPlain (state : Reading) (gs rest : List Glyph) : Reading × List Glyph → Prop where
  | step {p : Piece} {read left : List Glyph} (hgs : gs = read ++ left) (hne : read ≠ [])
      (hp : p.Shows read) (hseam : read.getLast?.map (·.char) = some '_' →
        left.head?.map (·.char) ≠ some '_') :
      ReadsPlain state gs rest (state.add p (read.getLast?.map (·.char)), left ++ rest)

/-- What goes on as a reference does before a bracket does so without what follows the bracket. -/
theorem startsReference_of_append {cs ds : List Char} (h : StartsReference (cs ++ ']' :: ds)) :
    StartsReference cs := by
  obtain ⟨body, rest, hbody, heq⟩ := h
  have hbracket : ']' ∉ body := by
    intro hmem
    cases hbody with
    | named halphanum _ _ => exact absurd (halphanum _ hmem) (by decide)
    | decimal hdigits =>
      rcases List.mem_cons.mp hmem with h | h
      · cases h
      · exact absurd (hdigits.2.2 _ h) (by decide)
    | hexadecimal hx hdigits =>
      rcases List.mem_cons.mp hmem with h | h
      · cases h
      · rcases List.mem_cons.mp h with h | h
        · rcases hx with hx | hx <;> rw [← h] at hx <;> cases hx
        · exact absurd (hdigits.2.2 _ h) (by decide)
  rcases List.append_eq_append_iff.mp heq with ⟨t, hbody', ht⟩ | ⟨t, hcs, ht⟩
  · cases t with
    | nil => cases ht
    | cons c t =>
      obtain ⟨rfl, -⟩ := List.cons.inj ht
      exact absurd (hbody' ▸ List.mem_append_right cs List.mem_cons_self) hbracket
  · cases t with
    | nil => cases ht
    | cons c t =>
      obtain ⟨rfl, -⟩ := List.cons.inj ht
      exact ⟨body, t, hbody, hcs⟩

theorem reference?_eq_none (hbracket : bracket.char = ']')
    (h : ¬ StartsReference (r.map (·.char))) : reference? (r ++ bracket :: rest) = none := by
  rw [← Option.not_isSome_iff_eq_none, isSome_reference?_iff, List.map_append, List.map_cons,
    hbracket]
  exact fun hstarts => h (startsReference_of_append hstarts)

/-- A word without the character that a text ends at is at its start or not at all. -/
theorem take_of_stop {f : Glyph → Char} {word : List Char} {gs : List Glyph} (hstop : f bracket ∉ word)
    (h : ((gs ++ bracket :: rest).take word.length).map f = word) :
    (gs.take word.length).map f = word := by
  by_cases hlength : word.length ≤ gs.length
  · rw [List.take_append_of_le_length hlength] at h
    exact h
  · obtain ⟨n, hn⟩ : ∃ n, word.length - gs.length = n + 1 := ⟨word.length - gs.length - 1, by omega⟩
    rw [List.take_append, hn, List.take_succ_cons, List.map_append, List.map_cons] at h
    exact absurd (h ▸ List.mem_append_right _ List.mem_cons_self) hstop

theorem dropWhile_of_stop {p : Glyph → Bool} (hstop : p bracket = false) (gs : List Glyph) :
    (gs ++ bracket :: rest).dropWhile p = gs.dropWhile p ++ bracket :: rest := by
  rw [List.dropWhile_append, List.dropWhile_cons_of_neg (by rw [hstop]; exact Bool.false_ne_true)]
  split
  · next h => rw [List.isEmpty_iff.mp h, List.nil_append]
  · rfl

/-- No address with a scheme is in a text without slashes. -/
theorem schemeRest?_eq_none {previous : Option Char} {gs : List Glyph}
    (hbracket : bracket.char = ']') (hgs : ∀ g ∈ gs, g.char ≠ '/') :
    Autolink.schemeRest? previous (gs ++ bracket :: rest) = none := by
  have hmarks : (((gs ++ bracket :: rest).dropWhile (·.char.isAlpha)).take 3).map (·.char) ≠
      "://".toList := by
    rw [dropWhile_of_stop (by rw [hbracket]; rfl)]
    intro h
    have htaken := @take_of_stop bracket rest (·.char) "://".toList (gs.dropWhile (·.char.isAlpha))
      (by rw [hbracket]; decide) h
    have hslash : '/' ∈ ((gs.dropWhile (·.char.isAlpha)).take 3).map (·.char) := by
      rw [show 3 = "://".toList.length from rfl, htaken]
      decide
    obtain ⟨g, hg, hchar⟩ := List.mem_map.mp hslash
    exact hgs g ((List.dropWhile_suffix _).subset (List.mem_of_mem_take hg)) hchar
  unfold Autolink.schemeRest?
  simp only
  split
  · rfl
  · rw [if_neg]
    rw [Bool.and_eq_true, beq_iff_eq]
    exact fun h => hmarks h.2

theorem hostRest?_eq_none {previous : Option Char} {gs : List Glyph}
    (hbracket : bracket.char = ']')
    (hgs : Autolink.mayPrecedeHost previous = true →
      ((gs.map (·.char)).take 4).map Char.toLower ≠ "www.".toList) :
    Autolink.hostRest? previous (gs ++ bracket :: rest) = none := by
  unfold Autolink.hostRest?
  rw [if_neg]
  rw [Bool.and_eq_true, Bool.and_eq_true, beq_iff_eq]
  rintro ⟨⟨hprevious, hword⟩, -⟩
  have htaken := @take_of_stop bracket rest (·.char.toLower) "www.".toList gs
    (by rw [hbracket]; decide) hword
  refine hgs hprevious ?_
  rw [← List.map_take, List.map_map]
  exact htaken

/-- No web address starts in a text that is read as it is written. -/
theorem bare?_eq_none {gs : List Glyph} (hbracket : bracket.char = ']')
    (hplain : PlainAfter b (gs.map (·.char))) :
    Autolink.bare? (some b) (gs ++ bracket :: rest) = none := by
  have hslashes : ∀ g ∈ gs, g.char ≠ '/' := by
    intro g hg h
    have hmark := (hplain.unmarked g.char (List.mem_map_of_mem hg)).1
    rw [h] at hmark
    cases hmark
  rw [Autolink.bare?, schemeRest?_eq_none hbracket hslashes, Option.none_or]
  exact hostRest?_eq_none hbracket (hplain.hosts [] _ rfl)

/-- A step that reads one glyph as text. -/
theorem readsPlain_addData (hchar : g.char ≠ '_') :
    ReadsPlain state (g :: r) rest (state.addData [g], r ++ rest) :=
  .step rfl (List.cons_ne_nil g []) (.data [g]) fun h => absurd (by simpa using h) hchar

/-- Underscores after a letter or a digit open no emphasis. -/
theorem runPiece_of_word (hmark : g.char = '_') (hbefore : flankOf g.before = .other) :
    ∃ closes, runPiece (g :: r) = .run (g :: r) false closes := by
  have hflanks : ∀ after, (runFlanks g.char g.before after).1 = false := by
    intro after
    simp [runFlanks, hmark, hbefore]
  unfold runPiece
  rw [List.getLast?_cons]
  simp only [hflanks]
  exact ⟨_, rfl⟩

/-- A run of underscores is read to its end. -/
theorem readsPlain_run (hbracket : bracket.char = ']') (hmark : g.char = '_')
    (hbefore : flankOf g.before = .other) :
    ReadsPlain state (g :: r) (bracket :: rest)
      (state.add
        (runPiece (taken (g :: (r ++ bracket :: rest))
          ((r ++ bracket :: rest).dropWhile (·.char == '_'))))
        (some g.char), (r ++ bracket :: rest).dropWhile (·.char == '_')) := by
  rw [dropWhile_of_stop (by rw [hbracket]; rfl)]
  generalize hread : r.takeWhile (·.char == '_') = read
  generalize hleft : r.dropWhile (·.char == '_') = left
  have hr : r = read ++ left := by rw [← hread, ← hleft, List.takeWhile_append_dropWhile]
  have htaken : taken (g :: (r ++ bracket :: rest)) (left ++ bracket :: rest) = g :: read := by
    rw [hr, List.append_assoc, ← List.cons_append]
    exact taken_append (g :: read) (left ++ bracket :: rest)
  have hlast : (g :: read).getLast?.map (·.char) = some g.char := by
    rw [List.getLast?_cons, Option.map_some, Option.some.injEq, hmark]
    cases hmem : read.getLast? with
    | none => exact hmark
    | some last =>
      have hunderscore := List.mem_takeWhile_imp (hread ▸ List.mem_of_getLast? hmem)
      exact beq_iff_eq.mp hunderscore
  obtain ⟨closes, hpiece⟩ := @runPiece_of_word g read hmark hbefore
  rw [htaken, hpiece, ← hlast]
  refine .step (by rw [hr]; rfl) (List.cons_ne_nil g read) (.run (g :: read) closes) ?_
  intro _ hhead
  obtain ⟨i, hi, hchar⟩ := Option.map_eq_some_iff.mp hhead
  have hstops := List.head?_dropWhile_not (fun i : Glyph => i.char == '_') r
  rw [hleft, hi] at hstops
  simp [hchar] at hstops

theorem isEnd_of_isControl (h : isControl g.char = false) : g.isEnd = false := by
  rw [Glyph.isEnd, beq_eq_false_iff_ne]
  intro hend
  rw [hend] at h
  cases h

/-- What follows a character of a text that is read as it is written opens no label and is not
escaped; it may be the closing bracket. -/
theorem exists_next (hbracket : bracket.char = ']')
    (hplain : PlainAfter b ((g :: r).map (·.char))) :
    ∃ i t, r ++ bracket :: rest = i :: t ∧ i.isEnd = false ∧ i.char ≠ '[' ∧
      (g.char = '\\' → isAsciiPunctuation i.char = false) := by
  have hescapes := hplain.escapes
  rw [List.map_cons, List.cons_append, escapeFree_cons] at hescapes
  cases r with
  | nil =>
    refine ⟨bracket, rest, rfl, by rw [Glyph.isEnd, hbracket]; rfl, by rw [hbracket]; decide, ?_⟩
    exact fun hslash => hescapes.1 hslash bracket.char (by rw [hbracket]; rfl)
  | cons i t =>
    obtain ⟨hmark, hcontrol⟩ := hplain.unmarked i.char (by simp)
    refine ⟨i, t ++ bracket :: rest, rfl, isEnd_of_isControl hcontrol, ?_,
      fun hslash => hescapes.1 hslash i.char rfl⟩
    intro h
    rw [h] at hmark
    cases hmark

/-- Each step in a text that is read as it is written shows what it reads. -/
theorem readOne_plain (hbracket : bracket.char = ']') (hprevious : state.previous = some b)
    (hfollows : Follows b (g :: r)) (hplain : PlainAfter b ((g :: r).map (·.char)))
    (hrun : b = '_' → g.char ≠ '_') :
    ReadsPlain state (g :: r) (bracket :: rest)
      (readOne scope state g (r ++ bracket :: rest)) := by
  obtain ⟨hmark, hcontrol⟩ := hplain.unmarked g.char List.mem_cons_self
  have hnot : ∀ {c : Char}, isLabelMark c = true → ¬ (g.char == c) = true := by
    intro c hc h
    rw [beq_iff_eq.mp h, hc] at hmark
    cases hmark
  obtain ⟨i, t, hit, hiend, hiopen, hiescape⟩ := @exists_next b g bracket r rest hbracket hplain
  have hdata : g.char ≠ '_' → ReadsPlain state (g :: r) (bracket :: rest)
      (state.addData [g], r ++ bracket :: rest) := readsPlain_addData
  -- the constructs in the order in which they are tried
  unfold readOne
  rw [isEnd_of_isControl hcontrol]
  simp only [Bool.false_eq_true, if_false]
  by_cases hslash : g.char = '\\'
  · rw [if_pos (by simp [hslash]), hit]
    simp only [hiend, hiescape hslash, Bool.false_eq_true, if_false]
    rw [← hit]
    exact hdata (by rw [hslash]; decide)
  rw [if_neg (by simpa using hslash)]
  by_cases hampersand : g.char = '&'
  · have hreferences := hplain.references
    rw [List.map_cons, referenceFree_cons] at hreferences
    rw [if_pos (by simp [hampersand]), reference?_eq_none hbracket (hreferences.1 hampersand)]
    exact hdata (by rw [hampersand]; decide)
  rw [if_neg (by simpa using hampersand), if_neg (hnot (c := '\x60') (by decide))]
  by_cases hunderscore : g.char = '_'
  · have hflank : flankOf b = .other :=
      (hplain.underscores [] (r.map (·.char)) (by rw [List.map_cons, hunderscore]; rfl)).resolve_left
        fun h => hrun h hunderscore
    have hbefore : g.before = b := by
      cases hfollows with
      | cons _ hbefore _ _ => exact hbefore
    have hstep := @readsPlain_run state g bracket r rest hbracket hunderscore (hbefore ▸ hflank)
    rw [← hunderscore] at hstep
    rw [if_pos (by rw [hunderscore]; rfl)]
    exact hstep
  have hemphasis : isEmphasisMark g.char = false := by
    have hstar := hnot (c := '*') (by decide)
    have htilde := hnot (c := '~') (by decide)
    simp only [isEmphasisMark, hstar, htilde, beq_eq_false_iff_ne.mpr hunderscore, Bool.or_false]
  have hbare : Autolink.bare? state.previous (g :: (r ++ bracket :: rest)) = none := by
    rw [hprevious]
    exact bare?_eq_none hbracket hplain
  rw [hemphasis, if_neg Bool.false_ne_true, if_neg (hnot (c := '<') (by decide)), hbare, hit]
  simp only [beq_eq_false_iff_ne.mpr hiopen, Bool.false_and, Bool.false_eq_true, if_false,
    if_neg (hnot (c := '[') (by decide)), if_neg (hnot (c := ']') (by decide)), ite_self]
  rw [← hit]
  exact hdata hunderscore

/-- A text that is read as it is written adds pieces that show it. -/
theorem readAll_plain (hbracket : bracket.char = ']') {fuel : Nat} {gs : List Glyph}
    (hfuel : (gs ++ bracket :: rest).length ≤ fuel) (hprevious : state.previous = some b)
    (hfollows : Follows b gs) (hplain : PlainAfter b (gs.map (·.char)))
    (hseam : b = '_' → gs.head?.map (·.char) ≠ some '_') :
    ∃ ps fuel' last, Shows ps gs ∧ (bracket :: rest).length ≤ fuel' ∧
      readAll scope fuel state (gs ++ bracket :: rest) =
        readAll scope fuel' { state with pieces := ps.reverse ++ state.pieces, previous := last }
          (bracket :: rest) := by
  induction fuel generalizing state b gs with
  | zero => simp at hfuel
  | succ fuel ih =>
    cases gs with
    | nil => exact ⟨[], fuel + 1, state.previous, .nil, hfuel, rfl⟩
    | cons g r =>
      have hstep : ReadsPlain state (g :: r) (bracket :: rest)
          (readOne scope state g (r ++ bracket :: rest)) :=
        readOne_plain hbracket hprevious hfollows hplain fun h hg => hseam h (by rw [← hg]; rfl)
      rw [List.cons_append, readAll]
      generalize readOne scope state g (r ++ bracket :: rest) = next at hstep
      cases hstep with
      | @step p read left hgs hne hp hseam' =>
        rw [hgs] at hfollows hplain hfuel
        obtain ⟨last, hlast⟩ := Option.ne_none_iff_exists'.mp (mt List.getLast?_eq_none_iff.mp hne)
        rw [hlast, Option.map_some] at hseam' ⊢
        have hleft : PlainAfter last.char (left.map (·.char)) := by
          rw [List.map_append] at hplain
          have hright := hplain.right
          rw [List.getLast?_map, hlast] at hright
          exact hright
        have hfollows' : Follows last.char left := by
          have hright := hfollows.right
          rw [hlast] at hright
          exact hright
        have hfuel' : (left ++ bracket :: rest).length ≤ fuel := by
          have hpos := List.length_pos_iff.mpr hne
          simp only [List.length_append] at hfuel ⊢
          omega
        obtain ⟨ps, fuel', last', hshows, hleftover, hread⟩ :=
          @ih (state.add p (some last.char)) last.char left hfuel' rfl hfollows' hleft
            fun h => hseam' (by rw [h])
        refine ⟨p :: ps, fuel', last', hgs ▸ .cons hp hshows, hleftover, hread.trans ?_⟩
        simp [Reading.add]

end Steps

/-! ### The text of a label -/

section Phrase

variable {ps : List Piece} {gs : List Glyph}

theorem Shows.of_mem (h : Shows ps gs) : ∀ p ∈ ps, ∃ read, p.Shows read := by
  induction h with
  | nil => exact fun _ hp => nomatch hp
  | cons hp _ ih => exact List.forall_mem_cons.mpr ⟨⟨_, hp⟩, ih⟩

/-- No run fits another one where none opens. -/
theorem opener?_eq_none (closer : List Glyph) (closerOpens : Bool)
    (h : ∀ p ∈ ps, ∃ read, p.Shows read) : opener? closer closerOpens ps = none := by
  induction ps with
  | nil => rfl
  | cons p ps ih =>
    obtain ⟨⟨read, hp⟩, hps⟩ := List.forall_mem_cons.mp h
    cases hp with
    | data => rw [opener?, ih hps, Option.map_none]; simp
    | run => rw [opener?, Bool.false_and, if_neg Bool.false_ne_true, ih hps, Option.map_none]

theorem matchRuns_of_shows (links : Bool) (h : ∀ p ∈ ps, ∃ read, p.Shows read) :
    matchRuns links ps = ps.reverse := by
  have hfold : ∀ rest before : List Piece, (∀ p ∈ rest, ∃ read, p.Shows read) →
      (∀ p ∈ before, ∃ read, p.Shows read) →
        rest.foldl (addPiece links) before = rest.reverse ++ before := by
    intro rest
    induction rest with
    | nil => exact fun _ _ _ => rfl
    | cons p rest ih =>
      intro before hrest hbefore
      obtain ⟨hp, hrest⟩ := List.forall_mem_cons.mp hrest
      have hadd : addPiece links before p = p :: before := by
        obtain ⟨read, hp⟩ := hp
        cases hp with
        | data => rfl
        | run _ closes =>
          cases closes with
          | false => rfl
          | true =>
            rw [addPiece]
            cases read.length with
            | zero => rfl
            | succ n => rw [closeRun, opener?_eq_none read false hbefore]
      rw [List.foldl_cons, hadd, ih (p :: before) hrest (List.forall_mem_cons.mpr ⟨hp, hbefore⟩),
        List.reverse_cons, List.append_assoc]
      rfl
  rw [matchRuns_eq, hfold ps [] h (fun _ hp => nomatch hp), List.append_nil]

theorem joinText_of_shows (h : Shows ps gs) (hne : ps ≠ []) : joinText ps = [.data gs] := by
  have hjoined : ∀ {read gs : List Glyph} {ps : List Piece}, Shows ps gs →
      (ps ≠ [] → joinText ps = [.data gs]) →
        joinText.joined read (joinText ps) = [.data (read ++ gs)] := by
    intro read gs ps h ih
    cases h with
    | nil => rw [List.append_nil]; rfl
    | cons => rw [ih (List.cons_ne_nil _ _), joinText.joined]
  induction h with
  | nil => exact absurd rfl hne
  | cons hp hrest ih =>
    cases hp with
    | data => rw [joinText, hjoined hrest ih]
    | run => rw [joinText, hjoined hrest ih]

/-- Pieces that show a text are that text. -/
theorem phrase_of_shows (h : Shows ps gs) (hne : gs ≠ []) :
    phrase false false false ps = [textElement (textOf gs) (startOf 0 gs) (stopOf 0 gs)] := by
  have hps : ps ≠ [] := by
    rintro rfl
    cases h
    exact hne rfl
  have hatoms : atoms false false false none [.data gs] =
      [.text (textOf gs) (startOf 0 gs) (stopOf 0 gs)] := by
    simp [atoms, dataAtoms, dataAtom, hne]
  rw [phrase, matchRuns_of_shows false h.of_mem, List.reverse_reverse, elementsOfPieces,
    joinText_of_shows h hps, hatoms]
  rfl

theorem textOf_plain (h : ArePlain gs) : textOf gs = gs.map (·.char) := by
  have hfilling : gs.takeWhile Glyph.isFilling = [] := by
    cases gs with
    | nil => rfl
    | cons g r =>
      refine List.takeWhile_cons_of_neg ?_
      rw [Glyph.isFilling, h g List.mem_cons_self]
      decide
  rw [textOf, hfilling, List.map_nil, List.nil_append, List.map_eq_flatMap]
  exact List.flatMap_congr fun g hg => text_of_plain (h g hg)

end Phrase

end SopDocs.Markdown
