import SopDocs.Markdown.TableRow
import SopDocs.Proofs.Markdown.Source

/-!
# Rows are cut at their bars

A row is a bar and then, piece by piece, some text and another bar. Where no text ends
with a backslash each of these bars cuts. The cells are then those of the texts between
them, and there are more cells than texts exactly if a text holds a bar that cuts.
-/

namespace SopDocs.Markdown

/-! ### Pieces -/

/-- Puts a glyph in front of the first piece. -/
def consFirst (g : Glyph) : List (List Glyph) → List (List Glyph)
  | p :: ps => (g :: p) :: ps
  | [] => [[g]]

/-- Whether a glyph has no meaning of its own after a glyph that may escape it. -/
def isSkipped (escaped : Bool) (g : Glyph) : Bool := escaped && (g.char == '\\' || g.char == '|')

/-- Whether a glyph escapes the next one. -/
def escapesNext (escaped : Bool) (g : Glyph) : Bool := !isSkipped escaped g && g.char == '\\'

variable {e : Bool} {b g : Glyph} {gs r xs ys : List Glyph}

theorem barPieces_ne_nil (e : Bool) (gs : List Glyph) : barPieces e gs ≠ [] := by
  cases gs with
  | nil => exact List.cons_ne_nil _ _
  | cons g r =>
    unfold barPieces
    simp only
    split
    · split <;> exact List.cons_ne_nil _ _
    · exact List.cons_ne_nil _ _

theorem barPieces_cons (e : Bool) (g : Glyph) (r : List Glyph) :
    barPieces e (g :: r) =
      if isBar g && !isSkipped e g then [] :: consFirst g (barPieces (escapesNext e g) r)
      else consFirst g (barPieces (escapesNext e g) r) := by
  have hne := barPieces_ne_nil (escapesNext e g) r
  have hunfold : barPieces e (g :: r) =
      match barPieces (escapesNext e g) r with
      | p :: ps =>
        if g.char == '|' && !isSkipped e g then [] :: (g :: p) :: ps else (g :: p) :: ps
      | [] => [[g]] := rfl
  rw [hunfold]
  cases hpieces : barPieces (escapesNext e g) r with
  | nil => exact absurd hpieces hne
  | cons p ps => rfl

theorem consFirst_append {ps : List (List Glyph)} (h : ps ≠ []) (g : Glyph)
    (qs : List (List Glyph)) : consFirst g (ps ++ qs) = consFirst g ps ++ qs := by
  cases ps with
  | nil => exact absurd rfl h
  | cons p ps => rfl

theorem length_consFirst {ps : List (List Glyph)} (h : ps ≠ []) (g : Glyph) :
    (consFirst g ps).length = ps.length := by
  cases ps with
  | nil => exact absurd rfl h
  | cons p ps => rfl

theorem flatten_consFirst (g : Glyph) (ps : List (List Glyph)) :
    (consFirst g ps).flatten = g :: ps.flatten := by
  cases ps <;> rfl

theorem flatten_barPieces (e : Bool) (gs : List Glyph) : (barPieces e gs).flatten = gs := by
  induction gs generalizing e with
  | nil => rfl
  | cons g r ih =>
    rw [barPieces_cons]
    split
    · rw [List.flatten_cons, flatten_consFirst, ih]
      rfl
    · rw [flatten_consFirst, ih]

theorem length_barPieces_cons (e : Bool) (g : Glyph) (r : List Glyph) :
    (barPieces e (g :: r)).length =
      (barPieces (escapesNext e g) r).length + if isBar g && !isSkipped e g then 1 else 0 := by
  rw [barPieces_cons]
  split
  · rw [List.length_cons, length_consFirst (barPieces_ne_nil _ _)]
  · rw [length_consFirst (barPieces_ne_nil _ _), Nat.add_zero]

/-- A text without bars is one piece. -/
theorem barPieces_of_noBar (e : Bool) (h : ∀ g ∈ gs, isBar g = false) : barPieces e gs = [gs] := by
  induction gs generalizing e with
  | nil => rfl
  | cons g r ih =>
    rw [barPieces_cons, h g List.mem_cons_self, ih _ fun i hi => h i (List.mem_cons_of_mem g hi)]
    rfl

theorem barPieces_bar (hb : isBar b = true) (ys : List Glyph) :
    barPieces false (b :: ys) = [] :: consFirst b (barPieces false ys) := by
  have hchar : b.char = '|' := by simpa [isBar] using hb
  rw [barPieces_cons]
  simp [hb, isSkipped, escapesNext, hchar]

/-- A bar after a glyph that is no backslash cuts. -/
theorem barPieces_append_bar (hb : isBar b = true)
    (h : ∀ s, xs.getLast? = some s → s.char ≠ '\\') (hne : xs ≠ [] ∨ e = false) :
    barPieces e (xs ++ b :: ys) = barPieces e xs ++ consFirst b (barPieces false ys) := by
  have hcut := barPieces_bar hb ys
  induction xs generalizing e with
  | nil =>
    have he : e = false := hne.resolve_left fun h => h rfl
    rw [he]
    exact hcut
  | cons g r ih =>
    have hnext : barPieces (escapesNext e g) (r ++ b :: ys) =
        barPieces (escapesNext e g) r ++ consFirst b (barPieces false ys) := by
      cases r with
      | nil =>
        have hg : escapesNext e g = false := by
          unfold escapesNext
          simp [h g rfl]
        rw [hg]
        exact hcut
      | cons i t =>
        refine ih (fun s hs => h s ?_) (Or.inl (List.cons_ne_nil i t))
        rw [List.getLast?_cons, hs]
        rfl
    rw [List.cons_append, barPieces_cons, barPieces_cons, hnext,
      consFirst_append (barPieces_ne_nil _ _)]
    split <;> rfl

theorem length_barPieces_pos (e : Bool) (gs : List Glyph) : 1 ≤ (barPieces e gs).length :=
  List.length_pos_iff.mpr (barPieces_ne_nil e gs)

theorem length_barPieces_append (e : Bool) (xs : List Glyph) (h : ∀ g ∈ ys, isBar g = false) :
    (barPieces e (xs ++ ys)).length = (barPieces e xs).length := by
  induction xs generalizing e with
  | nil => rw [List.nil_append, barPieces_of_noBar e h]; rfl
  | cons g r ih => rw [List.cons_append, length_barPieces_cons, length_barPieces_cons, ih]

/-- Text that neither cuts nor escapes does not count. -/
theorem length_barPieces_plain (e : Bool) {g : Glyph} {r : List Glyph}
    (h : ∀ i ∈ g :: r, i.char ≠ '|' ∧ i.char ≠ '\\') (ys : List Glyph) :
    (barPieces e (g :: r ++ ys)).length = (barPieces false ys).length := by
  have hstep : ∀ (e : Bool) (i : Glyph) (zs : List Glyph), i.char ≠ '|' → i.char ≠ '\\' →
      (barPieces e (i :: zs)).length = (barPieces false zs).length := by
    intro e i zs hbar hslash
    have hnext : escapesNext e i = false := by
      unfold escapesNext
      simp [hslash]
    rw [length_barPieces_cons, hnext]
    simp [isBar, hbar]
  induction r generalizing e g with
  | nil => exact hstep e g ys (h g List.mem_cons_self).1 (h g List.mem_cons_self).2
  | cons i t ih =>
    rw [List.cons_append, hstep e g _ (h g List.mem_cons_self).1 (h g List.mem_cons_self).2]
    exact ih false fun j hj => h j (List.mem_cons_of_mem g hj)

/-! ### Rows -/

/-- The glyphs of a row: a bar, and then texts, each with the bar after it. -/
def rowGlyphs (first : Glyph) (parts : List (List Glyph × Glyph)) : List Glyph :=
  first :: parts.flatMap fun part => part.1 ++ [part.2]

/-- The pieces of the texts of a row, the first one of each with the bar before it. -/
def rowPieces (first : Glyph) : List (List Glyph × Glyph) → List (List Glyph)
  | [] => []
  | (text, bar) :: parts => consFirst first (barPieces false text) ++ rowPieces bar parts

/-- The last bar of a row. -/
def lastBar (first : Glyph) : List (List Glyph × Glyph) → Glyph
  | [] => first
  | (_, bar) :: parts => lastBar bar parts

/-- Whether the bars of a row are bars, and no text before one ends with a backslash. -/
def Barred (parts : List (List Glyph × Glyph)) : Prop :=
  ∀ part ∈ parts, isBar part.2 = true ∧ ∀ s, part.1.getLast? = some s → s.char ≠ '\\'

variable {first : Glyph} {parts : List (List Glyph × Glyph)}

theorem barPieces_rowGlyphs (hfirst : isBar first = true) (h : Barred parts) :
    barPieces false (rowGlyphs first parts) =
      [] :: (rowPieces first parts ++ [[lastBar first parts]]) := by
  induction parts generalizing first with
  | nil => exact barPieces_bar hfirst []
  | cons part parts ih =>
    obtain ⟨text, bar⟩ := part
    obtain ⟨hbar, htext⟩ := h (text, bar) List.mem_cons_self
    have hrest := ih hbar fun p hp => h p (List.mem_cons_of_mem _ hp)
    rw [rowGlyphs, barPieces_bar hbar] at hrest
    have hflat : ((text, bar) :: parts).flatMap (fun part => part.1 ++ [part.2]) =
        text ++ bar :: parts.flatMap fun part => part.1 ++ [part.2] := by
      simp
    rw [rowGlyphs, barPieces_bar hfirst, hflat, barPieces_append_bar hbar htext (Or.inr rfl),
      consFirst_append (barPieces_ne_nil _ _), (List.cons.inj hrest).2]
    simp [rowPieces, lastBar]

theorem texts_joinEnd {as : List CellPart} {z : CellPart} (hne : as ≠ []) (hz : z.text = []) :
    (joinEnd (as ++ [z])).map (·.text) = as.map (·.text) := by
  induction as with
  | nil => exact absurd rfl hne
  | cons a as ih =>
    cases as with
    | nil => simp [joinEnd, hz]
    | cons c as =>
      have hstep : joinEnd (a :: c :: as ++ [z]) = a :: joinEnd (c :: as ++ [z]) := by
        rw [List.cons_append, List.cons_append, joinEnd]
        intro b h
        cases as <;> simp at h
      rw [hstep, List.map_cons, ih (List.cons_ne_nil c as)]
      rfl

/-- The texts of the cells of a row. -/
theorem texts_rowCells (hfirst : isBar first = true) (h : Barred parts) (hne : parts ≠ []) :
    (rowCells (rowGlyphs first parts)).map (·.text) = (rowPieces first parts).map cellText := by
  have hlast : isBar (lastBar first parts) = true := by
    clear hne
    induction parts generalizing first with
    | nil => exact hfirst
    | cons part parts ih =>
      exact ih (h part List.mem_cons_self).1 fun p hp => h p (List.mem_cons_of_mem _ hp)
  obtain ⟨p, ps, hpieces⟩ : ∃ p ps, rowPieces first parts = p :: ps := by
    cases parts with
    | nil => exact absurd rfl hne
    | cons part parts =>
      obtain ⟨text, bar⟩ := part
      rw [rowPieces]
      cases barPieces false text with
      | nil => exact ⟨_, _, rfl⟩
      | cons q qs => exact ⟨_, _, rfl⟩
  unfold rowCells
  rw [barPieces_rowGlyphs hfirst h, hpieces, List.cons_append]
  have hend : cellText [lastBar first parts] = [] := by simp [cellText, hlast, skipSpaces]
  have hstart : joinStart (([] :: p :: (ps ++ [[lastBar first parts]])).map
      fun p => ⟨p, cellText p⟩) =
      (p :: ps).map (fun p => ⟨p, cellText p⟩) ++ [⟨[lastBar first parts], []⟩] := by
    simp [joinStart, isBlankText, hend]
  rw [hstart, texts_joinEnd (by simp) rfl, List.map_map]
  rfl

/-- Whether no bar cuts a text. -/
def Uncut (gs : List Glyph) : Prop := (barPieces false gs).length = 1

theorem barPieces_of_uncut (h : Uncut gs) : barPieces false gs = [gs] := by
  have hflatten := flatten_barPieces false gs
  obtain ⟨p, hp⟩ := List.length_eq_one_iff.mp h
  rw [hp] at hflatten ⊢
  rw [← hflatten, List.flatten_singleton]

theorem length_rowPieces_ge (first : Glyph) (parts : List (List Glyph × Glyph)) :
    parts.length ≤ (rowPieces first parts).length := by
  induction parts generalizing first with
  | nil => exact Nat.le_refl _
  | cons part parts ih =>
    rw [rowPieces, List.length_append, length_consFirst (barPieces_ne_nil _ _), List.length_cons]
    have hpos := length_barPieces_pos false part.1
    have hrest := ih part.2
    omega

/-- A row with as many pieces as texts cuts none of them. -/
theorem uncut_of_length (h : (rowPieces first parts).length = parts.length) :
    ∀ part ∈ parts, Uncut part.1 := by
  induction parts generalizing first with
  | nil => exact fun _ hp => by cases hp
  | cons part parts ih =>
    rw [rowPieces, List.length_append, length_consFirst (barPieces_ne_nil _ _),
      List.length_cons] at h
    have hpos := length_barPieces_pos false part.1
    have hrest := length_rowPieces_ge part.2 parts
    have hpart : Uncut part.1 := by unfold Uncut; omega
    have hparts : (rowPieces part.2 parts).length = parts.length := by omega
    intro p hp
    rcases List.mem_cons.mp hp with rfl | hp
    · exact hpart
    · exact ih hparts p hp

/-- A text without the spaces around it. -/
def stripSpaces (gs : List Glyph) : List Glyph :=
  ((skipSpaces gs).reverse.dropWhile Glyph.isSpace).reverse

theorem rowPieces_of_uncut (hfirst : isBar first = true) (h : Barred parts)
    (huncut : ∀ part ∈ parts, Uncut part.1) :
    (rowPieces first parts).map cellText = parts.map fun part => stripSpaces part.1 := by
  induction parts generalizing first with
  | nil => rfl
  | cons part parts ih =>
    have hrest := ih (h part List.mem_cons_self).1 (fun p hp => h p (List.mem_cons_of_mem _ hp))
      fun p hp => huncut p (List.mem_cons_of_mem _ hp)
    rw [rowPieces, barPieces_of_uncut (huncut part List.mem_cons_self), List.map_append, hrest]
    simp [consFirst, cellText, hfirst, stripSpaces]

/-- A row has a cell for each of its texts if no bar cuts one, and only then. -/
theorem length_rowCells_iff (hfirst : isBar first = true) (h : Barred parts) (hne : parts ≠ []) :
    (rowCells (rowGlyphs first parts)).length = parts.length ↔ ∀ part ∈ parts, Uncut part.1 := by
  have htexts := congrArg List.length (texts_rowCells hfirst h hne)
  rw [List.length_map, List.length_map] at htexts
  rw [htexts]
  constructor
  · exact uncut_of_length
  · intro huncut
    have heq := congrArg List.length (rowPieces_of_uncut hfirst h huncut)
    rw [List.length_map, List.length_map] at heq
    exact heq

/-- The cells of a row whose texts no bar cuts are these texts without the spaces around them. -/
theorem texts_of_uncut (hfirst : isBar first = true) (h : Barred parts)
    (huncut : ∀ part ∈ parts, Uncut part.1) (hne : parts ≠ []) :
    (rowCells (rowGlyphs first parts)).map (·.text) =
      parts.map fun part => stripSpaces part.1 := by
  rw [texts_rowCells hfirst h hne]
  exact rowPieces_of_uncut hfirst h huncut

theorem stripSpaces_append (spaces cell more : List Glyph)
    (hspaces : ∀ g ∈ spaces, g.isSpace = true) (hmore : ∀ g ∈ more, g.isSpace = true)
    (hhead : ∀ g, cell.head? = some g → g.isSpace = false)
    (hlast : ∀ g, cell.getLast? = some g → g.isSpace = false) :
    stripSpaces (spaces ++ (cell ++ more)) = cell := by
  have hdrop : ∀ (ss gs : List Glyph), (∀ g ∈ ss, g.isSpace = true) →
      (∀ g, gs.head? = some g → g.isSpace = false) → (ss ++ gs).dropWhile Glyph.isSpace = gs := by
    intro ss gs hss hgs
    rw [List.dropWhile_append_of_pos hss]
    exact Text.dropWhile_eq_self_iff.mpr hgs
  unfold stripSpaces skipSpaces
  cases cell with
  | nil =>
    rw [List.nil_append, ← List.append_nil (spaces ++ more),
      hdrop (spaces ++ more) [] (fun g hg => (List.mem_append.mp hg).elim (hspaces g) (hmore g))
        hhead]
    rfl
  | cons g r =>
    rw [hdrop spaces (g :: r ++ more) hspaces fun i hi => hhead i hi, List.reverse_append,
      hdrop more.reverse _ (fun i hi => hmore i (List.mem_reverse.mp hi))
        (by rw [List.head?_reverse]; exact hlast), List.reverse_reverse]

/-! ### Spelled rows -/

/-- The text of a row: a bar, and then texts, each with a bar after it. -/
def barredText (texts : List (List Char)) : List Char := '|' :: texts.flatMap (· ++ ['|'])

theorem oneLine_barredText {texts : List (List Char)} (h : ∀ text ∈ texts, OneLine text) :
    OneLine (barredText texts) := by
  intro c hc
  rcases List.mem_cons.mp hc with rfl | hc
  · decide
  · obtain ⟨text, htext, hc⟩ := List.mem_flatMap.mp hc
    rcases List.mem_append.mp hc with hc | hc
    · exact h text htext c hc
    · rw [List.mem_singleton.mp hc]
      decide

/-- The parts of a row with the texts that they spell. -/
inductive Parts (source : List Char) : List (List Char) → List (List Glyph × Glyph) → Prop where
  | nil : Parts source [] []
  | cons {text : List Char} {texts : List (List Char)} {gs : List Glyph} {bar : Glyph}
      {parts : List (List Glyph × Glyph)} (htext : Spells source text gs)
      (hbar : isBar bar = true) (hrest : Parts source texts parts) :
      Parts source (text :: texts) ((gs, bar) :: parts)

variable {source : List Char} {texts : List (List Char)}

theorem Parts.length_eq (h : Parts source texts parts) : parts.length = texts.length := by
  induction h with
  | nil => rfl
  | cons _ _ _ ih => rw [List.length_cons, List.length_cons, ih]

/-- Each part spells one of the texts. -/
theorem Parts.exists_text (h : Parts source texts parts) {part : List Glyph × Glyph}
    (hpart : part ∈ parts) : ∃ text ∈ texts, Spells source text part.1 ∧ isBar part.2 = true := by
  induction h with
  | nil => cases hpart
  | @cons text texts gs bar parts htext hbar _ ih =>
    rcases List.mem_cons.mp hpart with rfl | hpart
    · exact ⟨text, List.mem_cons_self, htext, hbar⟩
    · obtain ⟨t, ht, hspells⟩ := ih hpart
      exact ⟨t, List.mem_cons_of_mem _ ht, hspells⟩

theorem Spells.exists_parts (h : Spells source (barredText texts) gs) :
    ∃ first parts, gs = rowGlyphs first parts ∧ isBar first = true ∧
      Parts source texts parts := by
  obtain ⟨first, t, rfl, hchar, ht⟩ := h.cons (by decide)
  have hparts : ∀ (texts : List (List Char)) (t : List Glyph),
      Spells source (texts.flatMap (· ++ ['|'])) t →
      ∃ parts, t = parts.flatMap (fun part => part.1 ++ [part.2]) ∧ Parts source texts parts := by
    intro texts
    induction texts with
    | nil => exact fun t ht => ⟨[], ht.eq_nil, .nil⟩
    | cons text texts ih =>
      intro t ht
      rw [List.flatMap_cons, List.append_assoc] at ht
      obtain ⟨gs, u, rfl, hgs, hu⟩ := ht.split
      obtain ⟨bar, v, rfl, hbar, hv⟩ := Spells.cons hu (by decide)
      obtain ⟨parts, rfl, hrest⟩ := ih v hv
      exact ⟨(gs, bar) :: parts, by simp, .cons hgs (by simp [isBar, hbar]) hrest⟩
  obtain ⟨parts, rfl, hrest⟩ := hparts texts t ht
  exact ⟨first, parts, rfl, by simp [isBar, hchar], hrest⟩

/-- Texts that end with neither a backslash nor a tab leave their bars to cut. -/
theorem Parts.barred (h : Parts source texts parts)
    (hlast : ∀ text ∈ texts, ∀ c, text.getLast? = some c → c ≠ '\\' ∧ c ≠ '\t') :
    Barred parts := by
  intro part hpart
  obtain ⟨text, htext, hspells, hbar⟩ := h.exists_text hpart
  refine ⟨hbar, fun s hs => ?_⟩
  cases hend : text.getLast? with
  | none =>
    rw [List.getLast?_eq_none_iff.mp hend] at hspells
    rw [hspells.eq_nil] at hs
    cases hs
  | some c =>
    obtain ⟨hslash, htab⟩ := hlast text htext c hend
    obtain ⟨front, rfl⟩ := List.getLast?_eq_some_iff.mp hend
    obtain ⟨before, after, -, hfrom⟩ := hspells
    obtain ⟨t, g, hgs, hchar, -⟩ := hfrom.concat htab
    rw [hgs, List.getLast?_concat] at hs
    rw [← Option.some.inj hs, hchar]
    exact hslash

/-- A text without bars is cut by none. -/
theorem uncut_of_noBar {text : List Char} (h : Spells source text gs) (hbar : '|' ∉ text) :
    Uncut gs := by
  unfold Uncut
  rw [barPieces_of_noBar]
  · rfl
  · intro g hg
    refine beq_false_of_ne fun hchar => ?_
    rcases h.char_mem hg with hmem | hspace
    · exact hbar (hchar ▸ hmem)
    · rw [hspace] at hchar
      exact absurd hchar (by decide)

/-! ### Heads and delimiters -/

theorem char_of_isBar (hfirst : isBar first = true) : first.char = '|' := by
  simpa [isBar] using hfirst

theorem indent_of_bar (hfirst : isBar first = true) (r : List Glyph) : indent (first :: r) = 0 := by
  simp [indent, Glyph.isSpace, char_of_isBar hfirst]

theorem skipSpaces_of_bar (hfirst : isBar first = true) (r : List Glyph) :
    skipSpaces (first :: r) = first :: r := by
  simp [skipSpaces, Glyph.isSpace, char_of_isBar hfirst]

theorem unindented?_of_bar (hfirst : isBar first = true) (r : List Glyph) :
    unindented? (first :: r) = some (first :: r) := by
  unfold unindented?
  rw [indent_of_bar hfirst r, skipSpaces_of_bar hfirst r, if_pos (by decide)]

/-- A row whose texts are dashes and colons delimits as many columns. -/
theorem delimiterCount?_rowGlyphs (hfirst : isBar first = true) (h : Parts source texts parts)
    (hne : parts ≠ []) (hdelimiter : ∀ text ∈ texts, isDelimiter text = true)
    (hchars : ∀ text ∈ texts, ∀ c ∈ text, c = '-' ∨ c = ':') :
    delimiterCount? (rowGlyphs first parts) = some parts.length := by
  have hnot : ∀ {c : Char}, c = '-' ∨ c = ':' → c ≠ '|' ∧ c ≠ '\\' ∧ c ≠ '\t' ∧ c ≠ ' ' := by
    rintro c (rfl | rfl) <;> decide
  have hbarred : Barred parts := h.barred fun text ht c hc =>
    have hc' := hnot (hchars text ht c (List.mem_of_getLast? hc))
    ⟨hc'.2.1, hc'.2.2.1⟩
  have huncut : ∀ part ∈ parts, Uncut part.1 := by
    intro part hpart
    obtain ⟨text, ht, hspells, -⟩ := h.exists_text hpart
    exact uncut_of_noBar hspells fun hmem => (hnot (hchars text ht _ hmem)).1 rfl
  have hcells : ∀ part ∈ parts, isDelimiter ((stripSpaces part.1).map (·.char)) = true := by
    intro part hpart
    obtain ⟨text, ht, hspells, -⟩ := h.exists_text hpart
    have htab : '\t' ∉ text := fun hmem => (hnot (hchars text ht _ hmem)).2.2.1 rfl
    have hspace : ∀ g ∈ part.1, g.isSpace = false := by
      intro g hg
      obtain ⟨-, -, htab, hspace⟩ := hnot (hchars text ht _ (hspells.char_mem_of_noTab htab hg))
      simp [Glyph.isSpace, htab, hspace]
    have hstrip := stripSpaces_append [] part.1 []
      (fun _ hg => by cases hg) (fun _ hg => by cases hg)
      (fun g hg => hspace g (List.mem_of_mem_head? hg))
      (fun g hg => hspace g (List.mem_of_getLast? hg))
    rw [List.nil_append, List.append_nil] at hstrip
    rw [hstrip, hspells.map_char htab]
    exact hdelimiter text ht
  have hlength := (length_rowCells_iff hfirst hbarred hne).mpr huncut
  have hall : (rowCells (rowGlyphs first parts)).all
      (fun c => isDelimiter (c.text.map (·.char))) = true := by
    have htexts := texts_of_uncut hfirst hbarred huncut hne
    rw [List.all_eq_true]
    intro c hc
    have hmem : c.text ∈ parts.map fun part => stripSpaces part.1 := by
      rw [← htexts]
      exact List.mem_map_of_mem hc
    obtain ⟨part, hpart, heq⟩ := List.mem_map.mp hmem
    rw [← heq]
    exact hcells part hpart
  have hany : (rowGlyphs first parts).any (fun g => g.char == '|' || g.char == ':') = true := by
    have hchar : (first.char == '|') = true := hfirst
    rw [rowGlyphs, List.any_cons, hchar]
    rfl
  have hunindented : unindented? (rowGlyphs first parts) = some (rowGlyphs first parts) :=
    unindented?_of_bar hfirst _
  unfold delimiterCount?
  simp only [hunindented, hany, hall, hlength, Option.bind_some, Bool.and_self, if_true]

/-- A row whose texts no bar cuts may be the head of a table with as many columns. -/
theorem isHeadOf_rowGlyphs (hfirst : isBar first = true) (h : Barred parts) (hne : parts ≠ [])
    (huncut : ∀ part ∈ parts, Uncut part.1) :
    isHeadOf parts.length (rowGlyphs first parts) = true := by
  have hunindented : unindented? (rowGlyphs first parts) = some (rowGlyphs first parts) :=
    unindented?_of_bar hfirst _
  have hlength := (length_rowCells_iff hfirst h hne).mpr huncut
  have hspace : ∀ {b : Glyph}, isBar b = true → (!b.isSpace) = true := by
    intro b hb
    simp [Glyph.isSpace, char_of_isBar hb]
  -- Two bars are more than the one bar that heads no table.
  have hmore : ((rowGlyphs first parts).filter (! ·.isSpace)).map (·.char) ≠ ['|'] := by
    obtain ⟨part, rest, rfl⟩ : ∃ part rest, parts = part :: rest := by
      cases parts with
      | nil => exact absurd rfl hne
      | cons part rest => exact ⟨part, rest, rfl⟩
    have hpart := (h part List.mem_cons_self).1
    intro heq
    have hlen := congrArg List.length heq
    rw [rowGlyphs, List.flatMap_cons,
      List.filter_cons_of_pos (p := fun g : Glyph => !g.isSpace) (hspace hfirst),
      List.filter_append, List.filter_append,
      List.filter_cons_of_pos (p := fun g : Glyph => !g.isSpace) (hspace hpart)] at hlen
    simp at hlen
  unfold isHeadOf
  simp only [hunindented, hlength, beq_self_eq_true, Bool.and_true]
  exact bne_iff_ne.mpr hmore

end SopDocs.Markdown
