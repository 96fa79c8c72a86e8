import SopDocs.Markdown.Source
import SopDocs.Proofs.Text.Slice

/-!
# Glyphs spell the lines of their source

The glyphs of a line stand for its characters, one after the other, and keep where
each starts and stops in the source. So the part of the source from the start of one
glyph to the end of another is the text that the glyphs between them spell.
-/

namespace SopDocs.Markdown

open SopDocs.Text (byteLength)

/-- Glyphs that spell a text from a byte offset on. A tab comes with the spaces that fill it. -/
inductive SpellsFrom : Nat → List Char → List Glyph → Prop where
  | nil {start : Nat} : SpellsFrom start [] []
  | char {start : Nat} {r : List Char} {gs : List Glyph} (g : Glyph) (htab : g.char ≠ '\t')
      (hstart : g.start = start) (hstop : g.stop = start + g.char.utf8Size)
      (hrest : SpellsFrom (start + g.char.utf8Size) r gs) :
      SpellsFrom start (g.char :: r) (g :: gs)
  | tab {start : Nat} {r : List Char} {gs : List Glyph} (columns : Nat) (before after : Char)
      (hrest : SpellsFrom (start + 1) r gs) :
      SpellsFrom start ('\t' :: r) (tabGlyphs start columns before after ++ gs)

namespace SpellsFrom

variable {start : Nat} {a b cs : List Char} {gs : List Glyph}

theorem split (h : SpellsFrom start (a ++ b) gs) :
    ∃ ga gb, gs = ga ++ gb ∧ SpellsFrom start a ga ∧ SpellsFrom (start + byteLength a) b gb := by
  induction a generalizing start gs with
  | nil => exact ⟨[], gs, rfl, .nil, h⟩
  | cons c a ih =>
    cases h with
    | char g htab hstart hstop hrest =>
      obtain ⟨ga, gb, rfl, ha, hb⟩ := ih hrest
      refine ⟨g :: ga, gb, rfl, .char g htab hstart hstop ha, ?_⟩
      rw [Text.byteLength_cons, ← Nat.add_assoc]
      exact hb
    | tab columns before after hrest =>
      obtain ⟨ga, gb, rfl, ha, hb⟩ := ih hrest
      refine ⟨_ ++ ga, gb, (List.append_assoc ..).symm, .tab columns before after ha, ?_⟩
      rw [Text.byteLength_cons, ← Nat.add_assoc]
      exact hb

theorem map_char (h : SpellsFrom start cs gs) (htab : '\t' ∉ cs) : gs.map (·.char) = cs := by
  induction h with
  | nil => rfl
  | char g _ _ _ _ ih =>
    rw [List.map_cons, ih (fun h => htab (List.mem_cons_of_mem _ h))]
  | tab => exact absurd List.mem_cons_self htab

theorem char_fillings {n : Nat} {before after : Char} :
    ∀ g ∈ fillings start before after n, g.char = ' ' := by
  intro g hg
  induction n using fillings.induct with
  | case1 => cases hg
  | case2 => rw [List.mem_singleton.mp hg]
  | case3 n ih =>
    rcases List.mem_cons.mp hg with rfl | hg
    · rfl
    · exact ih hg

/-- Every glyph but those that fill a tab is a character of the text. -/
theorem char_mem (h : SpellsFrom start cs gs) {g : Glyph} (hg : g ∈ gs) :
    g.char ∈ cs ∨ g.char = ' ' := by
  induction h with
  | nil => cases hg
  | char g' _ _ _ _ ih =>
    rcases List.mem_cons.mp hg with rfl | hg
    · exact Or.inl List.mem_cons_self
    · exact (ih hg).imp_left (List.mem_cons_of_mem _)
  | tab columns before after _ ih =>
    rcases List.mem_append.mp hg with hg | hg
    · rcases List.mem_cons.mp hg with rfl | hg
      · exact Or.inl List.mem_cons_self
      · exact Or.inr (char_fillings g hg)
    · exact (ih hg).imp_left (List.mem_cons_of_mem _)

theorem cons {c : Char} {r : List Char} (h : SpellsFrom start (c :: r) gs) (htab : c ≠ '\t') :
    ∃ g t, gs = g :: t ∧ g.char = c ∧ g.start = start ∧ g.stop = start + c.utf8Size ∧
      SpellsFrom (start + c.utf8Size) r t := by
  cases h with
  | char g _ hstart hstop hrest => exact ⟨g, _, rfl, rfl, hstart, hstop, hrest⟩
  | tab => exact absurd rfl htab

theorem eq_nil (h : SpellsFrom start [] gs) : gs = [] := by
  cases h
  rfl

theorem concat {c : Char} {r : List Char} (h : SpellsFrom start (r ++ [c]) gs) (htab : c ≠ '\t') :
    ∃ t g, gs = t ++ [g] ∧ g.char = c ∧ g.stop = start + byteLength (r ++ [c]) := by
  obtain ⟨t, gb, rfl, -, hb⟩ := split h
  obtain ⟨g, u, rfl, hchar, -, hstop, hu⟩ := cons hb htab
  rw [eq_nil hu]
  refine ⟨t, g, rfl, hchar, ?_⟩
  rw [hstop, Text.byteLength_append, Text.byteLength_cons, Text.byteLength_nil]
  omega

end SpellsFrom

/-- Glyphs that spell a part of a source, where it stands. -/
def Spells (source part : List Char) (gs : List Glyph) : Prop :=
  ∃ before after, source = before ++ (part ++ after) ∧ SpellsFrom (byteLength before) part gs

namespace Spells

variable {source a b part : List Char} {gs : List Glyph}

theorem split (h : Spells source (a ++ b) gs) :
    ∃ ga gb, gs = ga ++ gb ∧ Spells source a ga ∧ Spells source b gb := by
  obtain ⟨before, after, hsource, hgs⟩ := h
  obtain ⟨ga, gb, rfl, ha, hb⟩ := hgs.split
  refine ⟨ga, gb, rfl, ⟨before, b ++ after, ?_, ha⟩, ⟨before ++ a, after, ?_, ?_⟩⟩
  · rw [hsource, List.append_assoc]
  · rw [hsource, List.append_assoc, List.append_assoc]
  · rw [Text.byteLength_append]
    exact hb

theorem map_char (h : Spells source part gs) (htab : '\t' ∉ part) : gs.map (·.char) = part := by
  obtain ⟨before, after, -, hgs⟩ := h
  exact hgs.map_char htab

theorem char_mem (h : Spells source part gs) {g : Glyph} (hg : g ∈ gs) :
    g.char ∈ part ∨ g.char = ' ' := by
  obtain ⟨before, after, -, hgs⟩ := h
  exact hgs.char_mem hg

theorem char_mem_of_noTab (h : Spells source part gs) (htab : '\t' ∉ part) {g : Glyph}
    (hg : g ∈ gs) : g.char ∈ part := by
  rw [← h.map_char htab]
  exact List.mem_map_of_mem hg

theorem cons {c : Char} {r : List Char} (h : Spells source (c :: r) gs) (htab : c ≠ '\t') :
    ∃ g t, gs = g :: t ∧ g.char = c ∧ Spells source r t := by
  obtain ⟨before, after, hsource, hgs⟩ := h
  obtain ⟨g, t, rfl, hchar, -, -, ht⟩ := hgs.cons htab
  refine ⟨g, t, rfl, hchar, ⟨before ++ [c], after, ?_, ?_⟩⟩
  · rw [hsource, List.append_assoc]
    rfl
  · rw [Text.byteLength_append]
    exact ht

theorem head_char {c : Char} {r : List Char} (h : Spells source (c :: r) gs) :
    ∃ g t, gs = g :: t ∧ g.char = c := by
  obtain ⟨before, after, -, hgs⟩ := h
  cases hgs with
  | char g _ _ _ _ => exact ⟨g, _, rfl, rfl⟩
  | tab columns before after _ => exact ⟨_, _, rfl, rfl⟩

theorem eq_nil (h : Spells source [] gs) : gs = [] := by
  obtain ⟨before, after, -, hgs⟩ := h
  exact hgs.eq_nil

/-- The source from the start of the first glyph to the end of the last one is the text that they
spell, if that neither starts nor ends with a tab. -/
theorem slice {first last : Char} (h : Spells source part gs) (hfirst : part.head? = some first)
    (hlast : part.getLast? = some last) (hft : first ≠ '\t') (hlt : last ≠ '\t') :
    ∃ f l, gs.head? = some f ∧ gs.getLast? = some l ∧ f.char = first ∧ l.char = last ∧
      Text.byteSlice? source f.start l.stop = some part := by
  obtain ⟨before, after, hsource, hgs⟩ := h
  obtain ⟨r, rfl⟩ : ∃ r, part = first :: r := by
    cases part with
    | nil => cases hfirst
    | cons c r => exact ⟨r, by rw [List.head?_cons] at hfirst; rw [Option.some.inj hfirst]⟩
  obtain ⟨f, t, hf, hfchar, hstart, -, -⟩ := hgs.cons hft
  obtain ⟨s, hs⟩ := List.getLast?_eq_some_iff.mp hlast
  rw [hs] at hgs
  obtain ⟨u, l, hl, hlchar, hstop⟩ := hgs.concat hlt
  refine ⟨f, l, by rw [hf]; rfl, by rw [hl]; simp, hfchar, hlchar, ?_⟩
  rw [hstart, hstop, hsource, ← hs]
  exact Text.byteSlice?_append before (first :: r) after

end Spells

/-! ### Lines -/

/-- Whether a text is all on one line. -/
def OneLine (cs : List Char) : Prop := ∀ c ∈ cs, c ≠ '\n' ∧ c ≠ '\r'

-- Over the characters of the text, not over all characters there are.
instance (cs : List Char) : Decidable (OneLine cs) :=
  List.decidableBAll (fun c => c ≠ '\n' ∧ c ≠ '\r') cs

theorem linesFrom_oneLine {cs : List Char} (h : OneLine cs) (offset column : Nat) (before : Char)
    (done : List Glyph) (r : List Char) :
    ∃ gs, SpellsFrom offset cs gs ∧
      linesFrom offset column before done (cs ++ '\n' :: r) =
        ⟨done.reverse ++ gs, offset + byteLength cs, ['\n']⟩ ::
          linesFrom (offset + byteLength cs + 1) 0 '\n' [] r := by
  induction cs generalizing offset column before done with
  | nil =>
    refine ⟨[], .nil, ?_⟩
    rw [List.nil_append, linesFrom]
    · simp
    · simp
  | cons c cs ih =>
    obtain ⟨hnl, hcr⟩ := h c List.mem_cons_self
    have hcs : OneLine cs := fun d hd => h d (List.mem_cons_of_mem _ hd)
    rw [List.cons_append, linesFrom]
    · by_cases htab : c = '\t'
      · subst htab
        let after := nextChar (cs ++ '\n' :: r)
        obtain ⟨gs, hspells, hlines⟩ := ih hcs (offset + 1) (column + tabColumns column) '\t'
          ((tabGlyphs offset (tabColumns column) before after).reverse ++ done)
        refine ⟨_, .tab (tabColumns column) before after hspells, ?_⟩
        simp only [after] at hlines ⊢
        simp only [hlines]
        simp [show ('\t' : Char).utf8Size = 1 from rfl, Nat.add_assoc]
      · let after := nextChar (cs ++ '\n' :: r)
        let g : Glyph := ⟨c, offset, offset + c.utf8Size, before, after, .plain⟩
        obtain ⟨gs, hspells, hlines⟩ := ih hcs (offset + c.utf8Size) (column + c.utf8Size) c
          (g :: done)
        refine ⟨g :: gs, .char g htab rfl rfl hspells, ?_⟩
        rw [if_neg (by simp [hnl, hcr]), if_neg htab]
        simp only [g, after] at hlines ⊢
        simp only [hlines]
        simp [Nat.add_assoc]
    · intro s hc
      exact absurd hc hcr

/-- Lines with the texts that they spell; each ends with a line feed. -/
inductive Lines (source : List Char) : List (List Char) → List Line → Prop where
  | nil : Lines source [] []
  | cons {text : List Char} {texts : List (List Char)} {line : Line} {lines : List Line}
      (hline : Spells source text line.glyphs) (hending : line.ending = ['\n'])
      (hrest : Lines source texts lines) : Lines source (text :: texts) (line :: lines)

namespace Lines

variable {source text : List Char} {texts : List (List Char)} {lines : List Line}

theorem exists_cons (h : Lines source (text :: texts) lines) :
    ∃ line r, lines = line :: r ∧ Spells source text line.glyphs ∧ Lines source texts r := by
  cases h with
  | @cons _ _ line r hline _ hrest => exact ⟨line, r, rfl, hline, hrest⟩

theorem length_eq (h : Lines source texts lines) : lines.length = texts.length := by
  induction h with
  | nil => rfl
  | cons _ _ _ ih => rw [List.length_cons, List.length_cons, ih]

theorem exists_text (h : Lines source texts lines) {line : Line} (hline : line ∈ lines) :
    ∃ text ∈ texts, Spells source text line.glyphs := by
  induction h with
  | nil => cases hline
  | @cons text _ _ _ hspells _ _ ih =>
    rcases List.mem_cons.mp hline with rfl | hline
    · exact ⟨text, List.mem_cons_self, hspells⟩
    · obtain ⟨t, ht, hspells⟩ := ih hline
      exact ⟨t, List.mem_cons_of_mem _ ht, hspells⟩

end Lines

theorem linesFrom_texts {texts : List (List Char)} (h : ∀ t ∈ texts, OneLine t)
    (before : List Char) :
    ∃ lines stop, linesFrom (byteLength before) 0 '\n' [] (texts.flatMap (· ++ ['\n'])) =
        lines ++ [⟨[], stop, []⟩] ∧
      Lines (before ++ texts.flatMap (· ++ ['\n'])) texts lines := by
  induction texts generalizing before with
  | nil => exact ⟨[], byteLength before, rfl, .nil⟩
  | cons t texts ih =>
    obtain ⟨gs, hspells, hlines⟩ := linesFrom_oneLine (h t List.mem_cons_self) (byteLength before) 0
      '\n' [] (texts.flatMap (· ++ ['\n']))
    obtain ⟨lines, stop, hrest, htexts⟩ :=
      ih (fun u hu => h u (List.mem_cons_of_mem _ hu)) (before ++ (t ++ ['\n']))
    have hsource : before ++ (t :: texts).flatMap (· ++ ['\n']) =
        before ++ (t ++ ['\n']) ++ texts.flatMap (· ++ ['\n']) := by simp
    have hoffset : byteLength (before ++ (t ++ ['\n'])) = byteLength before + byteLength t + 1 := by
      simp only [Text.byteLength_append, Text.byteLength_cons, Text.byteLength_nil,
        show ('\n' : Char).utf8Size = 1 from rfl]
      omega
    refine ⟨⟨gs, byteLength before + byteLength t, ['\n']⟩ :: lines, stop, ?_, ?_⟩
    · rw [List.flatMap_cons, List.append_assoc]
      rw [show ['\n'] ++ texts.flatMap (· ++ ['\n']) = '\n' :: texts.flatMap (· ++ ['\n']) from rfl,
        hlines, ← hoffset, hrest]
      rfl
    · rw [hsource]
      refine .cons ⟨before, '\n' :: texts.flatMap (· ++ ['\n']), by simp, hspells⟩ rfl htexts

/-- The lines of a source of texts, each followed by a line feed, spell these texts. -/
theorem sourceLines_texts {texts : List (List Char)} (h : ∀ t ∈ texts, OneLine t)
    (hmark : ∀ r, texts.flatMap (· ++ ['\n']) ≠ '\ufeff' :: r) :
    Lines (texts.flatMap (· ++ ['\n'])) texts (sourceLines (texts.flatMap (· ++ ['\n']))) := by
  obtain ⟨lines, stop, hlines, htexts⟩ := linesFrom_texts h []
  have hkept : ∀ {ts ls}, Lines (texts.flatMap (· ++ ['\n'])) ts ls →
      ls.filter (fun l => !(l.glyphs.isEmpty && l.ending.isEmpty)) = ls := by
    intro ts ls hls
    induction hls with
    | nil => rfl
    | cons _ hending _ ih => rw [List.filter_cons_of_pos (by simp [hending]), ih]
  have hsource : sourceLines (texts.flatMap (· ++ ['\n'])) = lines := by
    -- Without a byte order mark the lines start at the first byte.
    unfold sourceLines
    simp only
    rw [Text.byteLength_nil] at hlines
    rw [hlines, List.filter_append, hkept htexts]
    simp
  rw [hsource]
  exact htexts

/-! ### One line without tabs -/

/-- Glyphs that stand for their own characters and follow each other in a source, the first one
after the character `b`. -/
inductive Follows : Char → List Glyph → Prop where
  | nil {b : Char} : Follows b []
  | cons {b : Char} {r : List Glyph} (g : Glyph) (hbefore : g.before = b) (hplain : g.form = .plain)
      (hrest : Follows g.char r) : Follows b (g :: r)

namespace Follows

variable {b : Char} {gs hs : List Glyph}

theorem right (h : Follows b (gs ++ hs)) : Follows ((gs.getLast?.map (·.char)).getD b) hs := by
  induction gs generalizing b with
  | nil => exact h
  | cons g r ih =>
    cases h with
    | cons _ _ _ hrest =>
      have hr := ih hrest
      rw [Option.getD_map] at hr
      rw [List.getLast?_cons, Option.map_some, Option.getD_some]
      exact hr

theorem left (h : Follows b (gs ++ hs)) : Follows b gs := by
  induction gs generalizing b with
  | nil => exact .nil
  | cons g r ih =>
    cases h with
    | cons _ hbefore hplain hrest => exact .cons g hbefore hplain (ih hrest)

theorem plain (h : Follows b gs) : ∀ g ∈ gs, g.form = .plain := by
  induction h with
  | nil => exact fun _ hg => nomatch hg
  | cons g _ hplain _ ih => exact List.forall_mem_cons.mpr ⟨hplain, ih⟩

end Follows

/-- A text that is on one line and has no tabs. -/
def Tabless (cs : List Char) : Prop := OneLine cs ∧ '\t' ∉ cs

theorem linesFrom_tabless {cs : List Char} (h : Tabless cs) (offset column : Nat) (b : Char)
    (done : List Glyph) :
    ∃ gs stop, gs.map (·.char) = cs ∧ Follows b gs ∧
      linesFrom offset column b done cs = [⟨done.reverse ++ gs, stop, []⟩] := by
  induction cs generalizing offset column b done with
  | nil => exact ⟨[], offset, rfl, .nil, by rw [linesFrom, List.append_nil]⟩
  | cons c cs ih =>
    obtain ⟨hline, htab⟩ := h
    obtain ⟨hnl, hcr⟩ := hline c List.mem_cons_self
    have hc : c ≠ '\t' := fun h => htab (h ▸ List.mem_cons_self)
    have hcs : Tabless cs :=
      ⟨fun d hd => hline d (List.mem_cons_of_mem _ hd), fun h => htab (List.mem_cons_of_mem _ h)⟩
    let g : Glyph := ⟨c, offset, offset + c.utf8Size, b, nextChar cs, .plain⟩
    obtain ⟨gs, stop, hchars, hgs, hlines⟩ :=
      ih hcs (offset + c.utf8Size) (column + c.utf8Size) c (g :: done)
    refine ⟨g :: gs, stop, by rw [List.map_cons, hchars], .cons g rfl rfl hgs, ?_⟩
    rw [linesFrom, if_neg (by simp [hnl, hcr]), if_neg hc]
    · simp only [g] at hlines ⊢
      simp [hlines]
    · intro s hchar
      exact absurd hchar hcr

/-- A source that is one line without tabs. -/
theorem sourceLines_tabless {c : Char} {cs : List Char} (h : Tabless (c :: cs)) (hmark : c ≠ '\ufeff') :
    ∃ gs stop, sourceLines (c :: cs) = [⟨gs, stop, []⟩] ∧ gs.map (·.char) = c :: cs ∧
      Follows '\n' gs := by
  obtain ⟨gs, stop, hchars, hgs, hlines⟩ := linesFrom_tabless h 0 0 '\n' []
  refine ⟨gs, stop, ?_, hchars, hgs⟩
  have hne : gs ≠ [] := by
    rintro rfl
    cases hchars
  unfold sourceLines
  split
  · next r heq => exact absurd (List.cons.inj heq).1 hmark
  · simp [hlines, hne]

end SopDocs.Markdown
