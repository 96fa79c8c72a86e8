import SopDocs.Markdown.Target
import SopDocs.Proofs.Markdown.Escape
import SopDocs.Proofs.Markdown.Reading

/-!
# Destinations that are read as they are written

The destination of a link ends at a blank or at a closing parenthesis that it has not opened
itself, and what is read up to there is resolved. So a text that is put between the parentheses of
a link is the target of that link exactly if it has no blank, its parentheses nest, and neither an
escape nor a character reference is in it.
-/

namespace SopDocs.Markdown

/-! ### Nesting -/

/-- Parentheses nest, `depth` of them being open at the start: none is closed that is not open, not
more than `limit` are open at a time, and none is open at the end. -/
structure Nested (limit depth : Nat) (cs : List Char) : Prop where
  closes : ∀ p, p <+: cs → p.count ')' ≤ depth + p.count '('
  opens : ∀ p, p <+: cs → depth + p.count '(' ≤ p.count ')' + limit
  ends : depth + cs.count '(' = cs.count ')'

section Nested

variable {limit depth : Nat} {c : Char} {r : List Char}

theorem nested_nil (hdepth : depth ≤ limit) : Nested limit depth [] ↔ depth = 0 := by
  constructor
  · exact fun h => h.ends
  · rintro rfl
    refine ⟨fun p hp => ?_, fun p hp => ?_, rfl⟩ <;> rw [List.prefix_nil.mp hp] <;> simp

/-- A character before a text shifts the depth of the text. -/
theorem nested_cons (next : Nat) (hdepth : depth ≤ limit)
    (hnext : depth + [c].count '(' = next + [c].count ')') :
    Nested limit depth (c :: r) ↔ next ≤ limit ∧ Nested limit next r := by
  have hopens : ∀ p, (c :: p).count '(' = p.count '(' + [c].count '(' := fun p => by
    rw [List.count_cons, List.count_singleton]
  have hcloses : ∀ p, (c :: p).count ')' = p.count ')' + [c].count ')' := fun p => by
    rw [List.count_cons, List.count_singleton]
  constructor
  · intro h
    have hlonger : ∀ p, p <+: r → c :: p <+: c :: r := fun p hp =>
      List.cons_prefix_cons.mpr ⟨rfl, hp⟩
    have hends := h.ends
    rw [hopens r, hcloses r] at hends
    refine ⟨?_, fun p hp => ?_, fun p hp => ?_, by omega⟩
    · have := h.opens [c] (hlonger [] List.nil_prefix)
      omega
    · have := h.closes _ (hlonger p hp)
      rw [hopens p, hcloses p] at this
      omega
    · have := h.opens _ (hlonger p hp)
      rw [hopens p, hcloses p] at this
      omega
  · rintro ⟨hlimit, h⟩
    have hends := h.ends
    refine ⟨fun p hp => ?_, fun p hp => ?_, ?_⟩
    · rcases List.prefix_cons_iff.mp hp with rfl | ⟨t, rfl, ht⟩
      · simp
      · have := h.closes t ht
        rw [hopens t, hcloses t]
        omega
    · rcases List.prefix_cons_iff.mp hp with rfl | ⟨t, rfl, ht⟩
      · simpa using hdepth
      · have := h.opens t ht
        rw [hopens t, hcloses t]
        omega
    · rw [hopens r, hcloses r]
      omega

/-- No text closes a parenthesis where none is open. -/
theorem not_nested_close : ¬ Nested limit 0 (')' :: r) := by
  intro h
  have := h.closes [')'] (List.cons_prefix_cons.mpr ⟨rfl, List.nil_prefix⟩)
  simp at this

end Nested

/-- A text that is the target of a link if it is written as its destination. -/
structure OwnDestination (cs : List Char) : Prop where
  unbroken : ∀ c ∈ cs, c ≠ ' ' ∧ isControl c = false
  bare : cs.head? ≠ some '<'
  nested : Nested resourceDepth 0 cs
  escapes : EscapeFree (cs ++ [')'])
  references : ReferenceFree cs

/-- Characters that a destination may not hold, or that mean something in it. -/
def isDestinationMark (c : Char) : Bool := isControl c || " ()<\\&".toList.contains c

/-- A text without blanks and without any mark of a destination is its own destination. -/
theorem ownDestination_of_unmarked {cs : List Char} (h : cs.any isDestinationMark = false) :
    OwnDestination cs := by
  rw [List.any_eq_false] at h
  have hne : ∀ {d : Char}, isDestinationMark d = true → d ∉ cs := fun hd hmem => h _ hmem hd
  have hcount : ∀ p, p <+: cs → p.count '(' = 0 ∧ p.count ')' = 0 := fun p hp =>
    ⟨List.count_eq_zero.mpr fun hmem => hne (by decide) (hp.subset hmem),
      List.count_eq_zero.mpr fun hmem => hne (by decide) (hp.subset hmem)⟩
  refine ⟨?_, ?_, ⟨?_, ?_, ?_⟩, escapeFree_of_not_mem ?_, referenceFree_of_not_mem (hne (by decide))⟩
  · intro c hc
    refine ⟨fun hspace => hne (by decide) (hspace ▸ hc), ?_⟩
    have hmark := h c hc
    rw [isDestinationMark, Bool.or_eq_true, not_or, Bool.not_eq_true] at hmark
    exact hmark.1
  · exact fun hhead => hne (by decide) (List.mem_of_head? hhead)
  · intro p hp
    rw [(hcount p hp).1, (hcount p hp).2]
  · intro p hp
    rw [(hcount p hp).1, (hcount p hp).2]
    exact Nat.zero_le _
  · rw [(hcount cs List.prefix_rfl).1, (hcount cs List.prefix_rfl).2]
  · simpa using hne (d := '\\') (by decide)

/-! ### Reading a destination -/

section Bare

variable {limit depth : Nat} {gs rest : List Glyph}

/-- A reader that keeps a glyph and goes on reads up to the end exactly if it does so from the next
glyph on. -/
theorem map_cons_eq_some {g : Glyph} {read : Option (List Glyph × List Glyph)} :
    read.map (fun p => (g :: p.1, p.2)) = some (g :: gs, rest) ↔ read = some (gs, rest) := by
  cases read with
  | none => simp
  | some p => simp [Prod.ext_iff]

theorem isBlank_of_unbroken {g : Glyph} (hspace : g.char ≠ ' ')
    (hcontrol : isControl g.char = false) : g.isBlank = false := by
  have htab : g.char ≠ '\t' := by
    intro h
    rw [h] at hcontrol
    cases hcontrol
  have hend : g.char ≠ '\n' := by
    intro h
    rw [h] at hcontrol
    cases hcontrol
  simp [Glyph.isBlank, Glyph.isSpace, Glyph.isEnd, hspace, htab, hend]

/-- A bare destination is read up to a closing parenthesis that is not its own exactly if it has no
blanks, its parentheses nest and it does not escape that parenthesis. `b` is the character before
it. -/
theorem bare?_eq_some_iff {q : Glyph} (hq : q.char = ')') {b : Char} (hdepth : depth ≤ limit)
    (hescapes : EscapeFree (b :: gs.map (·.char))) :
    bare? limit depth (b == '\\') (gs ++ [q]) = some (gs, [q]) ↔
      (∀ g ∈ gs, g.char ≠ ' ' ∧ isControl g.char = false) ∧
        Nested limit depth (gs.map (·.char)) ∧
        (b :: gs.map (·.char)).getLast? ≠ some '\\' := by
  induction gs generalizing depth b with
  | nil =>
    rw [List.nil_append, bare?, List.map_nil, nested_nil hdepth]
    by_cases hb : b = '\\'
    · simp [hb, hq]
    · by_cases hzero : depth = 0
      · simp [hb, hq, hzero]
      · simp [hb, hq, hzero, isControl]
  | cons g r ih =>
    rw [List.map_cons] at hescapes ⊢
    obtain ⟨hb, hrest⟩ := escapeFree_cons.mp hescapes
    -- an escape before this character would be one of punctuation
    have hplain :
        (b == '\\' && (g.char == '(' || g.char == ')' || g.char == '\\')) = false := by
      rw [Bool.eq_false_iff, Ne, Bool.and_eq_true, beq_iff_eq]
      rintro ⟨hslash, hchar⟩
      have hnot := hb hslash g.char rfl
      simp only [Bool.or_eq_true, beq_iff_eq] at hchar
      rcases hchar with (h | h) | h <;> rw [h] at hnot <;> cases hnot
    have hnext : ∀ (next : Nat), depth + [g.char].count '(' = next + [g.char].count ')' →
        next ≤ limit → isControl g.char = false → g.char ≠ ' ' →
        ((bare? limit next (g.char == '\\') (r ++ [q])).map (fun p => (g :: p.1, p.2)) =
            some (g :: r, [q]) ↔
          (∀ h ∈ g :: r, h.char ≠ ' ' ∧ isControl h.char = false) ∧
            Nested limit depth (g.char :: r.map (·.char)) ∧
            (g.char :: r.map (·.char)).getLast? ≠ some '\\') := by
      intro next hcount hlimit hcontrol hspace
      rw [map_cons_eq_some, ih hlimit hrest, nested_cons next hdepth hcount, List.forall_mem_cons]
      simp only [hlimit, hcontrol, ne_eq, hspace, not_false_eq_true, true_and]
    rw [List.getLast?_cons_cons, List.cons_append, bare?]
    simp only [hplain, Bool.false_eq_true, if_false]
    by_cases hclose : g.char = ')'
    · cases depth with
      | zero => simp [hclose, not_nested_close]
      | succ depth =>
        have hstep := hnext depth (by simp [hclose]) (by omega) (by rw [hclose]; rfl)
          (by rw [hclose]; decide)
        rw [if_neg (by simp), if_neg (by simp [hclose]), if_neg (by simp [hclose, isControl]),
          if_pos (by simp [hclose]), Nat.add_sub_cancel, ← hstep, hclose]
        rfl
    · by_cases hopen : g.char = '('
      · rw [if_neg (by simp [hopen, Glyph.isBlank, Glyph.isSpace, Glyph.isEnd])]
        by_cases hdeeper : depth < limit
        · have hstep := hnext (depth + 1) (by simp [hopen]) (by omega)
            (by rw [hopen]; rfl) (by rw [hopen]; decide)
          rw [if_pos (by simp [hopen, hdeeper]), ← hstep, hopen]
          rfl
        · rw [if_neg (by simp [hdeeper]), if_pos (by simp [hopen]), hopen,
            nested_cons (depth + 1) hdepth (by simp)]
          simp
          omega
      · by_cases hbroken : g.char ≠ ' ' ∧ isControl g.char = false
        · obtain ⟨hspace, hcontrol⟩ := hbroken
          have hblank := isBlank_of_unbroken hspace hcontrol
          have hstep := hnext depth (by simp [hopen, hclose]) hdepth hcontrol hspace
          rw [if_neg (by simp [hblank, hclose]), if_neg (by simp [hopen]),
            if_neg (by simp [hcontrol, hspace, hopen]), if_neg (by simp [hclose]), ← hstep]
        · have hrefused : ¬ ∀ h ∈ g :: r, h.char ≠ ' ' ∧ isControl h.char = false := fun h =>
            hbroken (h g List.mem_cons_self)
          simp only [hrefused, false_and, iff_false]
          split
          · simp
          · rw [if_neg (by simp [hopen]), if_pos]
            · simp
            · by_cases hspace : g.char = ' '
              · simp [hspace]
              · simp [by simpa [hspace] using hbroken]

end Bare

/-! ### Reading the target of a link -/

section Resource

variable {gs : List Glyph} {q : Glyph}

theorem escapeFree_append_iff {cs : List Char} : EscapeFree (cs ++ [')']) ↔
    EscapeFree ('(' :: cs) ∧ ('(' :: cs).getLast? ≠ some '\\' := by
  induction cs with
  | nil => simp [escapeFree_cons, escapeFree_nil]
  | cons c cs ih =>
    have hmark : isAsciiPunctuation ')' = true := by decide
    have hopening : EscapeFree ('(' :: cs) ↔ EscapeFree cs := by simp [escapeFree_cons]
    have hopening' : EscapeFree ('(' :: c :: cs) ↔ EscapeFree (c :: cs) := by
      simp [escapeFree_cons]
    rw [List.cons_append, escapeFree_cons, ih, hopening, hopening', escapeFree_cons,
      List.getLast?_cons_cons]
    cases cs with
    | nil =>
      by_cases hc : c = '\\'
      · simp [hc, hmark]
      · simp [hc, escapeFree_nil]
    | cons d cs => simp [and_assoc]

theorem skipBlanks_of_not_blank {g : Glyph} {r : List Glyph} (h : g.isBlank = false) :
    skipBlanks (g :: r) = g :: r :=
  List.dropWhile_cons_of_neg (by rw [h]; exact Bool.false_ne_true)

/-- A text that is its own destination is the target of a link around it, without a title. -/
theorem resource?_of_own (hq : q.char = ')') (hne : gs ≠ []) (hplain : ArePlain gs)
    (hown : OwnDestination (gs.map (·.char))) :
    resource? (gs ++ [q]) = some ((String.ofList (gs.map (·.char)), none), []) := by
  have hunbroken : ∀ g ∈ gs, g.char ≠ ' ' ∧ isControl g.char = false := fun g hg =>
    hown.unbroken g.char (List.mem_map_of_mem hg)
  obtain ⟨hescapes, hlast⟩ := escapeFree_append_iff.mp hown.escapes
  have hbare := (bare?_eq_some_iff hq (Nat.zero_le resourceDepth) hescapes).mpr
    ⟨hunbroken, hown.nested, hlast⟩
  have hurl : urlOf gs = String.ofList (gs.map (·.char)) := by
    have hfree : EscapeFree (gs.map (·.char)) := (escapeFree_cons.mp hescapes).2
    rw [urlOf, (unescape_eq_iff hplain).mpr ⟨hfree, hown.references⟩]
  have hqblank : q.isBlank = false := by
    simp [Glyph.isBlank, Glyph.isSpace, Glyph.isEnd, hq]
  obtain ⟨g, r, rfl⟩ := List.exists_cons_of_ne_nil hne
  obtain ⟨hspace, hcontrol⟩ := hunbroken g List.mem_cons_self
  have hclose : g.char ≠ ')' := by
    intro h
    have hnested := hown.nested
    rw [List.map_cons, h] at hnested
    exact not_nested_close hnested
  have hangle : g.char ≠ '<' := fun h => hown.bare (by rw [List.map_cons, h, List.head?_cons])
  have hskip : skipBlanks (g :: r ++ [q]) = g :: r ++ [q] :=
    skipBlanks_of_not_blank (isBlank_of_unbroken hspace hcontrol)
  have hdestination : destination? resourceDepth (g :: r ++ [q]) = some (g :: r, [q]) := by
    rw [List.cons_append, destination?, if_neg (by simp [hangle]),
      if_neg (by simp [hspace, hcontrol, hclose])]
    exact hbare
  unfold resource?
  rw [hskip, show resourceEnd? (g :: r ++ [q]) = none by simp [resourceEnd?, hclose]]
  simp only [hdestination, Option.bind_some, skipBlanks_of_not_blank hqblank]
  simp [hqblank, resourceEnd?, hq, hurl]

/-- The text of a target comes from a part of what stands between the parentheses. -/
theorem exists_destination {target : String × Option String} {rest : List Glyph}
    (h : resource? gs = some (target, rest)) (hne : target.1 ≠ "") :
    ∃ url r, destination? resourceDepth (skipBlanks gs) = some (url, r) ∧ r ≠ [] ∧
      target.1 = urlOf url := by
  unfold resource? at h
  split at h
  · obtain ⟨rfl, -⟩ := Prod.mk.inj (Option.some.inj h)
    exact absurd rfl hne
  · obtain ⟨⟨url, r⟩, hurl, h⟩ := Option.bind_eq_some_iff.mp h
    refine ⟨url, r, hurl, ?_⟩
    simp only at h
    split at h
    · cases h
    · next g t hskip =>
      have hr : r ≠ [] := by
        rintro rfl
        cases hskip
      refine ⟨hr, ?_⟩
      split at h
      · obtain ⟨⟨title, u⟩, -, h⟩ := Option.bind_eq_some_iff.mp h
        obtain ⟨v, -, heq⟩ := Option.map_eq_some_iff.mp h
        rw [← (Prod.mk.inj heq).1]
      · obtain ⟨v, -, heq⟩ := Option.map_eq_some_iff.mp h
        rw [← (Prod.mk.inj heq).1]

/-- A destination is all that is read of a text, or it stands in angle brackets. -/
theorem destination?_append {limit : Nat} {url rest : List Glyph}
    (h : destination? limit gs = some (url, rest)) :
    (gs = url ++ rest ∧ gs.head?.map (·.char) ≠ some '<' ∧
      bare? limit 0 false gs = some (url, rest)) ∨
      ∃ first mark, gs = first :: (url ++ mark :: rest) := by
  unfold destination? at h
  split at h
  · cases h
  · next g r =>
    split at h
    · obtain ⟨mark, hr⟩ := enclosed?_append h
      exact .inr ⟨g, mark, by rw [hr]⟩
    · next hangle =>
      split at h
      · cases h
      · exact .inl ⟨bare?_append h, by simpa using hangle, h⟩

/-- A text that is the target of a link around it is its own destination: any other destination is
shorter. -/
theorem own_of_resource? (hq : q.char = ')') (hplain : ArePlain (gs ++ [q])) (hne : gs ≠ [])
    {title : Option String} {rest : List Glyph}
    (h : resource? (gs ++ [q]) = some ((String.ofList (gs.map (·.char)), title), rest)) :
    OwnDestination (gs.map (·.char)) := by
  have hnonempty : String.ofList (gs.map (·.char)) ≠ "" := by simpa using hne
  obtain ⟨url, r, hdestination, hr, htarget⟩ := exists_destination h hnonempty
  replace htarget : gs.map (·.char) = unescape url := String.ofList_injective htarget
  have hsuffix := skipBlanks_suffix (gs ++ [q])
  have hinput : ArePlain (skipBlanks (gs ++ [q])) := fun g hg => hplain g (hsuffix.subset hg)
  have hlength : ArePlain url → gs.length ≤ url.length := by
    intro hurl
    have hshort := length_unescape_le hurl
    rw [← htarget, List.length_map] at hshort
    exact hshort
  have hlong := hsuffix.length_le
  have hrest := List.length_pos_iff.mpr hr
  rw [List.length_append, List.length_singleton] at hlong
  rcases destination?_append hdestination with ⟨happend, hangle, hbare⟩ | ⟨first, mark, happend⟩
  · rw [happend, arePlain_append] at hinput
    have hurl := hlength hinput.1
    rw [happend, List.length_append] at hlong
    have hwhole : skipBlanks (gs ++ [q]) = gs ++ [q] := by
      refine hsuffix.eq_of_length_le ?_
      rw [happend, List.length_append, List.length_append, List.length_singleton]
      omega
    rw [hwhole] at happend hangle hbare
    obtain ⟨rfl, rfl⟩ := List.append_inj happend (by omega)
    obtain ⟨hescapes, hreferences⟩ := (unescape_eq_iff hinput.1).mp htarget.symm
    have hopening : EscapeFree ('(' :: gs.map (·.char)) := by
      rw [escapeFree_cons]
      exact ⟨fun h => absurd h (by decide), hescapes⟩
    obtain ⟨hunbroken, hnested, hlast⟩ :=
      (bare?_eq_some_iff hq (Nat.zero_le resourceDepth) hopening).mp hbare
    refine ⟨?_, ?_, hnested, escapeFree_append_iff.mpr ⟨hopening, hlast⟩, hreferences⟩
    · intro c hc
      obtain ⟨g, hg, rfl⟩ := List.mem_map.mp hc
      exact hunbroken g hg
    · obtain ⟨g, t, rfl⟩ := List.exists_cons_of_ne_nil hne
      simpa using hangle
  · rw [happend] at hinput hlong
    have hurl := hlength (arePlain_append.mp (arePlain_cons.mp hinput).2).1
    simp only [List.length_cons, List.length_append] at hlong
    omega

end Resource

end SopDocs.Markdown
