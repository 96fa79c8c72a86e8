import SopDocs.Markdown.Escape
import SopDocs.Proofs.Text.Case
import SopDocs.Proofs.Text.Slice

/-!
# Texts that stand for themselves

A backslash before punctuation and a character reference are the two ways in which a text stands
for another one. Resolving them never makes a text longer, and no reference stands for itself. So a
text is its own resolved text exactly if neither is in it.
-/

namespace SopDocs.Markdown

/-! ### The grammar -/

/-- Digits of a number, not too many of them. -/
def IsNumber (limit : Nat) (isDigit : Char → Bool) (digits : List Char) : Prop :=
  digits ≠ [] ∧ digits.length ≤ limit ∧ ∀ d ∈ digits, isDigit d = true

/-- What stands between `&` and `;` in a character reference: a name that is known, or the number
of a character. -/
inductive IsReference : List Char → Prop where
  | named {name : List Char} (halphanum : ∀ c ∈ name, c.isAlphanum = true)
      (hlength : name.length ≤ longestName)
      (hknown : ∃ e ∈ entities, e.1 = String.ofList name) : IsReference name
  | decimal {digits : List Char} (hdigits : IsNumber 7 Char.isDigit digits) :
      IsReference ('#' :: digits)
  | hexadecimal {x : Char} {digits : List Char} (hx : x = 'x' ∨ x = 'X')
      (hdigits : IsNumber 6 isHexDigit digits) : IsReference ('#' :: x :: digits)

/-- Whether a text goes on as a character reference does after its `&`. -/
def StartsReference (cs : List Char) : Prop :=
  ∃ body rest, IsReference body ∧ cs = body ++ ';' :: rest

/-- No character of the text is escaped. -/
def EscapeFree (cs : List Char) : Prop :=
  ∀ before c after, cs = before ++ '\\' :: c :: after → isAsciiPunctuation c = false

/-- No character reference is in the text. -/
def ReferenceFree (cs : List Char) : Prop :=
  ∀ before after, cs = before ++ '&' :: after → ¬ StartsReference after

section Cons

variable {c : Char} {r : List Char}

theorem escapeFree_cons : EscapeFree (c :: r) ↔
    (c = '\\' → ∀ d, r.head? = some d → isAsciiPunctuation d = false) ∧ EscapeFree r := by
  constructor
  · intro h
    refine ⟨?_, fun before d after hr => h (c :: before) d after (by rw [hr]; rfl)⟩
    rintro rfl d hd
    obtain ⟨t, rfl⟩ := List.head?_eq_some_iff.mp hd
    exact h [] d t rfl
  · rintro ⟨hc, hr⟩ before d after heq
    cases before with
    | nil =>
      obtain ⟨rfl, rfl⟩ := List.cons.inj heq
      exact hc rfl d rfl
    | cons b before =>
      obtain ⟨-, rfl⟩ := List.cons.inj heq
      exact hr before d after rfl

theorem referenceFree_cons : ReferenceFree (c :: r) ↔
    (c = '&' → ¬ StartsReference r) ∧ ReferenceFree r := by
  constructor
  · intro h
    refine ⟨?_, fun before after hr => h (c :: before) after (by rw [hr]; rfl)⟩
    rintro rfl
    exact h [] r rfl
  · rintro ⟨hc, hr⟩ before after heq
    cases before with
    | nil =>
      obtain ⟨rfl, rfl⟩ := List.cons.inj heq
      exact hc rfl
    | cons b before =>
      obtain ⟨-, rfl⟩ := List.cons.inj heq
      exact hr before after rfl

theorem escapeFree_nil : EscapeFree [] := by
  intro before c after h
  simp at h

theorem referenceFree_nil : ReferenceFree [] := by
  intro before after h
  simp at h

theorem escapeFree_of_not_mem (h : '\\' ∉ r) : EscapeFree r := by
  rintro before c after rfl
  simp at h

theorem referenceFree_of_not_mem (h : '&' ∉ r) : ReferenceFree r := by
  rintro before after rfl
  simp at h

end Cons

/-! ### Reading a reference -/

section Reading

variable {gs rest : List Glyph}

theorem takeWhile_at {α : Type} {p : α → Bool} {run : List α} {stop : α} {rest : List α}
    (hrun : ∀ a ∈ run, p a = true) (hstop : p stop = false) :
    (run ++ stop :: rest).takeWhile p = run ∧ (run ++ stop :: rest).dropWhile p = stop :: rest := by
  have hend : ¬ p stop = true := by rw [hstop]; exact Bool.false_ne_true
  constructor
  · rw [List.takeWhile_append_of_pos hrun, List.takeWhile_cons_of_neg hend, List.append_nil]
  · rw [List.dropWhile_append_of_pos hrun, List.dropWhile_cons_of_neg hend]

/-- Glyphs up to the first that fails a test. -/
theorem exists_run {p : Glyph → Bool} {stop : Glyph} (h : gs.dropWhile p = stop :: rest) :
    gs = gs.takeWhile p ++ stop :: rest ∧ ∀ g ∈ gs.takeWhile p, p g = true := by
  refine ⟨?_, fun g hg => List.all_eq_true.mp List.all_takeWhile g hg⟩
  rw [← h, List.takeWhile_append_dropWhile]

/-- What a reference consists of, and that it does not stand for itself. -/
structure ReadsReference (gs : List Glyph) (cs : List Char) (rest : List Glyph) : Prop where
  reads : ∃ body mark, gs = body ++ mark :: rest ∧ mark.char = ';' ∧
    IsReference (body.map (·.char))
  short : cs.length ≤ 1 ∨ cs.length = 2 ∧ cs.head? ≠ some '&'

theorem numericReference?_eq_some {base limit n : Nat} {isDigit : Char → Bool}
    (h : numericReference? base limit isDigit gs = some (n, rest)) :
    ∃ digits mark, gs = digits ++ mark :: rest ∧ mark.char = ';' ∧
      IsNumber limit isDigit (digits.map (·.char)) := by
  unfold numericReference? at h
  simp only at h
  split at h
  · next mark t hdrop =>
    obtain ⟨hgs, hdigits⟩ := exists_run hdrop
    split at h
    · next hcond =>
      obtain ⟨hmark, hne, hlength⟩ := hcond
      obtain ⟨-, rfl⟩ := Prod.mk.inj (Option.some.inj h)
      refine ⟨_, mark, hgs, hmark, ?_, ?_, ?_⟩
      · rw [Ne, List.map_eq_nil_iff]
        exact hne
      · rw [List.length_map]
        exact hlength
      · intro d hd
        obtain ⟨g, hg, rfl⟩ := List.mem_map.mp hd
        exact hdigits g hg
    · cases h
  · cases h

theorem isSome_numericReference? {base limit : Nat} {isDigit : Char → Bool} {digits : List Glyph}
    {mark : Glyph} (hdigits : IsNumber limit isDigit (digits.map (·.char)))
    (hmark : mark.char = ';') (hother : isDigit ';' = false) :
    (numericReference? base limit isDigit (digits ++ mark :: rest)).isSome = true := by
  obtain ⟨hne, hlength, hall⟩ := hdigits
  obtain ⟨htake, hdrop⟩ := @takeWhile_at Glyph (fun g => isDigit g.char) digits mark rest
    (fun g hg => hall g.char (List.mem_map_of_mem hg)) (by rw [hmark]; exact hother)
  rw [Ne, List.map_eq_nil_iff] at hne
  rw [List.length_map] at hlength
  unfold numericReference?
  simp only [htake, hdrop]
  rw [if_pos ⟨hmark, hne, hlength⟩]
  rfl

/-- No name stands for more than two characters, and none for a text that starts with `&`. -/
theorem entities_short :
    ∀ e ∈ entities, e.2.length ≤ 1 ∨ e.2.length = 2 ∧ e.2.head? ≠ some '&'.toNat := by
  decide +kernel

theorem namedReference?_eq_some {cs : List Char} (h : namedReference? gs = some (cs, rest)) :
    ReadsReference gs cs rest := by
  unfold namedReference? at h
  simp only at h
  split at h
  · next mark t hdrop =>
    obtain ⟨hgs, hname⟩ := exists_run hdrop
    split at h
    · next hcond =>
      obtain ⟨hmark, hlength⟩ := hcond
      obtain ⟨e, he, heq⟩ := Option.map_eq_some_iff.mp h
      obtain ⟨rfl, rfl⟩ := Prod.mk.inj heq
      have hkey := List.find?_some he
      have hmem := List.mem_of_find?_eq_some he
      refine ⟨⟨_, mark, hgs, hmark, .named ?_ ?_ ⟨e, hmem, beq_iff_eq.mp hkey⟩⟩, ?_⟩
      · intro c hc
        obtain ⟨g, hg, rfl⟩ := List.mem_map.mp hc
        exact hname g hg
      · rw [List.length_map]
        exact hlength
      · rw [List.length_map, List.head?_map]
        refine (entities_short e hmem).imp_right fun htwo => ⟨htwo.1, fun hhead => htwo.2 ?_⟩
        obtain ⟨n, hn, hchar⟩ := Option.map_eq_some_iff.mp hhead
        rw [hn, ← hchar]
        rcases Text.toNat_ofNat_or n with hvalid | hzero
        · rw [hvalid]
        · rw [hchar] at hzero
          cases hzero
    · cases h
  · cases h

theorem reference?_eq_some {cs : List Char} (h : reference? gs = some (cs, rest)) :
    ReadsReference gs cs rest := by
  have hnumber : ∀ {base limit : Nat} {isDigit : Char → Bool} {hs : List Glyph},
      (numericReference? base limit isDigit hs).map (fun p => ([referencedChar p.1], p.2)) =
        some (cs, rest) →
      cs.length ≤ 1 ∧ ∃ digits mark, hs = digits ++ mark :: rest ∧ mark.char = ';' ∧
        IsNumber limit isDigit (digits.map (·.char)) := by
    intro base limit isDigit hs h
    obtain ⟨⟨n, t⟩, hn, heq⟩ := Option.map_eq_some_iff.mp h
    obtain ⟨rfl, rfl⟩ := Prod.mk.inj heq
    exact ⟨Nat.le_refl 1, numericReference?_eq_some hn⟩
  unfold reference? at h
  split at h
  · next g r =>
    split at h
    · next hsign =>
      split at h
      · next x t =>
        split at h
        · next hx =>
          obtain ⟨hshort, digits, mark, rfl, hmark, hdigits⟩ := hnumber h
          refine ⟨⟨g :: x :: digits, mark, rfl, hmark, ?_⟩, .inl hshort⟩
          rw [List.map_cons, List.map_cons, hsign]
          exact .hexadecimal hx hdigits
        · obtain ⟨hshort, digits, mark, hr, hmark, hdigits⟩ := hnumber h
          refine ⟨⟨g :: digits, mark, by rw [hr]; rfl, hmark, ?_⟩, .inl hshort⟩
          rw [List.map_cons, hsign]
          exact .decimal hdigits
      · cases h
    · exact namedReference?_eq_some h
  · cases h

theorem isSome_namedReference? {name : List Glyph} {mark : Glyph}
    (halphanum : ∀ c ∈ name.map (·.char), c.isAlphanum = true) (hlength : name.length ≤ longestName)
    (hknown : ∃ e ∈ entities, e.1 = String.ofList (name.map (·.char))) (hmark : mark.char = ';') :
    (reference? (name ++ mark :: rest)).isSome = true := by
  have hstop : mark.char.isAlphanum = false := by rw [hmark]; rfl
  obtain ⟨htake, hdrop⟩ := @takeWhile_at Glyph (·.char.isAlphanum) name mark rest
    (fun g hg => halphanum g.char (List.mem_map_of_mem hg)) hstop
  have hnamed : reference? (name ++ mark :: rest) = namedReference? (name ++ mark :: rest) := by
    cases name with
    | nil =>
      rw [List.nil_append, reference?.eq_def]
      exact if_neg (by rw [hmark]; decide)
    | cons g name =>
      have hg : g.char ≠ '#' := by
        intro h
        have halpha := halphanum g.char List.mem_cons_self
        rw [h] at halpha
        cases halpha
      rw [List.cons_append, reference?.eq_def]
      exact if_neg hg
  obtain ⟨e, he, hkey⟩ := hknown
  rw [hnamed, namedReference?]
  simp only [htake, hdrop]
  rw [if_pos ⟨hmark, hlength⟩, Option.isSome_map, List.find?_isSome]
  exact ⟨e, he, beq_iff_eq.mpr hkey⟩

/-- Whatever goes on as a reference does is read as one. -/
theorem isSome_reference?_iff : (reference? gs).isSome = true ↔
    StartsReference (gs.map (·.char)) := by
  constructor
  · intro h
    obtain ⟨⟨cs, rest⟩, hread⟩ := Option.isSome_iff_exists.mp h
    obtain ⟨body, mark, rfl, hmark, hbody⟩ := (reference?_eq_some hread).reads
    exact ⟨_, rest.map (·.char), hbody, by rw [List.map_append, List.map_cons, hmark]⟩
  · rintro ⟨body, rest, hbody, hgs⟩
    obtain ⟨hs, tail, rfl, rfl, htail⟩ := List.map_eq_append_iff.mp hgs
    obtain ⟨mark, rest, rfl, hmark, -⟩ := List.map_eq_cons_iff.mp htail
    generalize hchars : hs.map (·.char) = chars at hbody
    cases hbody with
    | named halphanum hlength hknown =>
      subst hchars
      rw [List.length_map] at hlength
      exact isSome_namedReference? halphanum hlength hknown hmark
    | decimal hdigits =>
      obtain ⟨g, digits, rfl, hsign, rfl⟩ := List.map_eq_cons_iff.mp hchars
      cases digits with
      | nil => exact absurd rfl hdigits.1
      | cons d digits =>
        have hd : Char.isDigit d.char = true := hdigits.2.2 d.char List.mem_cons_self
        have hx : ¬ (d.char = 'x' ∨ d.char = 'X') := by
          rintro (h | h) <;> rw [h] at hd <;> cases hd
        rw [List.cons_append, List.cons_append, reference?]
        rw [if_pos hsign, if_neg hx, Option.isSome_map]
        exact isSome_numericReference? hdigits hmark (by decide)
    | hexadecimal hx hdigits =>
      obtain ⟨g, hs, rfl, hsign, hchars⟩ := List.map_eq_cons_iff.mp hchars
      obtain ⟨x, digits, rfl, rfl, rfl⟩ := List.map_eq_cons_iff.mp hchars
      rw [List.cons_append, List.cons_append, reference?]
      rw [if_pos hsign, if_pos hx, Option.isSome_map]
      exact isSome_numericReference? hdigits hmark (by decide)

end Reading

/-! ### Resolving a text -/

section Unescape

variable {gs : List Glyph}

/-- Glyphs that stand for their own characters. -/
def ArePlain (gs : List Glyph) : Prop := ∀ g ∈ gs, g.form = .plain

theorem arePlain_cons {g : Glyph} : ArePlain (g :: gs) ↔ g.form = .plain ∧ ArePlain gs :=
  List.forall_mem_cons

theorem arePlain_append {hs : List Glyph} :
    ArePlain (gs ++ hs) ↔ ArePlain gs ∧ ArePlain hs := List.forall_mem_append

theorem text_of_plain {g : Glyph} (h : g.form = .plain) : g.text = [g.char] := by
  rw [Glyph.text, h]

/-- One step of resolving a text. -/
theorem unescapeFuel_cons (fuel : Nat) (g : Glyph) (r : List Glyph) :
    unescapeFuel (fuel + 1) (g :: r) =
      if g.char = '\\' then
        match r with
        | h :: t => if isAsciiPunctuation h.char then h.char :: unescapeFuel fuel t
          else '\\' :: unescapeFuel fuel r
        | [] => ['\\']
      else if g.char = '&' then
        match reference? r with
        | some (cs, rest) => cs ++ unescapeFuel fuel rest
        | none => '&' :: unescapeFuel fuel r
      else g.text ++ unescapeFuel fuel r := rfl

theorem length_unescapeFuel_le (fuel : Nat) (hplain : ArePlain gs) :
    (unescapeFuel fuel gs).length ≤ gs.length := by
  induction fuel generalizing gs with
  | zero => exact Nat.zero_le _
  | succ fuel ih =>
    cases gs with
    | nil => exact Nat.le_refl 0
    | cons g r =>
      obtain ⟨hg, hr⟩ := arePlain_cons.mp hplain
      have hkept := ih hr
      rw [unescapeFuel_cons, List.length_cons]
      split
      · split
        · next d t =>
          obtain ⟨-, ht⟩ := arePlain_cons.mp hr
          split
          · have := ih ht
            simp only [List.length_cons] at this ⊢
            omega
          · simp only [List.length_cons] at hkept ⊢
            omega
        · simp
      · split
        · split
          · next cs rest href =>
            obtain ⟨⟨body, mark, rfl, -, -⟩, hshort⟩ := reference?_eq_some href
            have hrest := ih (arePlain_cons.mp (arePlain_append.mp hr).2).2
            simp only [List.length_append, List.length_cons] at hrest ⊢
            omega
          · simp only [List.length_cons] at hkept ⊢
            omega
        · rw [text_of_plain hg, List.length_append, List.length_singleton]
          omega

/-- A text with neither escapes nor references stands for itself, and no other text does. -/
theorem unescapeFuel_eq_iff {fuel : Nat} (hfuel : gs.length ≤ fuel) (hplain : ArePlain gs) :
    unescapeFuel fuel gs = gs.map (·.char) ↔
      EscapeFree (gs.map (·.char)) ∧ ReferenceFree (gs.map (·.char)) := by
  induction fuel generalizing gs with
  | zero =>
    rw [List.eq_nil_of_length_eq_zero (Nat.le_zero.mp hfuel)]
    simp [unescapeFuel, escapeFree_nil, referenceFree_nil]
  | succ fuel ih =>
    cases gs with
    | nil => simp [unescapeFuel, escapeFree_nil, referenceFree_nil]
    | cons g r =>
      obtain ⟨hg, hr⟩ := arePlain_cons.mp hplain
      have hkept : (g.char :: unescapeFuel fuel r = g.char :: r.map (·.char)) ↔
          EscapeFree (r.map (·.char)) ∧ ReferenceFree (r.map (·.char)) := by
        rw [List.cons_inj_right]
        exact ih (Nat.le_of_succ_le_succ hfuel) hr
      rw [unescapeFuel_cons, List.map_cons, escapeFree_cons, referenceFree_cons]
      split
      · next hslash =>
        rw [hslash] at hkept ⊢
        cases r with
        | nil => simp [escapeFree_nil, referenceFree_nil]
        | cons d t =>
          simp only [List.map_cons, List.head?_cons, Option.some.injEq, forall_eq'] at hkept ⊢
          split
          · next hd =>
            have hshort := length_unescapeFuel_le fuel (arePlain_cons.mp hr).2
            constructor
            · intro h
              have hlength := congrArg List.length h
              simp only [List.length_cons, List.length_map] at hlength
              omega
            · rintro ⟨⟨hnot, -⟩, -⟩
              rw [hnot trivial] at hd
              cases hd
          · next hd =>
            rw [hkept, Bool.eq_false_iff.mpr hd]
            simp
      · next hslash =>
        split
        · next hmark =>
          split
          · next cs rest href =>
            obtain ⟨⟨body, mark, rfl, hend, hbody⟩, hshort⟩ := reference?_eq_some href
            have hrest := length_unescapeFuel_le fuel (arePlain_cons.mp (arePlain_append.mp hr).2).2
            constructor
            · intro h
              have hlength := congrArg List.length h
              have hhead := congrArg List.head? h
              simp only [List.length_append, List.length_cons, List.length_map] at hlength
              rw [List.head?_append, List.head?_cons, hmark] at hhead
              rcases hshort with hone | ⟨htwo, hne⟩
              · omega
              · obtain ⟨c, cs, rfl⟩ := List.exists_cons_of_length_pos (by omega : 0 < cs.length)
                exact absurd hhead hne
            · rintro ⟨-, hnot, -⟩
              refine absurd ⟨_, rest.map (·.char), hbody, ?_⟩ (hnot hmark)
              rw [List.map_append, List.map_cons, hend]
          · next href =>
            have hnot : ¬ StartsReference (r.map (·.char)) := by
              rw [← isSome_reference?_iff, href]
              exact Bool.false_ne_true
            rw [← hmark, hkept]
            simp [hslash, hnot]
        · next hmark =>
          rw [text_of_plain hg, List.singleton_append, hkept]
          simp [hslash, hmark]

theorem length_unescape_le (hplain : ArePlain gs) : (unescape gs).length ≤ gs.length :=
  length_unescapeFuel_le gs.length hplain

theorem unescape_eq_iff (hplain : ArePlain gs) : unescape gs = gs.map (·.char) ↔
    EscapeFree (gs.map (·.char)) ∧ ReferenceFree (gs.map (·.char)) :=
  unescapeFuel_eq_iff (Nat.le_refl gs.length) hplain

end Unescape

end SopDocs.Markdown
