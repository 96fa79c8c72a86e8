import SopDocs.Markdown.Inline

/-!
# Constructs are read off the start of a text

Each construct within a text takes glyphs off the start of what is left and leaves the
rest as it is. So what is read and what is left are together the text, and nothing of it
is read twice or lost.
-/

namespace SopDocs.Markdown

/-- Whether `rest` is left of a text when something is read off its start. -/
def Leaves (gs rest : List Glyph) : Prop := ∃ read, read ≠ [] ∧ gs = read ++ rest

variable {gs rest : List Glyph}

theorem Leaves.suffix (h : Leaves gs rest) : rest <:+ gs := by
  obtain ⟨read, -, rfl⟩ := h
  exact List.suffix_append read rest

theorem Leaves.trans_suffix {more : List Glyph} (h : Leaves gs rest) (hmore : more <:+ rest) :
    Leaves gs more := by
  obtain ⟨read, hread, rfl⟩ := h
  obtain ⟨t, rfl⟩ := hmore
  exact ⟨read ++ t, by simp [hread], by simp⟩

theorem leaves_of_suffix {more : List Glyph} (h : rest <:+ gs) (hmore : Leaves rest more) :
    Leaves gs more := by
  obtain ⟨read, hread, rfl⟩ := hmore
  obtain ⟨t, rfl⟩ := h
  exact ⟨t ++ read, by simp [hread], by simp⟩

theorem leaves_cons {g : Glyph} (h : rest <:+ gs) : Leaves (g :: gs) rest := by
  obtain ⟨t, rfl⟩ := h
  exact ⟨g :: t, List.cons_ne_nil g t, rfl⟩

theorem leaves_of_dropWhile {p : Glyph → Bool} {g : Glyph} (h : gs.dropWhile p = g :: rest) :
    Leaves gs rest := by
  refine ⟨gs.takeWhile p ++ [g], by simp, ?_⟩
  rw [List.append_assoc, List.singleton_append, ← h, List.takeWhile_append_dropWhile]

/-- What is taken is what is not left. -/
theorem taken_append (read rest : List Glyph) : taken (read ++ rest) rest = read := by
  unfold taken
  rw [List.length_append, Nat.add_sub_cancel, List.take_left]

theorem taken_ne_nil (h : Leaves gs rest) : taken gs rest ≠ [] := by
  obtain ⟨read, hread, rfl⟩ := h
  rw [taken_append]
  exact hread

theorem eq_taken_append (h : rest <:+ gs) : gs = taken gs rest ++ rest := by
  obtain ⟨read, rfl⟩ := h
  rw [taken_append]

/-! ### Character references -/

theorem numericReference?_leaves {base limit n : Nat} {isDigit : Char → Bool}
    (h : numericReference? base limit isDigit gs = some (n, rest)) : Leaves gs rest := by
  unfold numericReference? at h
  simp only at h
  split at h
  · next g t hdrop =>
    split at h
    · obtain ⟨-, rfl⟩ := Prod.mk.inj (Option.some.inj h)
      exact leaves_of_dropWhile hdrop
    · cases h
  · cases h

theorem namedReference?_leaves {cs : List Char} (h : namedReference? gs = some (cs, rest)) :
    Leaves gs rest := by
  unfold namedReference? at h
  simp only at h
  split at h
  · next g t hdrop =>
    split at h
    · obtain ⟨e, -, he⟩ := Option.map_eq_some_iff.mp h
      obtain ⟨-, rfl⟩ := Prod.mk.inj he
      exact leaves_of_dropWhile hdrop
    · cases h
  · cases h

theorem reference?_leaves {cs : List Char} (h : reference? gs = some (cs, rest)) :
    Leaves gs rest := by
  unfold reference? at h
  split at h
  · next g r =>
    split at h
    · split at h
      · next i t =>
        split at h
        · obtain ⟨p, hp, he⟩ := Option.map_eq_some_iff.mp h
          obtain ⟨-, rfl⟩ := Prod.mk.inj he
          exact leaves_cons ((numericReference?_leaves hp).suffix.trans (List.suffix_cons i t))
        · obtain ⟨p, hp, he⟩ := Option.map_eq_some_iff.mp h
          obtain ⟨-, rfl⟩ := Prod.mk.inj he
          exact leaves_cons (numericReference?_leaves hp).suffix
      · cases h
    · exact namedReference?_leaves h
  · cases h

/-! ### Code -/

theorem closingTicks?_eq {size seen : Nat} {body : List Glyph}
    (h : closingTicks? size seen gs = some (body, rest)) :
    gs = body ++ rest ∧ (seen ≠ size → body ≠ []) := by
  induction gs generalizing seen body with
  | nil =>
    rw [closingTicks?] at h
    split at h
    · next hseen =>
      cases h
      exact ⟨rfl, fun hne => absurd hseen hne⟩
    · cases h
  | cons g r ih =>
    rw [closingTicks?] at h
    split at h
    · obtain ⟨p, hp, he⟩ := Option.map_eq_some_iff.mp h
      obtain ⟨rfl, rfl⟩ := Prod.mk.inj he
      exact ⟨by rw [(ih hp).1]; rfl, fun _ => List.cons_ne_nil _ _⟩
    · split at h
      · next hseen =>
        cases h
        exact ⟨rfl, fun hne => absurd hseen hne⟩
      · obtain ⟨p, hp, he⟩ := Option.map_eq_some_iff.mp h
        obtain ⟨rfl, rfl⟩ := Prod.mk.inj he
        exact ⟨by rw [(ih hp).1]; rfl, fun _ => List.cons_ne_nil _ _⟩

/-- Code that starts with a backquote starts there and stops with the last glyph that is read. -/
theorem code?_leaves {inTable : Bool} {g : Glyph} {e : Element} (hg : (g.char == '\x60') = true)
    (h : code? inTable (g :: gs) = some (e, rest)) :
    ∃ read last, g :: gs = read ++ rest ∧ read.getLast? = some last ∧
      e.span = ⟨g.start, last.stop⟩ := by
  unfold code? at h
  simp only at h
  obtain ⟨⟨body, t⟩, hclose, he⟩ := Option.map_eq_some_iff.mp h
  obtain ⟨rfl, rfl⟩ := Prod.mk.inj he
  obtain ⟨hbody, hne⟩ := closingTicks?_eq hclose
  have hsize : ((g :: gs).takeWhile (·.char == '\x60')).length ≠ 0 := by
    simp [hg]
  obtain ⟨front, last, rfl⟩ : ∃ front last, body = front ++ [last] :=
    ⟨_, _, (List.dropLast_concat_getLast (hne (Ne.symm hsize))).symm⟩
  refine ⟨(g :: gs).take ((g :: gs).takeWhile (·.char == '\x60')).length ++ (front ++ [last]), last,
    ?_, by simp, ?_⟩
  · rw [List.append_assoc, ← hbody, List.take_append_drop]
  · simp [startOf, stopOf]

/-! ### Addresses and HTML -/

theorem afterBracket?_leaves (h : Autolink.afterBracket? gs = some rest) : Leaves gs rest := by
  unfold Autolink.afterBracket? at h
  split at h
  · cases h
  · next g r =>
    split at h
    · cases h
      exact leaves_cons List.suffix_rfl
    · cases h

theorem bracketed?_leaves {before : String} {shown : List Glyph}
    (h : Autolink.bracketed? gs = some (before, shown, rest)) : Leaves gs rest := by
  unfold Autolink.bracketed? at h
  split at h
  · next text r huri =>
    obtain ⟨-, -, rfl⟩ := Option.some.inj h
    unfold Autolink.uri? at huri
    simp only at huri
    split at huri
    · obtain ⟨p, hp, he⟩ := Option.map_eq_some_iff.mp huri
      obtain ⟨-, rfl⟩ := Prod.mk.inj he
      exact leaves_of_suffix ((List.dropWhile_suffix _).trans (List.dropWhile_suffix _))
        (afterBracket?_leaves hp)
    · cases huri
  · obtain ⟨⟨text, r⟩, hmail, he⟩ := Option.map_eq_some_iff.mp h
    obtain ⟨-, -, rfl⟩ := he
    unfold Autolink.email? at hmail
    simp only at hmail
    split at hmail
    · cases hmail
    · next at_ t hdrop =>
      split at hmail
      · obtain ⟨p, hp, he⟩ := Option.map_eq_some_iff.mp hmail
        obtain ⟨-, rfl⟩ := Prod.mk.inj he
        exact (leaves_of_dropWhile hdrop).trans_suffix
          ((afterBracket?_leaves hp).suffix.trans (List.dropWhile_suffix _))
      · cases hmail

theorem run_leaves {state : Html.State} (h : Html.run state gs = some rest) : Leaves gs rest := by
  induction gs generalizing state with
  | nil => cases h
  | cons g r ih =>
    rw [Html.run] at h
    split at h
    · exact leaves_cons (ih h).suffix
    · cases h
      exact leaves_cons List.suffix_rfl
    · cases h

/-- A domain holds a character that is neither space nor punctuation. -/
theorem afterDomain?_suffix {last previous seen : Bool}
    (h : Autolink.afterDomain? last previous seen gs = some rest) :
    rest <:+ gs ∧ (seen = false → Leaves gs rest) := by
  induction gs generalizing last previous seen with
  | nil =>
    rw [Autolink.afterDomain?] at h
    split at h
    · cases h
    · next hseen =>
      cases h
      exact ⟨List.suffix_rfl, fun hfalse => by simp [hfalse] at hseen⟩
  | cons g r ih =>
    have step : ∀ {l p s}, Autolink.afterDomain? l p s r = some rest →
        rest <:+ g :: r ∧ (seen = false → Leaves (g :: r) rest) := fun h =>
      ⟨(ih h).1.trans (List.suffix_cons g r), fun _ => leaves_cons (ih h).1⟩
    rw [Autolink.afterDomain?] at h
    split at h
    · split at h
      · exact step h
      · exact step h
    · split at h
      · exact step h
      · split at h
        · exact step h
        · split at h
          · cases h
          · next hseen =>
            cases h
            exact ⟨List.suffix_rfl, fun hfalse => by simp [hfalse] at hseen⟩

theorem afterPath_suffix (opened closed : Nat) (gs : List Glyph) :
    Autolink.afterPath opened closed gs <:+ gs := by
  induction gs generalizing opened closed with
  | nil => exact List.suffix_rfl
  | cons g r ih =>
    have step : ∀ o c, Autolink.afterPath o c r <:+ g :: r := fun o c =>
      (ih o c).trans (List.suffix_cons g r)
    rw [Autolink.afterPath]
    split
    · exact step _ _
    · split
      · split
        · exact step _ _
        · exact List.suffix_rfl
      · split
        · split
          · exact List.suffix_rfl
          · exact step _ _
        · split
          · exact List.suffix_rfl
          · exact step _ _

theorem afterAddress?_leaves (h : Autolink.afterAddress? gs = some rest) : Leaves gs rest := by
  obtain ⟨r, hr, rfl⟩ := Option.map_eq_some_iff.mp h
  exact ((afterDomain?_suffix hr).2 rfl).trans_suffix (afterPath_suffix 0 0 r)

theorem bare?_leaves {previous : Option Char} {before : String}
    (h : Autolink.bare? previous gs = some (before, rest)) : Leaves gs rest := by
  unfold Autolink.bare? at h
  rcases Option.or_eq_some_iff.mp h with h | ⟨-, h⟩
  · unfold Autolink.schemeRest? at h
    simp only at h
    split at h
    · cases h
    · split at h
      · obtain ⟨r, hr, he⟩ := Option.map_eq_some_iff.mp h
        obtain ⟨-, rfl⟩ := Prod.mk.inj he
        exact leaves_of_suffix ((List.drop_suffix 3 _).trans (List.dropWhile_suffix _))
          (afterAddress?_leaves hr)
      · cases h
  · unfold Autolink.hostRest? at h
    split at h
    · obtain ⟨r, hr, he⟩ := Option.map_eq_some_iff.mp h
      obtain ⟨-, rfl⟩ := Prod.mk.inj he
      exact afterAddress?_leaves hr
    · cases h

/-! ### Ends of labels -/

/-- A reader that keeps a glyph and goes on has read that glyph before what the rest of it reads. -/
theorem kept_of_map_cons {g : Glyph} {read : Option (List Glyph × List Glyph)} {kept : List Glyph}
    (h : read.map (fun p => (g :: p.1, p.2)) = some (kept, rest)) :
    ∃ l, kept = g :: l ∧ read = some (l, rest) := by
  obtain ⟨⟨l, r⟩, hread, he⟩ := Option.map_eq_some_iff.mp h
  obtain ⟨rfl, rfl⟩ := Prod.mk.inj he
  exact ⟨l, rfl, hread⟩

/-- A reader that keeps a glyph and goes on leaves what the rest of it leaves. -/
theorem suffix_of_map_cons {g : Glyph} {read : Option (List Glyph × List Glyph)} {kept : List Glyph}
    (hread : ∀ {l}, read = some (l, rest) → rest <:+ gs)
    (h : read.map (fun p => (g :: p.1, p.2)) = some (kept, rest)) : rest <:+ g :: gs := by
  obtain ⟨l, -, hl⟩ := kept_of_map_cons h
  exact (hread hl).trans (List.suffix_cons g gs)

theorem labelText?_suffix {escaped seen : Bool} {label : List Glyph}
    (h : labelText? escaped seen gs = some (label, rest)) : rest <:+ gs := by
  induction gs generalizing escaped seen label with
  | nil => cases h
  | cons g r ih =>
    rw [labelText?] at h
    simp only at h
    split at h
    · exact suffix_of_map_cons ih h
    · split at h
      · cases h
      · split at h
        · split at h
          · cases h
            exact List.suffix_cons _ _
          · cases h
        · exact suffix_of_map_cons ih h

theorem label?_suffix {label : List Glyph} (h : label? gs = some (label, rest)) : rest <:+ gs :=
  labelText?_suffix (Option.filter_eq_some_iff.mp h).1

/-- A destination in angle brackets is followed by the closing one and what is left. -/
theorem enclosed?_append {escaped : Bool} {url : List Glyph}
    (h : enclosed? escaped gs = some (url, rest)) : ∃ mark, gs = url ++ mark :: rest := by
  induction gs generalizing escaped url with
  | nil => cases h
  | cons g r ih =>
    rw [enclosed?] at h
    simp only at h
    split at h
    · obtain ⟨l, rfl, hl⟩ := kept_of_map_cons h
      obtain ⟨mark, rfl⟩ := ih hl
      exact ⟨mark, rfl⟩
    · split at h
      · cases h
      · split at h
        · cases h
          exact ⟨g, rfl⟩
        · obtain ⟨l, rfl, hl⟩ := kept_of_map_cons h
          obtain ⟨mark, rfl⟩ := ih hl
          exact ⟨mark, rfl⟩

/-- A bare destination is followed by what is left. -/
theorem bare?_append {limit depth : Nat} {escaped : Bool} {url : List Glyph}
    (h : bare? limit depth escaped gs = some (url, rest)) : gs = url ++ rest := by
  induction gs generalizing depth escaped url with
  | nil =>
    rw [bare?] at h
    split at h
    · cases h
      rfl
    · cases h
  | cons g r ih =>
    have hnext : ∀ {next : Nat} {after : Bool},
        (bare? limit next after r).map (fun p => (g :: p.1, p.2)) = some (url, rest) →
          g :: r = url ++ rest := by
      intro next after h
      obtain ⟨l, rfl, hl⟩ := kept_of_map_cons h
      rw [ih hl, List.cons_append]
    rw [bare?] at h
    simp only at h
    split at h
    · exact hnext h
    · split at h
      · cases h
        rfl
      · split at h
        · exact hnext h
        · split at h
          · cases h
          · split at h
            · exact hnext h
            · exact hnext h

theorem destination?_suffix {limit : Nat} {url : List Glyph}
    (h : destination? limit gs = some (url, rest)) : rest <:+ gs := by
  unfold destination? at h
  split at h
  · cases h
  · next g r =>
    split at h
    · obtain ⟨mark, rfl⟩ := enclosed?_append h
      exact ⟨g :: url ++ [mark], by simp⟩
    · split at h
      · cases h
      · exact ⟨url, (bare?_append h).symm⟩

theorem titleText?_suffix {mark : Char} {escaped : Bool} {title : List Glyph}
    (h : titleText? mark escaped gs = some (title, rest)) : rest <:+ gs := by
  induction gs generalizing escaped title with
  | nil => cases h
  | cons g r ih =>
    rw [titleText?] at h
    simp only at h
    split at h
    · exact suffix_of_map_cons ih h
    · split at h
      · cases h
        exact List.suffix_cons _ _
      · exact suffix_of_map_cons ih h

theorem title?_suffix {title : Option String} (h : title? gs = some (title, rest)) :
    rest <:+ gs := by
  unfold title? at h
  split at h
  · cases h
  · next g r =>
    obtain ⟨mark, -, h⟩ := Option.bind_eq_some_iff.mp h
    obtain ⟨p, hp, he⟩ := Option.map_eq_some_iff.mp h
    obtain ⟨-, rfl⟩ := Prod.mk.inj he
    exact (titleText?_suffix hp).trans (List.suffix_cons g r)

theorem resourceEnd?_suffix (h : resourceEnd? gs = some rest) : rest <:+ gs := by
  unfold resourceEnd? at h
  split at h
  · cases h
  · next g r =>
    split at h
    · cases h
      exact List.suffix_cons _ _
    · cases h

theorem skipBlanks_suffix (gs : List Glyph) : skipBlanks gs <:+ gs := List.dropWhile_suffix _

theorem resource?_suffix {target : String × Option String}
    (h : resource? gs = some (target, rest)) : rest <:+ gs := by
  unfold resource? at h
  split at h
  · next r hend =>
    cases h
    exact (resourceEnd?_suffix hend).trans (skipBlanks_suffix gs)
  · obtain ⟨⟨url, r⟩, hurl, h⟩ := Option.bind_eq_some_iff.mp h
    have hr : r <:+ gs := (destination?_suffix hurl).trans (skipBlanks_suffix gs)
    simp only at h
    split at h
    · cases h
    · next g t hskip =>
      have hgt : g :: t <:+ gs := by
        rw [← hskip]
        exact (skipBlanks_suffix r).trans hr
      split at h
      · obtain ⟨⟨title, u⟩, htitle, h⟩ := Option.bind_eq_some_iff.mp h
        obtain ⟨v, hend, he⟩ := Option.map_eq_some_iff.mp h
        obtain ⟨-, rfl⟩ := Prod.mk.inj he
        exact (resourceEnd?_suffix hend).trans
          ((skipBlanks_suffix u).trans ((title?_suffix htitle).trans hgt))
      · obtain ⟨v, hend, he⟩ := Option.map_eq_some_iff.mp h
        obtain ⟨-, rfl⟩ := Prod.mk.inj he
        exact (resourceEnd?_suffix hend).trans hgt

/-- What completes a label is read off the start of the text after its bracket. -/
theorem closing?_suffix {scope : Scope} {key other : List Char} {after : List Glyph}
    {target : Option (String × Option String)}
    (h : closing? scope key gs = some (other, target, after)) : after <:+ gs := by
  have shortcut : ∀ {r}, (if scope.definitions.contains key then some (key, none, r) else none) =
      some (other, target, after) → r = after := by
    intro r h
    split at h
    · cases h
      rfl
    · cases h
  unfold closing? at h
  simp only at h
  split at h
  · exact shortcut h ▸ List.suffix_rfl
  · next g r =>
    split at h
    · split at h
      · next hresource =>
        cases h
        exact (resource?_suffix hresource).trans (List.suffix_cons g r)
      · exact shortcut h ▸ List.suffix_rfl
    · split at h
      · split at h
        · next p hfull =>
          obtain ⟨⟨label, t⟩, hlabel, hp⟩ := Option.bind_eq_some_iff.mp hfull
          simp only at hp
          split at hp
          · cases hp
            cases h
            exact (label?_suffix hlabel).trans (List.suffix_cons g r)
          · cases hp
        · split at h
          · next i t _ =>
            split at h
            · cases h
              exact (List.suffix_cons _ _).trans (List.suffix_cons _ _)
            · cases h
          · cases h
      · exact shortcut h ▸ List.suffix_rfl

end SopDocs.Markdown
