import SopDocs.Path

/-!
# Components of paths

The meaning of a path is the list of its components. Joining appends the components of a
relative path, so a name below a path is one component more, and the parent of a path is one
component less. Paths are ordered by their components, and two that come out equal have the same
ones.
-/

namespace SopDocs

open Text (pieces)

namespace Text

theorem pieces_append_cut {cut : Char → Bool} {c : Char} (hc : cut c = true) (s t : List Char) :
    pieces cut (s ++ c :: t) = pieces cut s ++ pieces cut t := by
  induction s with
  | nil => simp [pieces, hc]
  | cons d s ih =>
    rw [List.cons_append, pieces, pieces]
    split
    · rw [ih]
      rfl
    · rw [ih]
      cases hs : pieces cut s with
      | nil => exact absurd hs (pieces_ne_nil cut s)
      | cons p ps => rfl

theorem pieces_of_uncut {cut : Char → Bool} {s : List Char} (h : ∀ c ∈ s, cut c = false) :
    pieces cut s = [s] := by
  induction s with
  | nil => rfl
  | cons c s ih =>
    have hs := ih fun d hd => h d (List.mem_cons_of_mem _ hd)
    rw [pieces, if_neg (by simp [h c List.mem_cons_self]), hs]

/-- A text is one piece, or one piece with a cut and another text behind it. -/
theorem cut_induction {cut : Char → Bool} {motive : List Char → Prop}
    (uncut : ∀ s, (∀ c ∈ s, cut c = false) → motive s)
    (append_cut : ∀ s c t, (∀ d ∈ s, cut d = false) → cut c = true → motive t →
      motive (s ++ c :: t)) (s : List Char) : motive s := by
  -- The induction is on what stands behind the piece that is being read.
  have hread : ∀ t s, (∀ c ∈ s, cut c = false) → motive (s ++ t) := by
    intro t
    induction t with
    | nil =>
      intro s hs
      rw [List.append_nil]
      exact uncut s hs
    | cons c t ih =>
      intro s hs
      by_cases hc : cut c = true
      · exact append_cut s c t hs hc (ih [] (List.forall_mem_nil _))
      · have hlonger : ∀ d ∈ s ++ [c], cut d = false :=
          List.forall_mem_append.mpr ⟨hs, List.forall_mem_singleton.mpr (by simpa using hc)⟩
        rw [List.append_cons]
        exact ih (s ++ [c]) hlonger
  exact hread s [] (List.forall_mem_nil _)

end Text

namespace Path

/-! ### Pieces and components -/

/-- The components that pieces between slashes stand for. -/
def ofPieces (first : Bool) : List (List Char) → List Component
  | [] => []
  | piece :: r => (Component.ofPiece? first piece).toList ++ ofPieces false r

theorem map_fst_componentsFrom (first : Bool) (position : Nat) (ps : List (List Char)) :
    (componentsFrom first position ps).map (·.1) = ofPieces first ps := by
  induction ps generalizing first position with
  | nil => rfl
  | cons piece ps ih =>
    unfold componentsFrom ofPieces
    simp only
    cases Component.ofPiece? first piece with
    | none => exact ih _ _
    | some c => exact congrArg (c :: ·) (ih _ _)

theorem ofPieces_append {ps : List (List Char)} (h : ps ≠ []) (first : Bool)
    (qs : List (List Char)) :
    ofPieces first (ps ++ qs) = ofPieces first ps ++ ofPieces false qs := by
  induction ps generalizing first with
  | nil => exact absurd rfl h
  | cons piece ps ih =>
    rw [List.cons_append, ofPieces, ofPieces, List.append_assoc]
    cases ps with
    | nil => rfl
    | cons next ps => rw [ih (List.cons_ne_nil _ _)]

theorem components_eq (p : Path) :
    p.components = (if p.isAbsolute then [.root] else []) ++
      ofPieces (!p.isAbsolute) (pieces (· == '/') p.text.toList) := by
  unfold components marked isAbsolute
  simp only
  split
  · rw [List.map_cons, map_fst_componentsFrom]
    rfl
  · rw [map_fst_componentsFrom]
    rfl

/-! ### Joining -/

/-- The text of a path joined to another one has a slash between the two. -/
theorem exists_toList_join {base p : Path} (hbase : base.text ≠ "") (hp : p.isAbsolute = false) :
    ∃ before, (base.join p).text.toList = before ++ '/' :: p.text.toList ∧
      (base.text.toList = before ∨ base.text.toList = before ++ ['/']) := by
  have hempty : base.text.isEmpty = false := by simpa using hbase
  unfold join
  rw [if_neg (by simp [hp])]
  by_cases hslash : base.text.toList.getLast? = some '/'
  · obtain ⟨before, hbefore⟩ := List.getLast?_eq_some_iff.mp hslash
    refine ⟨before, ?_, Or.inr hbefore⟩
    rw [if_pos (by simp [hslash]), String.toList_append, hbefore, List.append_assoc]
    rfl
  · refine ⟨base.text.toList, ?_, Or.inl rfl⟩
    rw [if_neg (by simp [hempty, hslash]), String.toList_append, String.toList_append,
      List.append_assoc]
    rfl

theorem isAbsolute_join {base p : Path} (hbase : base.text ≠ "") (hp : p.isAbsolute = false) :
    (base.join p).isAbsolute = base.isAbsolute := by
  obtain ⟨before, hjoin, hbefore | hbefore⟩ := exists_toList_join hbase hp
  · unfold isAbsolute isAbsoluteText
    rw [hjoin, hbefore]
    cases before with
    | nil => exact absurd (String.toList_eq_nil_iff.mp hbefore) hbase
    | cons c before => rfl
  · unfold isAbsolute isAbsoluteText
    rw [hjoin, hbefore]
    cases before <;> rfl

theorem ofPieces_join {base p : Path} (hbase : base.text ≠ "") (hp : p.isAbsolute = false)
    (first : Bool) :
    ofPieces first (pieces (· == '/') (base.join p).text.toList) =
      ofPieces first (pieces (· == '/') base.text.toList) ++
        ofPieces false (pieces (· == '/') p.text.toList) := by
  have hcut : ∀ before after : List Char, pieces (· == '/') (before ++ '/' :: after) =
      pieces (· == '/') before ++ pieces (· == '/') after := Text.pieces_append_cut rfl
  obtain ⟨before, hjoin, hbefore | hbefore⟩ := exists_toList_join hbase hp
  · rw [hjoin, hcut, ofPieces_append (Text.pieces_ne_nil _ _), hbefore]
  · have hlast : ofPieces false (pieces (· == '/') []) = [] := rfl
    rw [hjoin, hbefore, hcut, hcut, ofPieces_append (Text.pieces_ne_nil _ _),
      ofPieces_append (Text.pieces_ne_nil _ _), hlast, List.append_nil]

theorem components_join {base p : Path} (hbase : base.text ≠ "") (hp : p.isAbsolute = false) :
    (base.join p).components =
      base.components ++ ofPieces false (pieces (· == '/') p.text.toList) := by
  rw [components_eq, components_eq base, isAbsolute_join hbase hp, ofPieces_join hbase hp,
    List.append_assoc]

theorem ofPieces_true (ps : List (List Char)) :
    ofPieces true ps = ofPieces false ps ∨ ofPieces true ps = .here :: ofPieces false ps := by
  cases ps with
  | nil => exact Or.inl rfl
  | cons piece ps =>
    rw [ofPieces, ofPieces]
    by_cases hdot : piece = ['.']
    · rw [hdot]
      exact Or.inr rfl
    · have hpiece : Component.ofPiece? true piece = Component.ofPiece? false piece := by
        unfold Component.ofPiece?
        split <;> first | rfl | exact absurd rfl hdot
      rw [hpiece]
      exact Or.inl rfl

theorem here_not_mem_ofPieces_false (ps : List (List Char)) :
    Component.here ∉ ofPieces false ps := by
  induction ps with
  | nil => exact List.not_mem_nil
  | cons piece ps ih =>
    have hpiece : Component.ofPiece? false piece ≠ some .here := by
      unfold Component.ofPiece?
      split <;> simp
    rw [ofPieces, List.mem_append, not_or]
    exact ⟨by simpa [eq_comm] using hpiece, ih⟩

/-- A relative path goes on with all its components but a dot at its start. -/
theorem exists_components_join {base p : Path} (hbase : base.text ≠ "")
    (hp : p.isAbsolute = false) :
    ∃ cs, (base.join p).components = base.components ++ cs ∧ .here ∉ cs ∧
      (p.components = cs ∨ p.components = .here :: cs) := by
  refine ⟨_, components_join hbase hp, here_not_mem_ofPieces_false _, ?_⟩
  rw [components_eq, hp]
  exact ofPieces_true _

/-- A name that an entry of a directory can have. -/
def IsName (name : String) : Prop := name ≠ "" ∧ name ≠ "." ∧ name ≠ ".." ∧ '/' ∉ name.toList

instance (name : String) : Decidable (IsName name) := inferInstanceAs (Decidable (_ ∧ _))

theorem ofPieces_name {name : String} (h : IsName name) (first : Bool) :
    ofPieces first (pieces (· == '/') name.toList) = [.name name] := by
  obtain ⟨hne, hdot, hup, hslash⟩ := h
  have hlist : ∀ s : List Char, name.toList = s → name = String.ofList s := fun s hs => by
    rw [← hs, String.ofList_toList]
  rw [Text.pieces_of_uncut fun c hc => by
    simpa using fun heq : c = '/' => hslash (heq ▸ hc)]
  unfold ofPieces Component.ofPiece?
  split
  · next hnil => exact absurd (hlist _ hnil) hne
  · next hone => exact absurd (hlist _ hone) hdot
  · next htwo => exact absurd (hlist _ htwo) hup
  · simp [ofPieces]

theorem not_isAbsolute_of_isName {name : String} (h : IsName name) :
    isAbsolute ⟨name⟩ = false := by
  unfold isAbsolute isAbsoluteText
  cases hs : name.toList with
  | nil => rfl
  | cons c s =>
    have hc : c ≠ '/' := fun heq => h.2.2.2 (by rw [hs, heq]; exact List.mem_cons_self)
    simpa using hc

/-- A name below a path is one component more. -/
theorem components_join_name (base : Path) {name : String} (h : IsName name) :
    (base.join ⟨name⟩).components = base.components ++ [.name name] := by
  have hrelative := not_isAbsolute_of_isName h
  by_cases hbase : base.text = ""
  · have hjoin : base.join ⟨name⟩ = ⟨name⟩ := by
      unfold join
      rw [if_neg (by simp [hrelative])]
      simp [hbase]
    have hnil : base.components = [] := by
      cases base
      cases hbase
      decide
    rw [hjoin, hnil, components_eq, hrelative, ofPieces_name h]
    rfl
  · rw [components_join hbase hrelative, ofPieces_name h]

/-- A path that goes on with names where another one ends. -/
def Extends (base p : Path) (names : List String) : Prop :=
  p.components = base.components ++ names.map Component.name

instance (base p : Path) (names : List String) : Decidable (Extends base p names) :=
  inferInstanceAs (Decidable (_ = _))

theorem extends_nil (p : Path) : Extends p p [] := (List.append_nil _).symm

theorem extends_of_join {base p : Path} {name : String} (hname : IsName name)
    {names : List String} (h : Extends (base.join ⟨name⟩) p names) :
    Extends base p (name :: names) := by
  unfold Extends at h ⊢
  rw [h, components_join_name base hname, List.append_assoc]
  rfl

/-! ### Order -/

/-- The text of a name, none for the other components. -/
def Component.label : Component → String
  | .name text => text
  | _ => ""

theorem Component.compare_eq_compareLex :
    Component.compare = compareLex (compareOn rank) (compareOn label) := by
  funext c d
  cases c <;> cases d <;> rfl

instance : Std.TransCmp Component.compare := by
  rw [Component.compare_eq_compareLex]
  infer_instance

instance : Std.LawfulEqCmp Component.compare where
  eq_of_compare {c d} h := by
    cases c <;> cases d
    case name.name s t => exact congrArg _ (Std.LawfulEqOrd.eq_of_compare h)
    all_goals first | rfl | cases h

theorem compareComponents_eq_compareLex :
    compareComponents = List.compareLex Component.compare := by
  funext cs ds
  induction cs generalizing ds with
  | nil => cases ds <;> rfl
  | cons c cs ih =>
    cases ds with
    | nil => rfl
    | cons d ds =>
      rw [List.compareLex_cons_cons, ← ih, compareComponents]
      cases c.compare d <;> rfl

instance : Std.TransCmp compareComponents := by
  rw [compareComponents_eq_compareLex]
  infer_instance

instance : Std.LawfulEqCmp compareComponents := by
  rw [compareComponents_eq_compareLex]
  infer_instance

theorem compare_eq_iff {p q : Path} : p.compare q = .eq ↔ p.components = q.components :=
  @Std.LawfulEqCmp.compare_eq_iff_eq _ compareComponents _ _ _

theorem same_iff {p q : Path} : p.same q = true ↔ p.components = q.components := beq_iff_eq

theorem isLE_compare_trans {p q r : Path} (hpq : (p.compare q).isLE = true)
    (hqr : (q.compare r).isLE = true) : (p.compare r).isLE = true :=
  @Std.TransCmp.isLE_trans _ compareComponents _ _ _ _ hpq hqr

theorem isLE_compare_total (p q : Path) :
    ((p.compare q).isLE || (q.compare p).isLE) = true := by
  have hswap : q.compare p = (p.compare q).swap :=
    @Std.OrientedCmp.eq_swap _ compareComponents _ _ _
  rw [hswap]
  cases p.compare q <;> rfl

/-- A path that does not come after a different one comes before it. -/
theorem compare_eq_lt {p q : Path} (hle : (p.compare q).isLE = true)
    (hne : p.components ≠ q.components) : p.compare q = .lt := by
  cases horder : p.compare q with
  | lt => rfl
  | eq => exact absurd (compare_eq_iff.mp horder) hne
  | gt =>
    rw [horder] at hle
    cases hle

theorem compare_lt_trans {p q r : Path} (hpq : p.compare q = .lt) (hqr : q.compare r = .lt) :
    p.compare r = .lt :=
  @Std.TransCmp.lt_trans _ compareComponents _ _ _ _ hpq hqr

/-! ### Parents -/

theorem componentsFrom_cons (first : Bool) (position : Nat) (piece : List Char)
    (ps : List (List Char)) :
    componentsFrom first position (piece :: ps) =
      (Component.ofPiece? first piece).toList.map (·, position + piece.length) ++
        componentsFrom false (position + piece.length + 1) ps := by
  rw [componentsFrom]
  cases Component.ofPiece? first piece <;> rfl

theorem componentsFrom_uncut {s : List Char} (hs : ∀ c ∈ s, (c == '/') = false) (first : Bool)
    (position : Nat) :
    componentsFrom first position (pieces (· == '/') s) =
      (Component.ofPiece? first s).toList.map (·, position + s.length) := by
  rw [Text.pieces_of_uncut hs, componentsFrom_cons]
  exact List.append_nil _

theorem componentsFrom_append_cut {s : List Char} (hs : ∀ c ∈ s, (c == '/') = false) (first : Bool)
    (position : Nat) (t : List Char) :
    componentsFrom first position (pieces (· == '/') (s ++ '/' :: t)) =
      (Component.ofPiece? first s).toList.map (·, position + s.length) ++
        componentsFrom false (position + s.length + 1) (pieces (· == '/') t) := by
  have hcut : pieces (· == '/') (s ++ '/' :: t) = s :: pieces (· == '/') t := by
    rw [Text.pieces_append_cut rfl, Text.pieces_of_uncut hs]
    rfl
  rw [hcut, componentsFrom_cons]

theorem take_append_cut {s t : List Char} {position stop : Nat}
    (h : position + s.length + 1 ≤ stop) :
    (s ++ '/' :: t).take (stop - position) =
      s ++ '/' :: t.take (stop - (position + s.length + 1)) := by
  obtain ⟨k, rfl⟩ := Nat.exists_eq_add_of_le h
  have hwhole : position + s.length + 1 + k - position = s.length + (k + 1) := by omega
  rw [hwhole, List.take_length_add_append, List.take_succ_cons, Nat.add_sub_cancel_left]

/-- What the first piece stands for ends with the piece. -/
theorem componentsFrom_take_first {first : Bool} {s : List Char} {c : Component}
    (hs : ∀ c ∈ s, (c == '/') = false) (hpiece : Component.ofPiece? first s = some c)
    (position : Nat) (t : List Char) :
    componentsFrom first position
        (pieces (· == '/') ((s ++ t).take (position + s.length - position))) =
      [(c, position + s.length)] := by
  rw [Nat.add_sub_cancel_left, List.take_left, componentsFrom_uncut hs, hpiece]
  rfl

/-- Cutting a text where a component ends keeps that component and those before it. -/
theorem componentsFrom_take {first : Bool} {position : Nat} {s : List Char}
    {before after : List (Component × Nat)} {c : Component} {stop : Nat}
    (h : componentsFrom first position (pieces (· == '/') s) = before ++ (c, stop) :: after) :
    position ≤ stop ∧
      componentsFrom first position (pieces (· == '/') (s.take (stop - position))) =
        before ++ [(c, stop)] := by
  induction s using @Text.cut_induction (· == '/') generalizing first position before with
  | uncut s hs =>
    rw [componentsFrom_uncut hs] at h
    cases hpiece : Component.ofPiece? first s with
    | none => simp [hpiece] at h
    | some d =>
      rw [hpiece] at h
      cases before with
      | nil =>
        obtain ⟨rfl, rfl⟩ := Prod.mk.inj (List.cons.inj h).1
        have hcut := componentsFrom_take_first hs hpiece position []
        rw [List.append_nil] at hcut
        exact ⟨Nat.le_add_right _ _, hcut⟩
      | cons e before => simp at h
  | append_cut s slash t hs hslash ih =>
    obtain rfl := eq_of_beq hslash
    rw [componentsFrom_append_cut hs] at h
    cases hpiece : Component.ofPiece? first s with
    | none =>
      rw [hpiece] at h
      obtain ⟨hle, htake⟩ := ih h
      refine ⟨by omega, ?_⟩
      rw [take_append_cut hle, componentsFrom_append_cut hs, hpiece, htake]
      rfl
    | some d =>
      rw [hpiece] at h
      cases before with
      | nil =>
        obtain ⟨rfl, rfl⟩ := Prod.mk.inj (List.cons.inj h).1
        exact ⟨Nat.le_add_right _ _, componentsFrom_take_first hs hpiece position _⟩
      | cons e before =>
        obtain ⟨rfl, hrest⟩ := List.cons.inj h
        obtain ⟨hle, htake⟩ := ih hrest
        refine ⟨by omega, ?_⟩
        rw [take_append_cut hle, componentsFrom_append_cut hs, hpiece, htake]
        rfl

theorem root_not_mem_ofPieces (first : Bool) (ps : List (List Char)) :
    Component.root ∉ ofPieces first ps := by
  induction ps generalizing first with
  | nil => exact List.not_mem_nil
  | cons piece ps ih =>
    have hpiece : Component.ofPiece? first piece ≠ some .root := by
      unfold Component.ofPiece?
      repeat' split
      all_goals simp
    rw [ofPieces, List.mem_append, not_or]
    exact ⟨by simpa [eq_comm] using hpiece, ih false⟩

theorem marked_of_relative {p : Path} (h : p.isAbsolute = false) :
    p.marked = componentsFrom true 0 (pieces (· == '/') p.text.toList) := by
  unfold isAbsolute at h
  simp [marked, h]

theorem marked_of_absolute {p : Path} (h : p.isAbsolute = true) :
    p.marked = (.root, 1) :: componentsFrom false 0 (pieces (· == '/') p.text.toList) := by
  unfold isAbsolute at h
  simp [marked, h]

theorem components_empty : components ⟨""⟩ = [] := by decide

theorem components_slash : components ⟨"/"⟩ = [.root] := by decide

/-- The text up to the end of a component has that component as its last one. -/
theorem components_take {p : Path} {before after : List (Component × Nat)} {c : Component}
    {stop : Nat} (h : p.marked = before ++ (c, stop) :: after) :
    components ⟨String.ofList (p.text.toList.take stop)⟩ = before.map (·.1) ++ [c] := by
  have hhead : isAbsolute ⟨String.ofList (p.text.toList.take stop)⟩ =
      (decide (stop ≠ 0) && p.isAbsolute) := by
    unfold isAbsolute isAbsoluteText
    rw [String.toList_ofList, List.head?_take]
    by_cases hstop : stop = 0 <;> simp [hstop]
  unfold components
  cases hroot : p.isAbsolute with
  | false =>
    rw [marked_of_relative hroot] at h
    have hkept := (componentsFrom_take h).2
    rw [hroot, Bool.and_false] at hhead
    rw [marked_of_relative hhead, String.toList_ofList, ← Nat.sub_zero stop, hkept,
      List.map_append]
    rfl
  | true =>
    rw [marked_of_absolute hroot] at h
    cases before with
    | nil =>
      obtain ⟨rfl, rfl⟩ := Prod.mk.inj (List.cons.inj h).1
      unfold isAbsolute isAbsoluteText at hroot
      cases htext : p.text.toList with
      | nil => simp [htext] at hroot
      | cons slash t =>
        obtain rfl : slash = '/' := by simpa [htext] using hroot
        exact components_slash
    | cons e before =>
      obtain ⟨rfl, hrest⟩ := List.cons.inj h
      have hkept := (componentsFrom_take hrest).2
      rw [Nat.sub_zero] at hkept
      have hstop : stop ≠ 0 := by
        rintro rfl
        have hnil : before ++ [(c, 0)] = [] := hkept.symm
        simp at hnil
      rw [hroot, decide_eq_true hstop, Bool.and_true] at hhead
      rw [marked_of_absolute hhead, String.toList_ofList, hkept, List.map_cons, List.map_append]
      rfl

/-- The parent of a path has all its components but the last one. -/
theorem components_parent? {p d : Path} (h : p.parent? = some d) :
    d.components = p.components.dropLast := by
  unfold parent? at h
  split at h
  · cases h
  · cases h
  · next e hroot hsingle =>
    obtain rfl := Option.some.inj h
    have hmarked : p.marked = [e] := List.reverse_eq_cons_iff.mp hsingle
    rw [components_empty, components, hmarked]
    rfl
  · next e c stop rest hroot hends =>
    obtain rfl := Option.some.inj h
    have hmarked : p.marked = rest.reverse ++ (c, stop) :: [e] := by
      have hreverse := List.reverse_eq_cons_iff.mp hends
      rwa [List.reverse_cons, List.append_assoc] at hreverse
    have hall : p.components = (rest.reverse.map (·.1) ++ [c]) ++ [e.1] := by
      rw [components, hmarked, List.map_append, List.append_assoc]
      rfl
    rw [components_take hmarked, hall, List.dropLast_concat]

/-- Only a root and the empty path have no parent. -/
theorem dropLast_components_of_parent?_eq_none {p : Path} (h : p.parent? = none) :
    p.components.dropLast = [] := by
  unfold parent? at h
  split at h
  · next hends =>
    have hmarked : p.marked = [] := List.reverse_eq_nil_iff.mp hends
    rw [components, hmarked]
    rfl
  · next stop rest hends =>
    have hlast : p.components = rest.reverse.map (·.1) ++ [.root] := by
      rw [components, List.reverse_eq_cons_iff.mp hends, List.map_append]
      rfl
    -- A root only stands at the front.
    have hmem : Component.root ∉ p.components.tail := by
      rw [components_eq]
      split
      · exact root_not_mem_ofPieces _ _
      · exact fun hmem => root_not_mem_ofPieces _ _ (List.mem_of_mem_tail hmem)
    rw [hlast] at hmem
    rw [hlast, List.dropLast_concat]
    cases hrest : rest.reverse.map (·.1) with
    | nil => rfl
    | cons c cs => exact absurd (by simp) (hrest ▸ hmem)
  · cases h
  · cases h

theorem getD_fileName? (p : Path) :
    p.fileName?.getD "" = (p.components.getLast?.map Component.label).getD "" := by
  unfold fileName?
  cases p.components.getLast? with
  | none => rfl
  | some c => cases c <;> rfl

end Path

end SopDocs
