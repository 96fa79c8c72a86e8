import SopDocs.Proofs.Json.Number

/-!
# Parts between commas

The items of a list and the members of an object are parts with commas between them, up to a closing
character. Reading them is reading one after the other: if what is read of one part is written in
its place, this is so of all of them, and parts that are read by themselves are read together.
-/

namespace SopDocs.Json

/-- Parts with white space around them and commas between them, up to a closing character. -/
inductive Parts {α : Type} (closing : Char) (written : α → List Char → Prop) :
    Bool → List α → List Char → Prop where
  | close {first : Bool} {w : List Char} (hw : Blank w) :
      Parts closing written first [] (w ++ [closing])
  | part {first : Bool} {l s t : List Char} {a : α} {as : List α} (hlead : Lead first l)
      (hpart : written a s) (hparts : Parts closing written false as t) :
      Parts closing written first (a :: as) (l ++ (s ++ t))

/-- The ways to write a member, given those to write its key and its value. -/
inductive MemberText (key value : List Char → Prop) : List Char → Prop where
  | mk {k v w s : List Char} (hkey : key k) (hv : Blank v) (hw : Blank w) (hvalue : value s) :
      MemberText key value ('"' :: (k ++ '"' :: (v ++ ':' :: (w ++ s))))

variable {α β σ μ : Type} {closing : Char} {first : Bool} {fuel : Nat} {s r t w l : List Char}

/-! ### White space and what ends a part -/

theorem Blank.append {v w : List Char} (hv : Blank v) (hw : Blank w) : Blank (v ++ w) :=
  fun c hc => (List.mem_append.mp hc).elim (hv c) (hw c)

theorem Lead.append (h : Lead first l) (hw : Blank w) : Lead first (l ++ w) := by
  cases h with
  | first hv => exact .first (hv.append hw)
  | later hu hv =>
    rw [List.append_assoc, List.cons_append]
    exact .later hu (hv.append hw)

theorem ends_of_blank (hw : Blank w) (hr : Ends r) : Ends (w ++ r) := by
  cases w with
  | nil => exact hr
  | cons c w =>
    rintro _ ⟨⟩
    have hc := hw c List.mem_cons_self
    simp only [List.mem_cons, List.not_mem_nil, or_false] at hc
    rcases hc with rfl | rfl | rfl | rfl <;> decide

theorem Blank.ends (hw : Blank w) : Ends w := by
  have hnil : Ends [] := by simp [Ends]
  simpa using ends_of_blank hw hnil

theorem ends_of_blank_cons {c : Char} (hw : Blank w)
    (hc : c.isDigit = false ∧ c ≠ '.' ∧ isExponentMark c = false) (r : List Char) :
    Ends (w ++ c :: r) := by
  refine ends_of_blank hw ?_
  rintro _ ⟨⟩
  exact hc

namespace Parts

variable {written p : α → List Char → Prop} {q : β → List Char → Prop} {as : List α}

/-- Behind a part stands nothing that a number goes on with. -/
theorem ends (h : Parts closing written false as t) (hclosing : closing = ']' ∨ closing = '\x7d')
    (r : List Char) : Ends (t ++ r) := by
  have hend : closing.isDigit = false ∧ closing ≠ '.' ∧ isExponentMark closing = false := by
    rcases hclosing with rfl | rfl <;> decide
  cases h with
  | close hw =>
    rw [List.append_assoc]
    exact ends_of_blank_cons hw hend r
  | part hlead hpart hparts =>
    cases hlead with
    | later hv hw =>
      rw [List.append_assoc, List.append_assoc]
      exact ends_of_blank_cons hv (by decide) _

theorem length_pos (h : Parts closing p first as t) : 0 < t.length := by
  induction h with
  | close hw => simp
  | part hlead hpart hparts ih =>
    simp only [List.length_append]
    omega

/-- Parts that can be told in another way, one by one, can all be told so. -/
theorem exists_forall₂ {R : α → β → Prop} (h : Parts closing p first as t)
    (hpart : ∀ a ∈ as, ∀ {s}, s.length < t.length → p a s → ∃ b, R a b ∧ q b s) :
    ∃ bs, List.Forall₂ R as bs ∧ Parts closing q first bs t := by
  induction h with
  | close hw => exact ⟨[], .nil, .close hw⟩
  | @part first l s t a as hlead ha hparts ih =>
    have hpos := hparts.length_pos
    simp only [List.length_append] at hpart
    obtain ⟨b, hab, hb⟩ := hpart a List.mem_cons_self (by omega) ha
    obtain ⟨bs, hbs, ht⟩ := ih fun a' ha' _ hs hp =>
      hpart a' (List.mem_cons_of_mem a ha') (by omega) hp
    exact ⟨b :: bs, .cons hab hbs, .part hlead hb ht⟩

/-- What holds of each part and what it is told as is written in its place. -/
theorem of_forall₂ {R : α → β → Prop} {bs : List β} (h : Parts closing p first as t)
    (hrel : List.Forall₂ R as bs) (hpart : ∀ {a b s}, R a b → p a s → q b s) :
    Parts closing q first bs t := by
  induction h generalizing bs with
  | close hw =>
    cases hrel
    exact .close hw
  | part hlead ha hparts ih =>
    cases hrel with
    | cons hab hrest => exact .part hlead (hpart hab ha) (ih hrest)

end Parts

/-! ### Items -/

section Items

variable {item : List Char → Except Fault (α × List Char)} {done as : List α}

/-- One step over items is at their end or reads one of them. -/
theorem readItems_eq_ok (h : readItems item (fuel + 1) first done s = .ok (as, r)) :
    (∃ w, Blank w ∧ s = w ++ ']' :: r ∧ as = done.reverse) ∨
      ∃ l rest a left, Lead first l ∧ s = l ++ rest ∧ item rest = .ok (a, left) ∧
        readItems item fuel false (a :: done) left = .ok (as, r) := by
  obtain ⟨space, hspace, hs⟩ := exists_blank_append_skipSpace s
  rw [readItems] at h
  split at h
  · cases h
  · next rest heq =>
    obtain ⟨rfl, rfl⟩ := Prod.mk.inj (Except.ok.inj h)
    exact .inl ⟨space, hspace, by rw [hs, heq], rfl⟩
  · next c rest hne heq =>
    have hitem : ∀ {l start : List Char}, Lead first l → s = l ++ start →
        (item start >>= fun p => readItems item fuel false (p.1 :: done) p.2) = .ok (as, r) →
        ∃ l rest a left, Lead first l ∧ s = l ++ rest ∧ item rest = .ok (a, left) ∧
          readItems item fuel false (a :: done) left = .ok (as, r) := by
      intro l start hlead hs hread
      obtain ⟨⟨a, left⟩, ha, hleft⟩ := bind_eq_ok.mp hread
      exact ⟨l, start, a, left, hlead, hs, ha, hleft⟩
    refine .inr ?_
    simp only at h
    split at h
    · next hfirst =>
      subst hfirst
      exact hitem (.first hspace) (by rw [hs, heq]) h
    · next hfirst =>
      obtain rfl := Bool.eq_false_of_not_eq_true hfirst
      split at h
      · next hcomma =>
        obtain ⟨behind, hbehind, hrest⟩ := exists_blank_append_skipSpace rest
        split at h
        · cases h
        · cases h
        · refine hitem (.later hspace hbehind) ?_ h
          rw [hs, heq, hcomma, List.append_assoc, List.cons_append, ← hrest]
      · cases h

/-- What is read as items is written part by part. -/
theorem parts_of_readItems {p : α → List Char → Prop}
    (hitem : ∀ {s a r}, item s = .ok (a, r) →
      ∃ w t, Blank w ∧ p a t ∧ s = w ++ (t ++ r))
    (h : readItems item fuel first done s = .ok (as, r)) :
    ∃ new t, Parts ']' p first new t ∧ as = done.reverse ++ new ∧ s = t ++ r := by
  induction fuel generalizing first done s with
  | zero => cases h
  | succ fuel ih =>
    rcases readItems_eq_ok h with ⟨w, hw, rfl, rfl⟩ | ⟨l, rest, a, left, hlead, rfl, ha, hnext⟩
    · exact ⟨[], w ++ [']'], .close hw, by simp, by simp⟩
    · obtain ⟨w, t, hw, hpart, rfl⟩ := hitem ha
      obtain ⟨new, t', hparts, rfl, rfl⟩ := ih hnext
      exact ⟨a :: new, (l ++ w) ++ (t ++ t'), .part (hlead.append hw) hpart hparts, by simp,
        by simp⟩

theorem readItems_close (hw : Blank w) (done : List α) (r : List Char) :
    readItems item (fuel + 1) first done (w ++ ']' :: r) = .ok (done.reverse, r) := by
  rw [readItems, skipSpace_append hw, skipSpace_cons (by decide)]
  rfl

theorem readItems_item {c : Char} (hlead : Lead first l) (hspace : isSpace c = false)
    (hclose : c ≠ ']') (done : List α) (s : List Char) :
    readItems item (fuel + 1) first done (l ++ c :: s) =
      (item (c :: s) >>= fun p => readItems item fuel false (p.1 :: done) p.2) := by
  cases hlead with
  | first hw =>
    rw [readItems, skipSpace_append hw, skipSpace_cons hspace]
    split
    · next heq => cases heq
    · next heq => exact absurd (List.cons.inj heq).1 hclose
    · next heq =>
      obtain ⟨rfl, rfl⟩ := List.cons.inj heq
      rfl
  | later hv hw =>
    rw [readItems, List.append_assoc, skipSpace_append hv, List.cons_append,
      skipSpace_cons (by decide)]
    split
    · next heq => cases heq
    · next heq => exact absurd (List.cons.inj heq).1 (by decide)
    · next heq =>
      obtain ⟨rfl, rfl⟩ := List.cons.inj heq
      simp only [Bool.false_eq_true, if_false, if_true, skipSpace_append hw, skipSpace_cons hspace]
      split
      · next heq => cases heq
      · next heq => exact absurd (List.cons.inj heq).1 hclose
      · rfl

/-- Whether a text is read as an item, whatever stands behind it that is no part of it. -/
structure ReadAs (item : List Char → Except Fault (α × List Char)) (a : α) (s : List Char) :
    Prop where
  start : ∃ c rest, s = c :: rest ∧ isSpace c = false ∧ c ≠ ']'
  read : ∀ {r}, Ends r → item (s ++ r) = .ok (a, r)

/-- Items that are read one by one are read in a list. -/
theorem readItems_of_parts (h : Parts ']' (ReadAs item) first as t) (hfuel : t.length < fuel)
    (done : List α) (r : List Char) :
    readItems item fuel first done (t ++ r) = .ok (done.reverse ++ as, r) := by
  induction h generalizing fuel done with
  | close hw =>
    obtain ⟨fuel, rfl⟩ := Nat.exists_eq_add_one_of_ne_zero (Nat.ne_zero_of_lt hfuel)
    rw [List.append_assoc, List.append_nil]
    exact readItems_close hw done r
  | @part first l s t a as hlead hpart hparts ih =>
    obtain ⟨fuel, rfl⟩ := Nat.exists_eq_add_one_of_ne_zero (Nat.ne_zero_of_lt hfuel)
    obtain ⟨⟨c, more, rfl, hspace, hclose⟩, hread⟩ := hpart
    simp only [List.length_append, List.length_cons] at hfuel
    have hmore : t.length < fuel := by omega
    have hitem : item (c :: (more ++ (t ++ r))) = .ok (a, t ++ r) := by
      simpa using hread (hparts.ends (.inl rfl) r)
    have htext : l ++ (c :: more ++ t) ++ r = l ++ c :: (more ++ (t ++ r)) := by simp
    rw [htext, readItems_item hlead hspace hclose, hitem]
    exact (ih hmore (a :: done)).trans (by rw [List.reverse_cons, List.append_assoc]; rfl)

end Items

/-! ### Members -/

/-- Steps for members one after the other, from what there was before them to what they come to. -/
inductive Folds (step : σ → μ → σ → Prop) : σ → List μ → σ → Prop where
  | nil (done : σ) : Folds step done [] done
  | cons {done next result : σ} {m : μ} {ms : List μ} (hstep : step done m next)
      (hsteps : Folds step next ms result) : Folds step done (m :: ms) result

theorem folds_foldl (add : σ → μ → σ) (done : σ) (ms : List μ) :
    Folds (fun done m next => next = add done m) done ms (ms.foldl add done) := by
  induction ms generalizing done with
  | nil => exact .nil done
  | cons m ms ih => exact .cons rfl (ih _)

theorem Folds.eq_foldl {add : σ → μ → σ} {done result : σ} {ms : List μ}
    (h : Folds (fun done m next => next = add done m) done ms result) :
    result = ms.foldl add done := by
  induction h with
  | nil done => rfl
  | cons hstep _ ih =>
    subst hstep
    exact ih

section Members

variable {member : σ → List Char → Except Fault (σ × List Char)} {done result : σ}

/-- One step over members is at their end or reads one of them. -/
theorem readMembers_eq_ok (h : readMembers member (fuel + 1) first done s = .ok (result, r)) :
    (∃ w, Blank w ∧ s = w ++ '\x7d' :: r ∧ result = done) ∨
      ∃ l rest next left, Lead first l ∧ s = l ++ '"' :: rest ∧
        member done rest = .ok (next, left) ∧
        readMembers member fuel false next left = .ok (result, r) := by
  obtain ⟨space, hspace, hs⟩ := exists_blank_append_skipSpace s
  rw [readMembers] at h
  split at h
  · cases h
  · next rest heq =>
    obtain ⟨rfl, rfl⟩ := Prod.mk.inj (Except.ok.inj h)
    exact .inl ⟨space, hspace, by rw [hs, heq], rfl⟩
  · next c rest hne heq =>
    have hmember : ∀ {l start : List Char}, Lead first l → s = l ++ '"' :: start →
        (member done start >>= fun p => readMembers member fuel false p.1 p.2) =
          .ok (result, r) →
        ∃ l rest next left, Lead first l ∧ s = l ++ '"' :: rest ∧
          member done rest = .ok (next, left) ∧
          readMembers member fuel false next left = .ok (result, r) := by
      intro l start hlead hs hread
      obtain ⟨⟨next, left⟩, hnext, hleft⟩ := bind_eq_ok.mp hread
      exact ⟨l, start, next, left, hlead, hs, hnext, hleft⟩
    refine .inr ?_
    simp only at h
    split at h
    · next hfirst =>
      subst hfirst
      split at h
      · next hquote => exact hmember (.first hspace) (by rw [hs, heq, hquote]) h
      · cases h
    · next hfirst =>
      obtain rfl := Bool.eq_false_of_not_eq_true hfirst
      split at h
      · next hcomma =>
        obtain ⟨behind, hbehind, hrest⟩ := exists_blank_append_skipSpace rest
        split at h
        · cases h
        · next hquote =>
          refine hmember (.later hspace hbehind) ?_ h
          rw [hs, heq, hcomma, List.append_assoc, List.cons_append, ← hquote, ← hrest]
        · cases h
        · cases h
      · cases h

/-- What is read as members is written part by part. -/
theorem parts_of_readMembers {p : μ → List Char → Prop} {f : σ → μ → σ → Prop}
    (hmember : ∀ {done s next r}, member done s = .ok (next, r) →
      ∃ m t, f done m next ∧ p m ('"' :: t) ∧ s = t ++ r)
    (h : readMembers member fuel first done s = .ok (result, r)) :
    ∃ ms t, Parts '\x7d' p first ms t ∧ Folds f done ms result ∧ s = t ++ r := by
  induction fuel generalizing first done s with
  | zero => cases h
  | succ fuel ih =>
    rcases readMembers_eq_ok h with ⟨w, hw, rfl, rfl⟩ | ⟨l, rest, next, left, hlead, rfl, hm, hnext⟩
    · exact ⟨[], w ++ ['\x7d'], .close hw, .nil _, by simp⟩
    · obtain ⟨m, t, hstep, hpart, rfl⟩ := hmember hm
      obtain ⟨ms, t', hparts, hfolds, rfl⟩ := ih hnext
      exact ⟨m :: ms, _, .part hlead hpart hparts, .cons hstep hfolds, by simp⟩

theorem readMembers_close (hw : Blank w) (done : σ) (r : List Char) :
    readMembers member (fuel + 1) first done (w ++ '\x7d' :: r) = .ok (done, r) := by
  rw [readMembers, skipSpace_append hw, skipSpace_cons (by decide)]
  rfl

theorem readMembers_member (hlead : Lead first l) (done : σ) (s : List Char) :
    readMembers member (fuel + 1) first done (l ++ '"' :: s) =
      (member done s >>= fun p => readMembers member fuel false p.1 p.2) := by
  cases hlead with
  | first hw =>
    rw [readMembers, skipSpace_append hw, skipSpace_cons (by decide)]
    split
    · next heq => cases heq
    · next heq => exact absurd (List.cons.inj heq).1 (by decide)
    · next heq =>
      obtain ⟨rfl, rfl⟩ := List.cons.inj heq
      rfl
  | later hv hw =>
    rw [readMembers, List.append_assoc, skipSpace_append hv, List.cons_append,
      skipSpace_cons (by decide)]
    split
    · next heq => cases heq
    · next heq => exact absurd (List.cons.inj heq).1 (by decide)
    · next heq =>
      obtain ⟨rfl, rfl⟩ := List.cons.inj heq
      have hquote : skipSpace ('"' :: s) = '"' :: s := skipSpace_cons (by decide) s
      simp only [Bool.false_eq_true, if_false, if_true, skipSpace_append hw, hquote]
      rfl

/-- Members that are read one by one are read in an object. -/
theorem readMembers_of_parts {p : μ → List Char → Prop} {f : σ → μ → σ → Prop}
    {ms : List μ} (h : Parts '\x7d' p first ms t) (hfolds : Folds f done ms result)
    (hmember : ∀ {done m next s}, f done m next → p m s →
      ∃ t, s = '"' :: t ∧ ∀ {r}, Ends r → member done (t ++ r) = .ok (next, r))
    (hfuel : t.length < fuel) (r : List Char) :
    readMembers member fuel first done (t ++ r) = .ok (result, r) := by
  induction h generalizing fuel done with
  | close hw =>
    obtain ⟨fuel, rfl⟩ := Nat.exists_eq_add_one_of_ne_zero (Nat.ne_zero_of_lt hfuel)
    cases hfolds
    rw [List.append_assoc]
    exact readMembers_close hw _ r
  | @part first l s t m ms hlead hpart hparts ih =>
    obtain ⟨fuel, rfl⟩ := Nat.exists_eq_add_one_of_ne_zero (Nat.ne_zero_of_lt hfuel)
    cases hfolds with
    | @cons _ next _ _ _ hstep hfolds =>
      obtain ⟨start, rfl, hread⟩ := hmember hstep hpart
      simp only [List.length_append, List.length_cons] at hfuel
      have hmore : t.length < fuel := by omega
      have htext : l ++ ('"' :: start ++ t) ++ r = l ++ '"' :: (start ++ (t ++ r)) := by simp
      rw [htext, readMembers_member hlead, hread (hparts.ends (.inr rfl) r)]
      exact ih hfolds hmore

/-- The colon behind a key may stand after white space. -/
theorem readColon_eq_ok_iff : readColon s = .ok r ↔ ∃ v, Blank v ∧ s = v ++ ':' :: r := by
  unfold readColon
  constructor
  · intro h
    obtain ⟨v, hv, hs⟩ := exists_blank_append_skipSpace s
    split at h
    · cases h
    · next heq =>
      obtain rfl := Except.ok.inj h
      exact ⟨v, hv, by rw [hs, heq]⟩
    · cases h
  · rintro ⟨v, hv, rfl⟩
    rw [skipSpace_append hv, skipSpace_cons (by decide)]
    rfl

end Members

end SopDocs.Json
