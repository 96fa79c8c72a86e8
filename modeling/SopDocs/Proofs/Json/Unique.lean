import SopDocs.Proofs.Json.Document
import SopDocs.Proofs.Text.Slice

/-!
# A text says one term

The grammar is unambiguous: two terms that one text starts with are equal, and so is what stands
behind them, if that does not go on with a number. Of a string this follows from the reader, which
reads all ways to write it; terms are not all read, so that for them it is proved of the grammar.
-/

namespace SopDocs.Json

variable {r r' s s' t t' : List Char} {first : Bool} {term term' : Term}

/-! ### Numbers -/

theorem digits_inj {ds ds' : List Char} (hds : ∀ c ∈ ds, c.isDigit = true)
    (hds' : ∀ c ∈ ds', c.isDigit = true) (hr : NoDigit r) (hr' : NoDigit r')
    (h : ds ++ r = ds' ++ r') : ds = ds' ∧ r = r' := by
  have hrun := Text.eq_takeWhile_iff.mpr ⟨r, rfl, hds, hr⟩
  have hrun' := Text.eq_takeWhile_iff.mpr ⟨r', h, hds', hr'⟩
  obtain rfl := hrun.trans hrun'.symm
  exact ⟨rfl, List.append_cancel_left h⟩

theorem sign_inj {sign sign' : Option Char} (hsign : ∀ c ∈ sign, c ∈ ['+', '-'])
    (hsign' : ∀ c ∈ sign', c ∈ ['+', '-']) {ds ds' : List Char} (hds : Digits ds)
    (hds' : Digits ds') (h : sign.toList ++ (ds ++ r) = sign'.toList ++ (ds' ++ r')) :
    sign = sign' ∧ ds ++ r = ds' ++ r' := by
  have hclash : ∀ {c : Char} {ds r s : List Char}, Digits ds → c ∈ ['+', '-'] →
      ds ++ r ≠ c :: s := by
    intro c ds r s hds hc heq
    obtain ⟨d, more, rfl⟩ := List.exists_cons_of_ne_nil hds.1
    obtain rfl : d = c := (List.cons.inj heq).1
    have hd := hds.2 d List.mem_cons_self
    simp only [List.mem_cons, List.not_mem_nil, or_false] at hc
    rcases hc with rfl | rfl <;> exact absurd hd (by decide)
  cases sign with
  | none =>
    cases sign' with
    | none => exact ⟨rfl, h⟩
    | some c =>
      have h : ds ++ r = c :: (ds' ++ r') := h
      exact absurd h (hclash hds (hsign' c rfl))
  | some c =>
    cases sign' with
    | none =>
      have h : c :: (ds ++ r) = ds' ++ r' := h
      exact absurd h.symm (hclash hds' (hsign c rfl))
    | some c' =>
      obtain ⟨rfl, hrest⟩ := List.cons.inj h
      exact ⟨rfl, hrest⟩

/-- The exponent of a number is determined by the text it starts. -/
theorem exponentPart_inj {e e' : Option Exponent} (hr : Ends r) (hr' : Ends r')
    (h : exponentPart e ++ r = exponentPart e' ++ r') : e = e' ∧ r = r' := by
  have hclash : ∀ {e : Exponent} {r r' : List Char}, Ends r → r ≠ exponentPart (some e) ++ r' := by
    rintro e _ r' hr rfl
    exact absurd (isExponentMark_mark e) (by simp [(hr e.mark rfl).2.2])
  cases e with
  | none =>
    cases e' with
    | none => exact ⟨rfl, h⟩
    | some e' => exact absurd h (hclash hr)
  | some e =>
    cases e' with
    | none => exact absurd h.symm (hclash hr')
    | some e' =>
      obtain ⟨mark, sign, ds, hmark, hsign, hds⟩ := e
      obtain ⟨mark', sign', ds', hmark', hsign', hds'⟩ := e'
      obtain ⟨rfl, hrest⟩ := List.cons.inj h
      obtain ⟨rfl, hdigits⟩ := sign_inj hsign hsign' hds hds' (by simpa using hrest)
      obtain ⟨rfl, rfl⟩ :=
        digits_inj hds.2 hds'.2 (noDigit_of_ends hr) (noDigit_of_ends hr') hdigits
      exact ⟨rfl, rfl⟩

/-- The fraction of a number is determined by the text it starts. -/
theorem fractionText_inj {f f' : Option (List Char)} (hf : ∀ ds ∈ f, Digits ds)
    (hf' : ∀ ds ∈ f', Digits ds) (hnext : ∀ c, s.head? = some c → c.isDigit = false ∧ c ≠ '.')
    (hother : ∀ c, s'.head? = some c → c.isDigit = false ∧ c ≠ '.')
    (h : fractionText f ++ s = fractionText f' ++ s') : f = f' ∧ s = s' := by
  cases f with
  | none =>
    cases f' with
    | none => exact ⟨rfl, h⟩
    | some ds' => exact absurd rfl (hnext '.' (congrArg List.head? h)).2
  | some ds =>
    cases f' with
    | none => exact absurd rfl (hother '.' (congrArg List.head? h).symm).2
    | some ds' =>
      obtain ⟨rfl, rfl⟩ := digits_inj (hf ds rfl).2 (hf' ds' rfl).2
        (fun c hc => (hnext c hc).1) (fun c hc => (hother c hc).1) (List.cons.inj h).2
      exact ⟨rfl, rfl⟩

namespace Numeral

variable {n n' : Numeral}

theorem unsignedText_inj (hsign : n.negative = n'.negative) (hr : Ends r) (hr' : Ends r')
    (h : n.unsignedText ++ r = n'.unsignedText ++ r') : n = n' ∧ r = r' := by
  obtain ⟨negative, whole, f, e, hwhole, hzero, hf⟩ := n
  obtain ⟨negative', whole', f', e', hwhole', hzero', hf'⟩ := n'
  simp only [unsignedText, List.append_assoc] at h
  obtain ⟨rfl, htail⟩ :=
    digits_inj hwhole.2 hwhole'.2 (noDigit_tail f hr) (noDigit_tail f' hr') h
  obtain ⟨rfl, hexponent⟩ := fractionText_inj hf hf' (fun c => head_exponentPart hr)
    (fun c => head_exponentPart hr') htail
  obtain ⟨rfl, rfl⟩ := exponentPart_inj hr hr' hexponent
  obtain rfl : negative = negative' := hsign
  exact ⟨rfl, rfl⟩

/-- A number is negative exactly if its text starts with a minus sign. -/
theorem exists_negative_iff (n : Numeral) :
    ∃ c s, n.text = c :: s ∧ (n.negative = true ↔ c = '-') := by
  obtain ⟨c, s, htext, hc⟩ := n.exists_cons_text
  refine ⟨c, s, htext, ?_⟩
  split at hc
  · next hsign => exact iff_of_true hsign hc
  · next hsign =>
    refine iff_of_false hsign ?_
    rintro rfl
    exact absurd hc (by decide)

/-- A number is determined by the text it starts. -/
theorem text_inj (hr : Ends r) (hr' : Ends r') (h : n.text ++ r = n'.text ++ r') :
    n = n' ∧ r = r' := by
  obtain ⟨c, s, htext, hc⟩ := n.exists_negative_iff
  obtain ⟨c', s', htext', hc'⟩ := n'.exists_negative_iff
  have hsame : c = c' := by
    rw [htext, htext'] at h
    exact (List.cons.inj h).1
  subst hsame
  have hsign : n.negative = n'.negative := Bool.eq_iff_iff.mpr (hc.trans hc'.symm)
  have hunsigned : n.unsignedText ++ r = n'.unsignedText ++ r' := by
    simpa [text, hsign] using h
  exact unsignedText_inj hsign hr hr' hunsigned

end Numeral

/-! ### Strings and white space -/

/-- A string is determined by the text up to its closing quote. -/
theorem writtenText_inj {text text' : String} (h : WrittenText text.toList t)
    (h' : WrittenText text'.toList t') (heq : t ++ '"' :: r = t' ++ '"' :: r') :
    text = text' ∧ r = r' := by
  have hread := readString_of_writtenText h (by omega : t.length < t.length + t'.length + 1) r
  have hread' := readString_of_writtenText h' (by omega : t'.length < t.length + t'.length + 1) r'
  rw [heq, hread'] at hread
  obtain ⟨htext, hrest⟩ := Prod.mk.inj (Except.ok.inj hread)
  exact ⟨htext.symm, hrest.symm⟩

/-- What stands behind white space is determined, if it starts with something else. -/
theorem blank_inj {v w : List Char} {c d : Char} (hv : Blank v) (hw : Blank w)
    (hc : isSpace c = false) (hd : isSpace d = false) (h : v ++ c :: s = w ++ d :: s') :
    c :: s = d :: s' := by
  have hskip := congrArg skipSpace h
  rwa [skipSpace_append hv, skipSpace_append hw, skipSpace_cons hc, skipSpace_cons hd] at hskip

/-- What stands behind the lead of an item or a member is determined. -/
theorem lead_inj {l l' : List Char} {c d : Char} (hl : Lead first l) (hl' : Lead first l')
    (hc : isSpace c = false) (hd : isSpace d = false) (h : l ++ c :: s = l' ++ d :: s') :
    c :: s = d :: s' := by
  cases hl with
  | first hw =>
    cases hl' with
    | first hw' => exact blank_inj hw hw' hc hd h
  | later hv hw =>
    cases hl' with
    | later hv' hw' =>
      simp only [List.append_assoc, List.cons_append] at h
      have hcomma := blank_inj hv hv' (by decide) (by decide) h
      exact blank_inj hw hw' hc hd (List.cons.inj hcomma).2

/-- A list that is not at its end does not start like one that is. -/
theorem lead_ne_close {l w : List Char} {c close : Char} (hl : Lead first l) (hw : Blank w)
    (hc : isSpace c = false) (hclose : isSpace close = false) (hne : c ≠ close)
    (hcomma : close ≠ ',') : l ++ c :: s ≠ w ++ close :: s' := by
  intro h
  cases hl with
  | first hv => exact hne (List.cons.inj (blank_inj hv hw hc hclose h)).1
  | later hu hv =>
    simp only [List.append_assoc, List.cons_append] at h
    exact hcomma (List.cons.inj (blank_inj hu hw (by decide) hclose h)).1.symm

/-! ### Terms -/

/-- Whether a term is determined by any text that it starts. -/
def Unique (term : Term) : Prop :=
  ∀ ⦃term' : Term⦄ ⦃t t' r r' : List Char⦄, term.Written t → term'.Written t' → Ends r → Ends r' →
    t ++ r = t' ++ r' → term = term' ∧ r = r'

theorem writtenItems_inj {items items' : List Term} (hitem : ∀ term ∈ items, Unique term)
    (h : WrittenItems first items t) (h' : WrittenItems first items' t')
    (heq : t ++ r = t' ++ r') : items = items' ∧ r = r' := by
  induction items generalizing first items' t t' with
  | nil =>
    cases h with
    | close hw =>
      cases h' with
      | close hw' =>
        simp only [List.append_assoc, List.cons_append, List.nil_append] at heq
        have hclose := blank_inj hw hw' (by decide) (by decide) heq
        exact ⟨rfl, (List.cons.inj hclose).2⟩
      | item hlead hitem hitems =>
        obtain ⟨c, s, rfl, hspace, hne⟩ := exists_cons_of_written hitem
        simp only [List.append_assoc, List.cons_append, List.nil_append] at heq
        exact absurd heq.symm (lead_ne_close hlead hw hspace (by decide) hne (by decide))
  | cons term items ih =>
    obtain ⟨hhead, htail⟩ := List.forall_mem_cons.mp hitem
    cases h with
    | item hlead hterm hitems =>
      cases h' with
      | close hw' =>
        obtain ⟨c, s, rfl, hspace, hne⟩ := exists_cons_of_written hterm
        simp only [List.append_assoc, List.cons_append, List.nil_append] at heq
        exact absurd heq (lead_ne_close hlead hw' hspace (by decide) hne (by decide))
      | item hlead' hterm' hitems' =>
        obtain ⟨c, s, rfl, hspace, -⟩ := exists_cons_of_written hterm
        obtain ⟨c', s', rfl, hspace', -⟩ := exists_cons_of_written hterm'
        simp only [List.append_assoc, List.cons_append] at heq
        obtain ⟨rfl, heq⟩ := hhead hterm hterm' (ends_of_writtenItems hitems r)
          (ends_of_writtenItems hitems' r') (lead_inj hlead hlead' hspace hspace' heq)
        obtain ⟨rfl, rfl⟩ := ih htail hitems hitems' heq
        exact ⟨rfl, rfl⟩

theorem writtenMembers_inj {members members' : List (String × Term)}
    (hvalue : ∀ m ∈ members, Unique m.2) (h : WrittenMembers first members t)
    (h' : WrittenMembers first members' t') (heq : t ++ r = t' ++ r') :
    members = members' ∧ r = r' := by
  induction members generalizing first members' t t' with
  | nil =>
    cases h with
    | close hw =>
      cases h' with
      | close hw' =>
        simp only [List.append_assoc, List.cons_append, List.nil_append] at heq
        have hclose := blank_inj hw hw' (by decide) (by decide) heq
        exact ⟨rfl, (List.cons.inj hclose).2⟩
      | member hlead hkey hv hw' hvalue hmembers =>
        simp only [List.append_assoc, List.cons_append, List.nil_append] at heq
        exact absurd heq.symm
          (lead_ne_close hlead hw (by decide) (by decide) (by decide) (by decide))
  | cons m members ih =>
    obtain ⟨hhead, htail⟩ := List.forall_mem_cons.mp hvalue
    cases h with
    | member hlead hkey hv hw hterm hmembers =>
      cases h' with
      | close hw' =>
        simp only [List.append_assoc, List.cons_append, List.nil_append] at heq
        exact absurd heq
          (lead_ne_close hlead hw' (by decide) (by decide) (by decide) (by decide))
      | member hlead' hkey' hv' hw' hterm' hmembers' =>
        simp only [List.append_assoc, List.cons_append] at heq
        have hquote := lead_inj hlead hlead' (by decide) (by decide) heq
        obtain ⟨rfl, hcolon⟩ := writtenText_inj hkey hkey' (List.cons.inj hquote).2
        have hbehind := (List.cons.inj (blank_inj hv hv' (by decide) (by decide) hcolon)).2
        obtain ⟨c, s, rfl, hspace, -⟩ := exists_cons_of_written hterm
        obtain ⟨c', s', rfl, hspace', -⟩ := exists_cons_of_written hterm'
        obtain ⟨rfl, heq⟩ := hhead hterm hterm' (ends_of_writtenMembers hmembers r)
          (ends_of_writtenMembers hmembers' r') (blank_inj hw hw' hspace hspace' hbehind)
        obtain ⟨rfl, rfl⟩ := ih htail hmembers hmembers' heq
        exact ⟨rfl, rfl⟩

/-- The kind of term that a character starts. -/
def Opens (c : Char) : Term → Prop
  | .null => c = 'n'
  | .bool true => c = 't'
  | .bool false => c = 'f'
  | .number _ => c = '-' ∨ c.isDigit = true
  | .string _ => c = '"'
  | .array _ => c = '['
  | .object _ => c = '\x7b'

theorem opens_of_written (h : term.Written t) : ∃ c s, t = c :: s ∧ Opens c term := by
  cases h with
  | number n =>
    obtain ⟨c, s, htext, hc⟩ := n.exists_cons_text
    refine ⟨c, s, htext, ?_⟩
    split at hc
    · exact .inl hc
    · exact .inr hc
  | _ => exact ⟨_, _, rfl, rfl⟩

/-- **A term is determined by any text that it starts.** -/
theorem unique (term : Term) : Unique term := by
  induction hsize : sizeOf term using Nat.strong_induction_on generalizing term with
  | _ size ih =>
    intro term' t t' r r' h h' hr hr' heq
    obtain ⟨c, s, hc, hopens⟩ := opens_of_written h
    obtain ⟨c', s', hc', hopens'⟩ := opens_of_written h'
    -- Terms that one character starts are of one kind.
    obtain rfl : c = c' := by
      rw [hc, hc'] at heq
      exact (List.cons.inj heq).1
    cases h with
    | null => cases h' <;> simp_all [Opens]
    | true => cases h' <;> simp_all [Opens]
    | false => cases h' <;> simp_all [Opens]
    | number n =>
      cases h' with
      | number n' =>
        obtain ⟨rfl, rfl⟩ := Numeral.text_inj hr hr' heq
        exact ⟨rfl, rfl⟩
      | _ => simp_all [Opens]
    | string htext =>
      cases h' with
      | string htext' =>
        simp only [List.cons_append, List.append_assoc, List.nil_append] at heq
        obtain ⟨rfl, rfl⟩ := writtenText_inj htext htext' (List.cons.inj heq).2
        exact ⟨rfl, rfl⟩
      | _ => simp_all [Opens]
    | @array items t hitems =>
      cases h' with
      | array hitems' =>
        have hitem : ∀ item ∈ items, Unique item := by
          intro item hmem
          have hlt := List.sizeOf_lt_of_mem hmem
          refine ih (sizeOf item) ?_ item rfl
          rw [← hsize, Term.array.sizeOf_spec]
          omega
        obtain ⟨rfl, rfl⟩ := writtenItems_inj hitem hitems hitems' (List.cons.inj heq).2
        exact ⟨rfl, rfl⟩
      | _ => simp_all [Opens]
    | @object members t hmembers =>
      cases h' with
      | object hmembers' =>
        have hvalue : ∀ m ∈ members, Unique m.2 := by
          rintro ⟨key, value⟩ hmem
          have hlt := List.sizeOf_lt_of_mem hmem
          rw [Prod.mk.sizeOf_spec] at hlt
          refine ih (sizeOf value) ?_ value rfl
          rw [← hsize, Term.object.sizeOf_spec]
          omega
        obtain ⟨rfl, rfl⟩ := writtenMembers_inj hvalue hmembers hmembers' (List.cons.inj heq).2
        exact ⟨rfl, rfl⟩
      | _ => simp_all [Opens]

/-- **A text says at most one term.** -/
theorem says_inj {text : String} (h : Says text term) (h' : Says text term') : term = term' := by
  obtain ⟨v, t, w, hv, hterm, hw, htext⟩ := h
  obtain ⟨v', t', w', hv', hterm', hw', htext'⟩ := h'
  obtain ⟨c, s, rfl, hspace, -⟩ := exists_cons_of_written hterm
  obtain ⟨c', s', rfl, hspace', -⟩ := exists_cons_of_written hterm'
  exact (unique term hterm hterm' hw.ends hw'.ends
    (blank_inj hv hv' hspace hspace' (htext.symm.trans htext'))).1

end SopDocs.Json
