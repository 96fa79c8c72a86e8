import SopDocs.Proofs.Json.Grammar
import SopDocs.Proofs.Steps

/-!
# Strings are read as they are written

A string is read exactly if the grammar has a way to write its characters, and what is read are
these characters.
-/

namespace SopDocs.Json

variable {c : Char} {n v : Nat} {r s t : List Char}

/-! ### Hexadecimal digits -/

instance (v : Nat) (c : Char) : Decidable (IsHexDigit v c) := inferInstanceAs (Decidable (_ ∨ _))

theorem hexValue?_ascii : ∀ n < 128,
    (hexValue? (Char.ofNat n)).all (fun v => decide (IsHexDigit v (Char.ofNat n))) = true := by
  decide +kernel

theorem hexValue?_digits : ∀ v < 16,
    (("0123456789abcdef".toList[v]?).all fun c => hexValue? c == some v) = true ∧
      (("0123456789ABCDEF".toList[v]?).all fun c => hexValue? c == some v) = true := by
  decide +kernel

theorem hexValue?_eq_some_iff : hexValue? c = some v ↔ IsHexDigit v c := by
  constructor
  · intro h
    have hascii : c.toNat < 128 := by
      have hlt : ∀ {b : Char}, c ≤ b → b.toNat < 128 → c.toNat < 128 := fun hle hb =>
        Nat.lt_of_le_of_lt (UInt32.le_iff_toNat_le.mp hle) hb
      unfold hexValue? at h
      split at h
      · next hc => exact hlt hc.2 (by decide)
      · split at h
        · next hc => exact hlt hc.2 (by decide)
        · split at h
          · next hc => exact hlt hc.2 (by decide)
          · cases h
    have hall := hexValue?_ascii c.toNat hascii
    rw [Char.ofNat_toNat, h] at hall
    exact of_decide_eq_true hall
  · intro h
    rcases h with h | h
    · have hall := (hexValue?_digits v (List.getElem?_eq_some_iff.mp h).1).1
      rw [h] at hall
      exact eq_of_beq hall
    · have hall := (hexValue?_digits v (List.getElem?_eq_some_iff.mp h).1).2
      rw [h] at hall
      exact eq_of_beq hall

theorem readHex_eq_ok_iff : readHex s = .ok (n, r) ↔ ∃ ds, HexDigits n ds ∧ s = ds ++ r := by
  constructor
  · intro h
    unfold readHex at h
    split at h
    · next c₁ c₂ c₃ c₄ rest =>
      split at h
      · next v₁ v₂ v₃ v₄ h₁ h₂ h₃ h₄ =>
        obtain ⟨rfl, rfl⟩ := Prod.mk.inj (Except.ok.inj h)
        exact ⟨_, .mk (hexValue?_eq_some_iff.mp h₁) (hexValue?_eq_some_iff.mp h₂)
          (hexValue?_eq_some_iff.mp h₃) (hexValue?_eq_some_iff.mp h₄), rfl⟩
      · cases h
    · split at h <;> cases h
  · rintro ⟨_, ⟨h₁, h₂, h₃, h₄⟩, rfl⟩
    simp [readHex, hexValue?_eq_some_iff.mpr h₁, hexValue?_eq_some_iff.mpr h₂,
      hexValue?_eq_some_iff.mpr h₃, hexValue?_eq_some_iff.mpr h₄]

/-! ### Characters -/

theorem readLowSurrogate_eq_ok {high : Nat} (h : readLowSurrogate high s = .ok (c, r)) :
    ∃ low ls, HexDigits low ls ∧ (0xDC00 ≤ low ∧ low ≤ 0xDFFF) ∧
      c = Char.ofNat (0x10000 + (high - 0xD800) * 0x400 + (low - 0xDC00)) ∧
      s = '\\' :: 'u' :: (ls ++ r) := by
  unfold readLowSurrogate at h
  split at h
  · cases h
  · cases h
  · obtain ⟨⟨low, rest⟩, hhex, hnext⟩ := bind_eq_ok.mp h
    obtain ⟨ls, hls, rfl⟩ := readHex_eq_ok_iff.mp hhex
    simp only at hnext
    split at hnext
    · next hlow =>
      obtain ⟨rfl, rfl⟩ := Prod.mk.inj (Except.ok.inj hnext)
      exact ⟨low, ls, hls, hlow, rfl, rfl⟩
    · cases hnext
  · cases h
  · cases h

/-- The character of an escape is the one that the escape is a way to write. -/
theorem written_of_readEscape (h : readEscape s = .ok (c, r)) :
    ∃ t, WrittenChar c ('\\' :: t) ∧ s = t ++ r := by
  have hnamed : ∀ {mark d : Char} {rest : List Char}, (mark, d) ∈ namedEscapes →
      (Except.ok (d, rest) : Except Fault (Char × List Char)) = .ok (c, r) →
      ∃ t, WrittenChar c ('\\' :: t) ∧ mark :: rest = t ++ r := by
    intro mark d rest hmem heq
    obtain ⟨rfl, rfl⟩ := Prod.mk.inj (Except.ok.inj heq)
    exact ⟨[mark], .named hmem, rfl⟩
  unfold readEscape at h
  split at h
  case h_1 | h_11 => cases h
  case h_10 =>
    obtain ⟨⟨n, rest⟩, hhex, hnext⟩ := bind_eq_ok.mp h
    obtain ⟨ds, hds, rfl⟩ := readHex_eq_ok_iff.mp hhex
    simp only at hnext
    split at hnext
    · cases hnext
    · next hlow =>
      split at hnext
      · next hhigh =>
        obtain ⟨low, ls, hls, hrange, hc, rfl⟩ := readLowSurrogate_eq_ok hnext
        refine ⟨'u' :: (ds ++ '\\' :: 'u' :: ls), ?_, by simp⟩
        rw [hc]
        exact .pair hds hls hhigh hrange
      · next hhigh =>
        obtain ⟨rfl, rfl⟩ := Prod.mk.inj (Except.ok.inj hnext)
        exact ⟨'u' :: ds, .unit hds (by omega), rfl⟩
  all_goals exact hnamed (by decide) h

/-- An escape is read as the character that it is a way to write. -/
theorem readEscape_of_written (h : WrittenChar c ('\\' :: t)) (r : List Char) :
    readEscape (t ++ r) = .ok (c, r) := by
  generalize hs : '\\' :: t = s at h
  cases h with
  | plain hcontrol hquote hslash => exact absurd (List.cons.inj hs).1.symm hslash
  | named hmem =>
    obtain rfl := (List.cons.inj hs).2
    simp only [namedEscapes, List.mem_cons, Prod.mk.injEq, List.not_mem_nil, or_false] at hmem
    rcases hmem with ⟨rfl, rfl⟩ | ⟨rfl, rfl⟩ | ⟨rfl, rfl⟩ | ⟨rfl, rfl⟩ | ⟨rfl, rfl⟩ | ⟨rfl, rfl⟩ |
      ⟨rfl, rfl⟩ | ⟨rfl, rfl⟩ <;> rfl
  | @unit n ds hds hscalar =>
    obtain rfl := (List.cons.inj hs).2
    have hhex : readHex (ds ++ r) = .ok (n, r) := readHex_eq_ok_iff.mpr ⟨ds, hds, rfl⟩
    have hlow : ¬ (0xDC00 ≤ n ∧ n ≤ 0xDFFF) := by omega
    have hhigh : ¬ (0xD800 ≤ n ∧ n ≤ 0xDBFF) := by omega
    rw [List.cons_append, readEscape]
    simp only [hhex, bind, Except.bind, if_neg hlow, if_neg hhigh]
  | @pair high low hs' ls hhs hls hhigh hlow =>
    obtain rfl := (List.cons.inj hs).2
    have hhex : readHex (hs' ++ '\\' :: 'u' :: (ls ++ r)) = .ok (high, '\\' :: 'u' :: (ls ++ r)) :=
      readHex_eq_ok_iff.mpr ⟨hs', hhs, rfl⟩
    have hhexLow : readHex (ls ++ r) = .ok (low, r) := readHex_eq_ok_iff.mpr ⟨ls, hls, rfl⟩
    have hnot : ¬ (0xDC00 ≤ high ∧ high ≤ 0xDFFF) := by omega
    rw [List.cons_append, List.append_assoc, List.cons_append, List.cons_append, readEscape]
    simp only [hhex, bind, Except.bind, if_neg hnot, if_pos hhigh]
    rw [readLowSurrogate]
    simp only [hhexLow, bind, Except.bind, if_pos hlow]

/-! ### Strings -/

theorem readString_cons {fuel : Nat} {done : List Char} (hquote : c ≠ '"') (hslash : c ≠ '\\') :
    readString (fuel + 1) done (c :: s) =
      if c.toNat < 0x20 then faultHere .controlCharacter s else readString fuel (c :: done) s := by
  rw [readString]
  · exact hquote
  · exact hslash

theorem readString_escape (fuel : Nat) (done s : List Char) :
    readString (fuel + 1) done ('\\' :: s) =
      (readEscape s).bind fun p => readString fuel (p.1 :: done) p.2 := rfl

/-- What is read of a string is what the text up to the closing quote is a way to write. -/
theorem written_of_readString {fuel : Nat} {done : List Char} {text : String}
    (h : readString fuel done s = .ok (text, r)) :
    ∃ cs t, WrittenText cs t ∧ s = t ++ '"' :: r ∧ text = String.ofList (done.reverse ++ cs) := by
  induction fuel generalizing done s with
  | zero => cases h
  | succ fuel ih =>
    cases s with
    | nil => cases h
    | cons c s =>
      by_cases hquote : c = '"'
      · subst hquote
        obtain ⟨rfl, rfl⟩ := Prod.mk.inj (Except.ok.inj h)
        exact ⟨[], [], .nil, rfl, by rw [List.append_nil]⟩
      · by_cases hslash : c = '\\'
        · subst hslash
          rw [readString_escape] at h
          obtain ⟨⟨d, rest⟩, hescape, hnext⟩ := bind_eq_ok.mp h
          obtain ⟨t, ht, rfl⟩ := written_of_readEscape hescape
          obtain ⟨cs, more, hmore, rfl, htext⟩ := ih hnext
          refine ⟨d :: cs, ('\\' :: t) ++ more, .cons ht hmore, by simp, ?_⟩
          rw [htext, List.reverse_cons, List.append_assoc, List.singleton_append]
        · rw [readString_cons hquote hslash] at h
          split at h
          · cases h
          · next hcontrol =>
            obtain ⟨cs, more, hmore, rfl, htext⟩ := ih h
            refine ⟨c :: cs, [c] ++ more, ?_, rfl, ?_⟩
            · exact .cons (.plain (Nat.not_lt.mp hcontrol) hquote hslash) hmore
            · rw [htext, List.reverse_cons, List.append_assoc, List.singleton_append]

theorem writtenText_of_readString {size : Nat} {text : String}
    (h : readString size [] s = .ok (text, r)) :
    ∃ t, WrittenText text.toList t ∧ s = t ++ '"' :: r := by
  obtain ⟨cs, t, ht, hs, rfl⟩ := written_of_readString h
  exact ⟨t, by simpa using ht, hs⟩

theorem WrittenChar.length_pos (h : WrittenChar c s) : 0 < s.length := by
  cases h <;> exact Nat.succ_pos _

/-- A way to write a string is read as the string, if there is time for each of its letters. -/
theorem readString_of_written {fuel : Nat} {done cs : List Char} (h : WrittenText cs t)
    (hfuel : t.length < fuel) (r : List Char) :
    readString fuel done (t ++ '"' :: r) = .ok (String.ofList (done.reverse ++ cs), r) := by
  induction h generalizing fuel done with
  | nil =>
    obtain ⟨fuel, rfl⟩ := Nat.exists_eq_add_of_lt hfuel
    rw [List.append_nil]
    rfl
  | @cons c cs s t hchar _ ih =>
    rw [List.length_append] at hfuel
    have hpos := hchar.length_pos
    obtain ⟨fuel, rfl⟩ : ∃ left, fuel = left + 1 := ⟨fuel - 1, by omega⟩
    have hrest : readString fuel (c :: done) (t ++ '"' :: r) =
        .ok (String.ofList ((c :: done).reverse ++ cs), r) := ih (by omega)
    rw [List.reverse_cons, List.append_assoc, List.singleton_append] at hrest
    rw [List.append_assoc, ← hrest]
    cases s with
    | nil => cases hpos
    | cons first s =>
      by_cases hslash : first = '\\'
      · subst hslash
        rw [List.cons_append, readString_escape, readEscape_of_written hchar]
        rfl
      · cases hchar with
        | plain hcontrol hquote _ =>
          rw [List.cons_append, List.nil_append, readString_cons hquote hslash,
            if_neg (Nat.not_lt.mpr hcontrol)]
        | named _ => exact absurd rfl hslash
        | unit _ _ => exact absurd rfl hslash
        | pair _ _ _ _ => exact absurd rfl hslash

theorem readString_of_writtenText {size : Nat} {text : String} (h : WrittenText text.toList t)
    (hsize : t.length < size) (r : List Char) :
    readString size [] (t ++ '"' :: r) = .ok (text, r) := by
  have hread : readString size [] (t ++ '"' :: r) =
      .ok (String.ofList ([].reverse ++ text.toList), r) := readString_of_written h hsize r
  rwa [List.reverse_nil, List.nil_append, String.ofList_toList] at hread

/-- Whether a character needs no escape in a string. -/
def isPlain (c : Char) : Bool := decide (0x20 ≤ c.toNat) && c != '"' && c != '\\'

/-- Characters that need no escape are a way to write themselves. -/
theorem writtenText_of_isPlain {cs : List Char} (h : cs.all isPlain = true) :
    WrittenText cs cs := by
  induction cs with
  | nil => exact .nil
  | cons c cs ih =>
    rw [List.all_cons, Bool.and_eq_true] at h
    obtain ⟨hplain, hcs⟩ := h
    simp only [isPlain, Bool.and_eq_true, decide_eq_true_eq, bne_iff_ne] at hplain
    exact .cons (.plain hplain.1.1 hplain.1.2 hplain.2) (ih hcs)

theorem writtenText_toList (text : String) (h : text.toList.all isPlain = true) :
    WrittenText text.toList text.toList :=
  writtenText_of_isPlain h

end SopDocs.Json
