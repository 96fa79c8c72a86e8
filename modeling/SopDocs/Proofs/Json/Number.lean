import SopDocs.Proofs.Json.Text

/-!
# Numbers are read as they are written

What is read as a number is a number of the grammar. It is an integer exactly if it is written
without fraction and exponent, fits 64 bits and is no negative zero; which float any other number
becomes is not said here. A number of digits only that fits 64 bits is always read.
-/

namespace SopDocs.Json

/-- The integer that is read of a whole part of some size and what stands behind it; none for what
is read as a float. -/
def integerOf? (positive : Bool) (size : Nat) :
    Option (List Char) → Option Exponent → Option Int
  | none, none => if size ≤ maxUnsigned then signedInteger? positive size else none
  | _, _ => none

def Numeral.integer? (n : Numeral) : Option Int :=
  integerOf? (!n.negative) n.magnitude n.fraction n.exponent

/-- Whether a value is a given integer, or a float if none is given. -/
inductive IsNumber : Option Int → Value → Prop where
  | int (z : Int) : IsNumber (some z) (.int z)
  | float (x : Decimal.Binary) : IsNumber none (.float x)

/-- Whether a value is a float. -/
def Value.IsFloat (v : Value) : Prop := ∃ x, v = .float x

theorem IsNumber.isInt_or_isFloat {z? : Option Int} {v : Value} (h : IsNumber z? v) :
    (∃ z, z? = some z ∧ v = .int z) ∨ z? = none ∧ v.IsFloat := by
  cases h with
  | int z => exact .inl ⟨z, rfl, rfl⟩
  | float x => exact .inr ⟨rfl, x, rfl⟩

theorem IsNumber.eq_int {z : Int} {v : Value} (h : IsNumber (some z) v) : v = .int z := by
  cases h
  rfl

variable {positive : Bool} {significand : Nat} {start : Int} {s r ds : List Char} {v : Value}

/-! ### Runs of digits -/

theorem digits_takeWhile (s : List Char) : ∀ c ∈ s.takeWhile Char.isDigit, c.isDigit = true :=
  fun c hc => List.all_eq_true.mp List.all_takeWhile c hc

theorem le_ofDigitChars (ds : List Char) (n : Nat) : n ≤ Nat.ofDigitChars 10 ds n := by
  induction ds generalizing n with
  | nil => exact Nat.le_refl n
  | cons c ds ih =>
    rw [Nat.ofDigitChars_cons]
    refine Nat.le_trans ?_ (ih _)
    omega

/-! ### Exponents -/

theorem makeFloat_eq_ok {exponent : Int} (h : makeFloat positive significand exponent s = .ok (v, r)) :
    v.IsFloat ∧ r = s := by
  unfold makeFloat at h
  split at h
  · next x _ =>
    obtain ⟨rfl, rfl⟩ := Prod.mk.inj (Except.ok.inj h)
    exact ⟨⟨x, rfl⟩, rfl⟩
  · cases h

theorem more_cons (n : Nat) (c : Char) (s : List Char) :
    readExponentDigits.more n (c :: s) =
      if c.isDigit then
        if 2 ^ 31 - 1 < 10 * n + (c.toNat - '0'.toNat) then (none, s)
        else readExponentDigits.more (10 * n + (c.toNat - '0'.toNat)) s
      else (some n, c :: s) := rfl

theorem exists_digits_more (n : Nat) (s : List Char) :
    ∃ ds, (∀ c ∈ ds, c.isDigit = true) ∧ s = ds ++ (readExponentDigits.more n s).2 := by
  induction s generalizing n with
  | nil => exact ⟨[], by simp, rfl⟩
  | cons c s ih =>
    rw [more_cons]
    split
    · next hc =>
      split
      · exact ⟨[c], by simpa using hc, rfl⟩
      · obtain ⟨ds, hds, hs⟩ := ih (10 * n + (c.toNat - '0'.toNat))
        refine ⟨c :: ds, List.forall_mem_cons.mpr ⟨hc, hds⟩, ?_⟩
        rw [List.cons_append, ← hs]
    · exact ⟨[], by simp, rfl⟩

theorem digits_of_readExponentDigits {e : Option Nat} (h : readExponentDigits s = .ok (e, r)) :
    ∃ ds, Digits ds ∧ s = ds ++ r := by
  unfold readExponentDigits at h
  split at h
  · cases h
  · next c s =>
    split at h
    · next hc =>
      obtain ⟨ds, hds, hs⟩ := exists_digits_more (c.toNat - '0'.toNat) s
      have hr : (readExponentDigits.more (c.toNat - '0'.toNat) s).2 = r :=
        congrArg Prod.snd (Except.ok.inj h)
      rw [hr] at hs
      exact ⟨c :: ds, ⟨List.cons_ne_nil c ds, List.forall_mem_cons.mpr ⟨hc, hds⟩⟩, by rw [hs]; rfl⟩
    · cases h

/-- What is read behind the letter of an exponent is a sign or none, and digits. -/
theorem written_of_readExponent (h : readExponent positive significand start s = .ok (v, r)) :
    v.IsFloat ∧ ∃ sign : Option Char, (∀ c ∈ sign, c ∈ ['+', '-']) ∧
      ∃ ds, Digits ds ∧ s = sign.toList ++ (ds ++ r) := by
  have hsome : ∀ {left rest : List Char} {e : Option Nat} {exponent : Int},
      readExponentDigits rest = .ok (e, left) →
      makeFloat positive significand exponent left = .ok (v, r) →
      v.IsFloat ∧ ∃ ds, Digits ds ∧ rest = ds ++ r := by
    intro left rest e exponent he hnext
    obtain ⟨ds, hds, rfl⟩ := digits_of_readExponentDigits he
    obtain ⟨hfloat, rfl⟩ := makeFloat_eq_ok hnext
    exact ⟨hfloat, ds, hds, rfl⟩
  have hnone : ∀ {raise : Bool} {left rest : List Char} {e : Option Nat},
      readExponentDigits rest = .ok (e, left) →
      (if significand ≠ 0 ∧ raise = true then faultHere .numberOutOfRange left
        else .ok (.float ⟨!positive, ⟨0, Decimal.minExponent⟩⟩, left.dropWhile Char.isDigit)) =
        Except.ok (v, r) →
      v.IsFloat ∧ ∃ ds, Digits ds ∧ rest = ds ++ r := by
    intro raise left rest e he hnext
    obtain ⟨ds, hds, rfl⟩ := digits_of_readExponentDigits he
    split at hnext
    · cases hnext
    · obtain ⟨rfl, rfl⟩ := Prod.mk.inj (Except.ok.inj hnext)
      refine ⟨⟨_, rfl⟩, ds ++ left.takeWhile Char.isDigit, ⟨?_, ?_⟩, ?_⟩
      · exact fun hnil => hds.1 (List.append_eq_nil_iff.mp hnil).1
      · intro c hc
        exact (List.mem_append.mp hc).elim (hds.2 c) (digits_takeWhile left c)
      · rw [List.append_assoc, List.takeWhile_append_dropWhile]
  unfold readExponent at h
  simp only at h
  split at h
  all_goals
    obtain ⟨⟨e, left⟩, he, hnext⟩ := bind_eq_ok.mp h
    obtain ⟨hfloat, ds, hds, rfl⟩ : v.IsFloat ∧ ∃ ds, Digits ds ∧ _ = ds ++ r := by
      cases e with
      | some e => exact hsome he hnext
      | none => exact hnone he hnext
  · exact ⟨hfloat, some '+', by simp, ds, hds, rfl⟩
  · exact ⟨hfloat, some '-', by simp, ds, hds, rfl⟩
  · exact ⟨hfloat, none, by simp, ds, hds, rfl⟩

/-- What is read as the end of a float is an exponent or nothing. -/
theorem written_of_finishFloat (h : finishFloat positive significand start s = .ok (v, r)) :
    v.IsFloat ∧ ∃ e : Option Exponent, s = exponentPart e ++ r := by
  unfold finishFloat at h
  split at h
  · next c rest =>
    split at h
    · next hmark =>
      obtain ⟨hfloat, sign, hsign, ds, hds, rfl⟩ := written_of_readExponent h
      have hmem : c ∈ ['e', 'E'] := by simpa [isExponentMark] using hmark
      exact ⟨hfloat, some ⟨c, sign, ds, hmem, hsign, hds⟩, by simp [exponentPart, Exponent.text]⟩
    · obtain ⟨hfloat, rfl⟩ := makeFloat_eq_ok h
      exact ⟨hfloat, none, rfl⟩
  · obtain ⟨hfloat, rfl⟩ := makeFloat_eq_ok h
    exact ⟨hfloat, none, rfl⟩

/-! ### Fractions -/

/-- What is read behind the point is digits, at least one if none has been seen, and the end of a
float. -/
theorem written_of_readFraction {seen : Bool}
    (h : readFraction positive seen significand start s = .ok (v, r)) :
    v.IsFloat ∧ ∃ ds, (∀ c ∈ ds, c.isDigit = true) ∧ (seen = false → ds ≠ []) ∧
      ∃ e : Option Exponent, s = ds ++ (exponentPart e ++ r) := by
  induction s generalizing seen significand start with
  | nil =>
    cases seen with
    | false => cases h
    | true =>
      obtain ⟨hfloat, e, hs⟩ := written_of_finishFloat h
      exact ⟨hfloat, [], by simp, by simp, e, hs⟩
  | cons c s ih =>
    unfold readFraction at h
    split at h
    · next hc =>
      simp only at h
      split at h
      · obtain ⟨hfloat, e, hs⟩ := written_of_finishFloat h
        have hcut := List.takeWhile_append_dropWhile (p := Char.isDigit) (l := c :: s)
        refine ⟨hfloat, (c :: s).takeWhile Char.isDigit, digits_takeWhile _, fun _ => ?_, e, ?_⟩
        · rw [List.takeWhile_cons_of_pos hc]
          exact List.cons_ne_nil _ _
        · rw [← hs, hcut]
      · obtain ⟨hfloat, ds, hds, -, e, rfl⟩ := ih h
        exact ⟨hfloat, c :: ds, List.forall_mem_cons.mpr ⟨hc, hds⟩, fun _ => List.cons_ne_nil c ds,
          e, rfl⟩
    · split at h
      · next hseen =>
        obtain ⟨hfloat, e, hs⟩ := written_of_finishFloat h
        exact ⟨hfloat, [], by simp, by simp [hseen], e, hs⟩
      · cases h

/-- The parts of a number behind its whole part. -/
structure Tail (fraction : Option (List Char)) (exponent : Option Exponent) (s r : List Char) :
    Prop where
  fraction_spec : ∀ ds ∈ fraction, Digits ds
  text_eq : s = fractionText fraction ++ (exponentPart exponent ++ r)

theorem tail_of_readFraction (h : readFraction positive false significand start s = .ok (v, r)) :
    v.IsFloat ∧ ∃ ds e, Tail (some ds) e ('.' :: s) r := by
  obtain ⟨hfloat, ds, hds, hne, e, rfl⟩ := written_of_readFraction h
  refine ⟨hfloat, ds, e, ?_, rfl⟩
  rintro _ ⟨⟩
  exact ⟨hne rfl, hds⟩

theorem tail_of_readExponent {c : Char} (hmark : isExponentMark c = true)
    (h : readExponent positive significand start s = .ok (v, r)) :
    v.IsFloat ∧ ∃ e, Tail none (some e) (c :: s) r := by
  obtain ⟨hfloat, sign, hsign, ds, hds, rfl⟩ := written_of_readExponent h
  have hmem : c ∈ ['e', 'E'] := by simpa [isExponentMark] using hmark
  exact ⟨hfloat, ⟨c, sign, ds, hmem, hsign, hds⟩, by simp,
    by simp [fractionText, exponentPart, Exponent.text]⟩

/-! ### Whole parts -/

/-- What is read behind digits that no longer fit is more digits and a tail. -/
theorem tail_of_readLongInteger (h : readLongInteger positive significand s = .ok (v, r)) :
    v.IsFloat ∧ ∃ fraction e, Tail fraction e (s.dropWhile Char.isDigit) r := by
  unfold readLongInteger at h
  simp only at h
  split at h
  · next rest hrest =>
    rw [hrest]
    obtain ⟨hfloat, ds, e, htail⟩ := tail_of_readFraction h
    exact ⟨hfloat, some ds, e, htail⟩
  · obtain ⟨hfloat, e, hs⟩ := written_of_finishFloat h
    exact ⟨hfloat, none, e, by simp, hs⟩

theorem isNumber_of_isFloat {z? : Option Int} (hv : v.IsFloat) (h : z? = none) :
    IsNumber z? v := by
  obtain ⟨x, rfl⟩ := hv
  rw [h]
  exact .float x

/-- What is read behind the digits of a whole part is a tail. -/
theorem tail_of_finishInteger (h : finishInteger positive significand s = .ok (v, r))
    (hfits : significand ≤ maxUnsigned) :
    ∃ fraction e, Tail fraction e s r ∧
      IsNumber (integerOf? positive significand fraction e) v := by
  have hinteger : finishInteger.integer positive significand s = .ok (v, r) →
      ∃ fraction e, Tail fraction e s r ∧
        IsNumber (integerOf? positive significand fraction e) v := by
    intro hread
    have hwhole : integerOf? positive significand none none =
        signedInteger? positive significand := if_pos hfits
    unfold finishInteger.integer at hread
    split at hread
    · next z hz =>
      obtain ⟨rfl, rfl⟩ := Prod.mk.inj (Except.ok.inj hread)
      refine ⟨none, none, ⟨by simp, rfl⟩, ?_⟩
      rw [hwhole, hz]
      exact .int z
    · next hnone =>
      obtain ⟨hfloat, rfl⟩ := makeFloat_eq_ok hread
      exact ⟨none, none, ⟨by simp, rfl⟩, isNumber_of_isFloat hfloat (hwhole.trans hnone)⟩
  unfold finishInteger at h
  split at h
  · obtain ⟨hfloat, ds, e, htail⟩ := tail_of_readFraction h
    exact ⟨some ds, e, htail, isNumber_of_isFloat hfloat rfl⟩
  · split at h
    · next hmark =>
      obtain ⟨hfloat, e, htail⟩ := tail_of_readExponent hmark h
      exact ⟨none, some e, htail, isNumber_of_isFloat hfloat rfl⟩
    · exact hinteger h
  · exact hinteger h

/-- What is read behind the first digits of a whole part is more digits and a tail. -/
theorem tail_of_readInteger (h : readInteger positive significand s = .ok (v, r))
    (hfits : significand ≤ maxUnsigned) :
    ∃ more fraction e rest, (∀ c ∈ more, c.isDigit = true) ∧ s = more ++ rest ∧
      Tail fraction e rest r ∧
      IsNumber (integerOf? positive (Nat.ofDigitChars 10 more significand) fraction e) v := by
  induction s generalizing significand with
  | nil =>
    obtain ⟨fraction, e, htail, hv⟩ := tail_of_finishInteger h hfits
    exact ⟨[], fraction, e, [], by simp, rfl, htail, hv⟩
  | cons c s ih =>
    unfold readInteger at h
    split at h
    · next hc =>
      simp only at h
      split at h
      · next hlong =>
        -- From here on the number only grows.
        obtain ⟨hfloat, fraction, e, htail⟩ := tail_of_readLongInteger h
        refine ⟨(c :: s).takeWhile Char.isDigit, fraction, e, _, digits_takeWhile _,
          List.takeWhile_append_dropWhile.symm, htail, isNumber_of_isFloat hfloat ?_⟩
        have hsize : maxUnsigned <
            Nat.ofDigitChars 10 ((c :: s).takeWhile Char.isDigit) significand := by
          rw [List.takeWhile_cons_of_pos hc, Nat.ofDigitChars_cons]
          exact Nat.lt_of_lt_of_le hlong (le_ofDigitChars _ _)
        cases fraction with
        | some ds => rfl
        | none =>
          cases e with
          | some e => rfl
          | none => exact if_neg (Nat.not_le.mpr hsize)
      · next hshort =>
        obtain ⟨more, fraction, e, rest, hmore, rfl, htail, hv⟩ := ih h (Nat.not_lt.mp hshort)
        refine ⟨c :: more, fraction, e, rest, List.forall_mem_cons.mpr ⟨hc, hmore⟩, rfl, htail, ?_⟩
        rw [Nat.ofDigitChars_cons]
        exact hv
    · obtain ⟨fraction, e, htail, hv⟩ := tail_of_finishInteger h hfits
      exact ⟨[], fraction, e, c :: s, by simp, rfl, htail, hv⟩

/-- A number of the grammar from its parts. -/
theorem written_of_tail {whole rest : List Char} {fraction : Option (List Char)}
    {e : Option Exponent} (hwhole : Digits whole) (hzero : ∀ r, whole = '0' :: r → r = [])
    (htail : Tail fraction e rest r)
    (hv : IsNumber (integerOf? positive (Nat.ofDigitChars 10 whole 0) fraction e) v) :
    ∃ n : Numeral, n.negative = !positive ∧ whole ++ rest = n.unsignedText ++ r ∧
      IsNumber n.integer? v := by
  obtain ⟨hfraction, rfl⟩ := htail
  refine ⟨⟨!positive, whole, fraction, e, hwhole, hzero, hfraction⟩, rfl, ?_, ?_⟩
  · simp [Numeral.unsignedText]
  · simpa [Numeral.integer?, Numeral.magnitude] using hv

theorem digitValue_le {c : Char} (hc : c.isDigit = true) : c.toNat - '0'.toNat ≤ 9 := by
  simp only [Char.isDigit, Bool.and_eq_true, decide_eq_true_eq] at hc
  have hle : c.toNat ≤ 57 := UInt32.le_iff_toNat_le.mp hc.2
  have hzero : '0'.toNat = 48 := rfl
  omega

/-- **What is read as a number is a number of the grammar.** -/
theorem written_of_readNumber (h : readNumber positive s = .ok (v, r)) :
    ∃ n : Numeral, n.negative = !positive ∧ s = n.unsignedText ++ r ∧ IsNumber n.integer? v := by
  have hzero : ∀ {s : List Char}, finishInteger positive 0 s = .ok (v, r) →
      ∃ n : Numeral, n.negative = !positive ∧ '0' :: s = n.unsignedText ++ r ∧
        IsNumber n.integer? v := by
    intro s hread
    obtain ⟨fraction, e, htail, hv⟩ := tail_of_finishInteger hread (Nat.zero_le _)
    have hdigits : Digits ['0'] := ⟨List.cons_ne_nil _ _, by simp⟩
    exact written_of_tail hdigits (by simp) htail hv
  unfold readNumber at h
  split at h
  · cases h
  · split at h
    · split at h
      · cases h
      · exact hzero h
    · exact hzero h
  · next c s hne =>
    split at h
    · next hc =>
      have hone : c.toNat - '0'.toNat ≤ maxUnsigned :=
        Nat.le_trans (digitValue_le hc) (by decide)
      obtain ⟨more, fraction, e, rest, hmore, rfl, htail, hv⟩ := tail_of_readInteger h hone
      have hdigits : Digits (c :: more) :=
        ⟨List.cons_ne_nil c more, List.forall_mem_cons.mpr ⟨hc, hmore⟩⟩
      refine written_of_tail hdigits (fun _ heq => absurd (List.cons.inj heq).1 hne) htail ?_
      rw [Nat.ofDigitChars_cons, Nat.mul_zero, Nat.zero_add]
      exact hv
    · cases h

/-! ### What ends a number -/

/-- What does not go on with the number before it. -/
def Ends (r : List Char) : Prop :=
  ∀ c ∈ r.head?, c.isDigit = false ∧ c ≠ '.' ∧ isExponentMark c = false

/-- What does not start with a digit. -/
def NoDigit (r : List Char) : Prop := ∀ c, r.head? = some c → c.isDigit = false

theorem noDigit_of_ends (hr : Ends r) : NoDigit r := fun c hc => (hr c hc).1

theorem isExponentMark_mark (e : Exponent) : isExponentMark e.mark = true := by
  simpa [isExponentMark] using e.mark_mem

/-- Behind a whole part or a fraction stands no digit and no point. -/
theorem head_exponentPart {e : Option Exponent} (hr : Ends r) {c : Char}
    (hc : (exponentPart e ++ r).head? = some c) : c.isDigit = false ∧ c ≠ '.' := by
  cases e with
  | none => exact ⟨(hr c hc).1, (hr c hc).2.1⟩
  | some e =>
    obtain rfl : e.mark = c := Option.some.inj hc
    have hmark := e.mark_mem
    simp only [List.mem_cons, List.not_mem_nil, or_false] at hmark
    rcases hmark with hmark | hmark <;> rw [hmark] <;> decide

/-- What stands behind the whole part of a number starts with no digit. -/
theorem noDigit_tail (f : Option (List Char)) {e : Option Exponent} (hr : Ends r) :
    NoDigit (fractionText f ++ (exponentPart e ++ r)) := by
  cases f with
  | none => exact fun c hc => (head_exponentPart hr hc).1
  | some ds =>
    rintro _ ⟨⟩
    decide

/-! ### Whole numbers without sign -/

theorem finishInteger_of_ends (hr : Ends r) :
    finishInteger true significand r = .ok (.int significand, r) := by
  cases r with
  | nil => rfl
  | cons c r =>
    obtain ⟨-, hpoint, hmark⟩ := hr c rfl
    unfold finishInteger
    split
    · next heq => exact absurd (List.cons.inj heq).1 hpoint
    · next heq =>
      obtain ⟨rfl, rfl⟩ := List.cons.inj heq
      rw [if_neg (by simp [hmark])]
      rfl
    · next heq => cases heq

theorem readInteger_of_ends (hds : ∀ c ∈ ds, c.isDigit = true)
    (hfits : Nat.ofDigitChars 10 ds significand ≤ maxUnsigned) (hr : Ends r) :
    readInteger true significand (ds ++ r) =
      .ok (.int (Nat.ofDigitChars 10 ds significand), r) := by
  induction ds generalizing significand with
  | nil =>
    rw [List.nil_append, Nat.ofDigitChars_nil, ← finishInteger_of_ends hr]
    cases r with
    | nil => rfl
    | cons c r =>
      have hc : ¬ c.isDigit = true := by simp [(hr c rfl).1]
      exact if_neg hc
  | cons c ds ih =>
    obtain ⟨hc, hds⟩ := List.forall_mem_cons.mp hds
    rw [Nat.ofDigitChars_cons] at hfits ⊢
    have hshort : ¬ maxUnsigned < 10 * significand + (c.toNat - '0'.toNat) :=
      Nat.not_lt.mpr (Nat.le_trans (le_ofDigitChars ds _) hfits)
    rw [List.cons_append, readInteger, if_pos hc]
    exact (if_neg hshort).trans (ih hds hfits)

namespace Numeral

variable {n : Numeral} {bound : Nat}

/-- The first character of a number is a digit or its sign. -/
theorem exists_cons_text (n : Numeral) :
    ∃ c s, n.text = c :: s ∧ if n.negative then c = '-' else c.isDigit = true := by
  obtain ⟨c, more, hwhole⟩ := List.exists_cons_of_ne_nil n.whole_spec.1
  have hc : c.isDigit = true := n.whole_spec.2 c (hwhole ▸ List.mem_cons_self)
  cases hsign : n.negative with
  | true => exact ⟨'-', n.unsignedText, by simp [text, hsign], rfl⟩
  | false =>
    refine ⟨c, more ++ (fractionText n.fraction ++ exponentPart n.exponent), ?_, hc⟩
    simp [text, hsign, unsignedText, hwhole]

theorem text_of_isUnsigned (hn : n.IsUnsigned bound) : n.text = n.whole := by
  obtain ⟨hsign, hfraction, hexponent, -⟩ := hn
  simp [text, unsignedText, hsign, hfraction, hexponent, fractionText, exponentPart]

theorem value_of_isUnsigned (hn : n.IsUnsigned bound) : n.value = n.magnitude := by
  obtain ⟨hsign, hfraction, hexponent, -⟩ := hn
  simp [value, scale, magnitude, hsign, hfraction, hexponent]

theorem integer?_of_isUnsigned (hn : n.IsUnsigned maxUnsigned) :
    n.integer? = some (n.magnitude : Int) := by
  obtain ⟨hsign, hfraction, hexponent, hfits⟩ := hn
  rw [integer?, hfraction, hexponent, hsign]
  exact if_pos hfits

/-- Only digits are read as an integer that is not negative. -/
theorem isUnsigned_of_integer? {z : Int} (h : n.integer? = some z) (hz : 0 ≤ z) :
    n.IsUnsigned maxUnsigned ∧ z = n.magnitude := by
  unfold integer? integerOf? at h
  split at h
  · next hfraction hexponent =>
    split at h
    · next hfits =>
      unfold signedInteger? at h
      split at h
      · next hsign =>
        exact ⟨⟨by simpa using hsign, hfraction, hexponent, hfits⟩, (Option.some.inj h).symm⟩
      · simp only [Option.ite_none_right_eq_some, Option.some.injEq] at h
        omega
    · cases h
  · cases h

end Numeral

/-- **Digits that fit 64 bits are read as the number they write.** -/
theorem readNumber_of_unsigned {n : Numeral} (hn : n.IsUnsigned maxUnsigned) (hr : Ends r) :
    readNumber true (n.text ++ r) = .ok (.int n.magnitude, r) := by
  rw [Numeral.text_of_isUnsigned hn]
  obtain ⟨-, -, -, hfits⟩ := hn
  have hzero := n.whole_zero
  obtain ⟨hne, hdigits⟩ := n.whole_spec
  unfold Numeral.magnitude at hfits ⊢
  cases hwhole : n.whole with
  | nil => exact absurd hwhole hne
  | cons c more =>
    rw [hwhole] at hdigits hfits hzero
    obtain ⟨hc, hmore⟩ := List.forall_mem_cons.mp hdigits
    by_cases hfirst : c = '0'
    · subst hfirst
      obtain rfl := hzero more rfl
      have hread : finishInteger true 0 r = .ok (.int (0 : Nat), r) := finishInteger_of_ends hr
      cases r with
      | nil => exact hread
      | cons d r =>
        have hd : ¬ d.isDigit = true := by simp [(hr d rfl).1]
        exact (if_neg hd).trans hread
    · have hvalue : Nat.ofDigitChars 10 (c :: more) 0 =
          Nat.ofDigitChars 10 more (c.toNat - '0'.toNat) := by
        rw [Nat.ofDigitChars_cons, Nat.mul_zero, Nat.zero_add]
      rw [hvalue] at hfits ⊢
      rw [List.cons_append, readNumber, if_pos hc]
      · exact readInteger_of_ends hmore hfits hr
      · exact fun heq => hfirst heq

end SopDocs.Json
