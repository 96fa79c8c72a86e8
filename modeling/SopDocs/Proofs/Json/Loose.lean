import SopDocs.Json.Record
import SopDocs.Proofs.Json.Document

/-!
# What is passed over

A value that is passed over is written like any other, but nothing is made of it: its numbers may be
of any size, the escapes of its strings need not make characters, and it may nest as deep as it
likes. Such texts are passed over, and no others.
-/

namespace SopDocs.Json

/-- The ways to write a string of which nothing is kept. -/
inductive LooseText : List Char → Prop where
  | nil : LooseText []
  | plain {c : Char} {t : List Char} (hcontrol : 0x20 ≤ c.toNat) (hquote : c ≠ '"')
      (hslash : c ≠ '\\') (ht : LooseText t) : LooseText (c :: t)
  | named {mark c : Char} {t : List Char} (h : (mark, c) ∈ namedEscapes) (ht : LooseText t) :
      LooseText ('\\' :: mark :: t)
  | unit {n : Nat} {ds t : List Char} (h : HexDigits n ds) (ht : LooseText t) :
      LooseText ('\\' :: 'u' :: (ds ++ t))

/-- The ways to write a value of which nothing is kept. -/
inductive Loose : List Char → Prop where
  | null : Loose "null".toList
  | true : Loose "true".toList
  | false : Loose "false".toList
  | number (n : Numeral) : Loose n.text
  | string {t : List Char} (h : LooseText t) : Loose ('"' :: (t ++ ['"']))
  | array {items : List Unit} {t : List Char} (h : Parts ']' (fun _ => Loose) true items t) :
      Loose ('[' :: t)
  | object {members : List Unit} {t : List Char}
      (h : Parts '\x7d' (fun _ => MemberText LooseText Loose) true members t) : Loose ('\x7b' :: t)

variable {size depth fuel : Nat} {s r t w : List Char}

/-! ### Strings -/

theorem skipEscape_eq_ok (h : skipEscape s = .ok r) :
    ∃ t, s = t ++ r ∧ ∀ {more : List Char}, LooseText more → LooseText ('\\' :: (t ++ more)) := by
  unfold skipEscape at h
  split at h
  · cases h
  · obtain ⟨⟨n, rest⟩, hhex, rfl⟩ := map_eq_ok.mp h
    obtain ⟨ds, hds, rfl⟩ := readHex_eq_ok_iff.mp hhex
    exact ⟨'u' :: ds, rfl, fun hmore => .unit hds hmore⟩
  · next mark rest hne =>
    split at h
    · next hmark =>
      obtain rfl := Except.ok.inj h
      have hnamed : ∀ mark ∈ "\"\\/bfnrt".toList, ∃ c, (mark, c) ∈ namedEscapes := by
        simp [namedEscapes]
      obtain ⟨c, hc⟩ := hnamed mark hmark
      exact ⟨[mark], rfl, fun hmore => .named hc hmore⟩
    · cases h

theorem skipString_cons {c : Char} (hquote : c ≠ '"') (hslash : c ≠ '\\') :
    skipString (fuel + 1) (c :: s) =
      if c.toNat < 0x20 then .error ⟨.controlCharacter, s, 0⟩ else skipString fuel s := by
  rw [skipString]
  · exact hquote
  · exact hslash

/-- What is passed over up to the closing quote is a string of which nothing is kept. -/
theorem looseText_of_skipString (h : skipString fuel s = .ok r) :
    ∃ t, LooseText t ∧ s = t ++ '"' :: r := by
  induction fuel generalizing s with
  | zero => cases h
  | succ fuel ih =>
    cases s with
    | nil => cases h
    | cons c s =>
      by_cases hquote : c = '"'
      · subst hquote
        obtain rfl := Except.ok.inj h
        exact ⟨[], .nil, rfl⟩
      · by_cases hslash : c = '\\'
        · subst hslash
          obtain ⟨rest, hescape, hnext⟩ := bind_eq_ok.mp h
          obtain ⟨t, rfl, hloose⟩ := skipEscape_eq_ok hescape
          obtain ⟨more, hmore, rfl⟩ := ih hnext
          exact ⟨'\\' :: (t ++ more), hloose hmore, by simp⟩
        · rw [skipString_cons hquote hslash] at h
          split at h
          · cases h
          · next hcontrol =>
            obtain ⟨more, hmore, rfl⟩ := ih h
            exact ⟨c :: more, .plain (Nat.not_lt.mp hcontrol) hquote hslash hmore, rfl⟩

theorem skipString_of_looseText (h : LooseText t) (hfuel : t.length < fuel) (r : List Char) :
    skipString fuel (t ++ '"' :: r) = .ok r := by
  induction h generalizing fuel with
  | nil =>
    obtain ⟨fuel, rfl⟩ := Nat.exists_eq_add_one_of_ne_zero (Nat.ne_zero_of_lt hfuel)
    rfl
  | plain hcontrol hquote hslash _ ih =>
    obtain ⟨fuel, rfl⟩ := Nat.exists_eq_add_one_of_ne_zero (Nat.ne_zero_of_lt hfuel)
    rw [List.cons_append, skipString_cons hquote hslash, if_neg (Nat.not_lt.mpr hcontrol)]
    exact ih (Nat.lt_of_succ_lt_succ hfuel)
  | @named mark c t hmark _ ih =>
    obtain ⟨fuel, rfl⟩ := Nat.exists_eq_add_one_of_ne_zero (Nat.ne_zero_of_lt hfuel)
    have hescape : skipEscape (mark :: (t ++ '"' :: r)) = .ok (t ++ '"' :: r) := by
      simp only [namedEscapes, List.mem_cons, Prod.mk.injEq, List.not_mem_nil, or_false] at hmark
      rcases hmark with ⟨rfl, -⟩ | ⟨rfl, -⟩ | ⟨rfl, -⟩ | ⟨rfl, -⟩ | ⟨rfl, -⟩ | ⟨rfl, -⟩ |
        ⟨rfl, -⟩ | ⟨rfl, -⟩ <;> rfl
    simp only [List.length_cons] at hfuel
    exact bind_eq_ok.mpr ⟨_, hescape, ih (by omega)⟩
  | @unit n ds t hds _ ih =>
    obtain ⟨fuel, rfl⟩ := Nat.exists_eq_add_one_of_ne_zero (Nat.ne_zero_of_lt hfuel)
    have hhex : readHex (ds ++ (t ++ '"' :: r)) = .ok (n, t ++ '"' :: r) :=
      readHex_eq_ok_iff.mpr ⟨ds, hds, rfl⟩
    have hescape : skipEscape ('u' :: (ds ++ (t ++ '"' :: r))) = .ok (t ++ '"' :: r) :=
      map_eq_ok.mpr ⟨_, hhex, rfl⟩
    simp only [List.length_cons, List.length_append] at hfuel
    rw [List.cons_append, List.cons_append, List.append_assoc]
    exact bind_eq_ok.mpr ⟨_, hescape, ih (by omega)⟩

/-! ### Numbers -/

theorem digits_of_skipDigits (h : skipDigits s = .ok r) : ∃ ds, Digits ds ∧ s = ds ++ r := by
  unfold skipDigits at h
  split at h
  · next c rest =>
    split at h
    · next hc =>
      obtain rfl := Except.ok.inj h
      refine ⟨c :: rest.takeWhile Char.isDigit, ⟨List.cons_ne_nil _ _, ?_⟩, ?_⟩
      · exact List.forall_mem_cons.mpr ⟨hc, digits_takeWhile rest⟩
      · rw [List.cons_append, List.takeWhile_append_dropWhile]
    · cases h
  · cases h

theorem skipDigits_append {ds : List Char} (hds : Digits ds) (hr : NoDigit r) :
    skipDigits (ds ++ r) = .ok r := by
  obtain ⟨hne, hdigits⟩ := hds
  obtain ⟨c, more, rfl⟩ := List.exists_cons_of_ne_nil hne
  obtain ⟨hc, hmore⟩ := List.forall_mem_cons.mp hdigits
  have hrest : r.dropWhile Char.isDigit = r := by
    cases r with
    | nil => rfl
    | cons d r => exact List.dropWhile_cons_of_neg (by simp [hr d rfl])
  unfold skipDigits
  rw [List.cons_append]
  simp only [hc, if_true, List.dropWhile_append_of_pos hmore, hrest]

theorem whole_of_skipWhole (h : skipWhole s = .ok r) :
    ∃ ds, Digits ds ∧ (∀ more, ds = '0' :: more → more = []) ∧ s = ds ++ r := by
  unfold skipWhole at h
  split at h
  · split at h
    · cases h
    · obtain rfl := Except.ok.inj h
      exact ⟨['0'], ⟨List.cons_ne_nil _ _, by simp⟩, by simp, rfl⟩
  · next hzero =>
    obtain ⟨ds, hds, rfl⟩ := digits_of_skipDigits h
    refine ⟨ds, hds, ?_, rfl⟩
    rintro more rfl
    cases more with
    | nil => rfl
    | cons d more => exact absurd rfl (hzero d (more ++ r))

theorem skipWhole_append {ds : List Char} (hds : Digits ds)
    (hzero : ∀ more, ds = '0' :: more → more = []) (hr : NoDigit r) :
    skipWhole (ds ++ r) = .ok r := by
  unfold skipWhole
  split
  · next c rest heq =>
    obtain ⟨d, more, rfl⟩ := List.exists_cons_of_ne_nil hds.1
    obtain ⟨rfl, hrest⟩ := List.cons.inj heq
    obtain rfl := hzero more rfl
    have hrest : r = c :: rest := hrest
    subst hrest
    have hc : ¬ c.isDigit = true := by simp [hr c rfl]
    exact if_neg hc
  · exact skipDigits_append hds hr

theorem fraction_of_skipFraction (h : skipFraction s = .ok r) :
    ∃ f : Option (List Char), (∀ ds ∈ f, Digits ds) ∧ s = fractionText f ++ r := by
  unfold skipFraction at h
  split at h
  · obtain ⟨ds, hds, rfl⟩ := digits_of_skipDigits h
    exact ⟨some ds, by rintro _ ⟨⟩; exact hds, rfl⟩
  · obtain rfl := Except.ok.inj h
    exact ⟨none, by simp, rfl⟩

theorem skipFraction_append {f : Option (List Char)} (hf : ∀ ds ∈ f, Digits ds)
    (hr : ∀ c, r.head? = some c → c.isDigit = false ∧ c ≠ '.') :
    skipFraction (fractionText f ++ r) = .ok r := by
  cases f with
  | some ds => exact skipDigits_append (hf ds rfl) fun c hc => (hr c hc).1
  | none =>
    rw [fractionText, List.nil_append]
    unfold skipFraction
    split
    · exact absurd rfl (hr '.' rfl).2
    · rfl

theorem exponent_of_skipExponent (h : skipExponent s = .ok r) :
    ∃ e : Option Exponent, s = exponentPart e ++ r := by
  unfold skipExponent at h
  split at h
  · next c rest =>
    split at h
    · next hmark =>
      have hmem : c ∈ ['e', 'E'] := by simpa [isExponentMark] using hmark
      obtain ⟨ds, hds, hs⟩ := digits_of_skipDigits h
      have hexponent : ∀ sign : Option Char, (∀ d ∈ sign, d ∈ ['+', '-']) →
          rest = sign.toList ++ (ds ++ r) →
          ∃ e : Option Exponent, c :: rest = exponentPart e ++ r :=
        fun sign hsign hrest =>
          ⟨some ⟨c, sign, ds, hmem, hsign, hds⟩, by simp [hrest, exponentPart, Exponent.text]⟩
      split at hs
      · exact hexponent (some '+') (by simp) (by rw [hs]; rfl)
      · exact hexponent (some '-') (by simp) (by rw [hs]; rfl)
      · exact hexponent none (by simp) (by rw [hs]; rfl)
    · obtain rfl := Except.ok.inj h
      exact ⟨none, rfl⟩
  · obtain rfl := Except.ok.inj h
    exact ⟨none, rfl⟩

theorem skipExponent_append (e : Option Exponent) (hr : Ends r) :
    skipExponent (exponentPart e ++ r) = .ok r := by
  cases e with
  | none =>
    rw [exponentPart, Option.map_none, Option.getD_none, List.nil_append]
    cases r with
    | nil => rfl
    | cons c r => exact if_neg (by simp [(hr c rfl).2.2])
  | some e =>
    have hmark := isExponentMark_mark e
    obtain ⟨mark, sign, ds, hmem, hsign, hds⟩ := e
    have hdigits := skipDigits_append hds (noDigit_of_ends hr)
    have htext : exponentPart (some ⟨mark, sign, ds, hmem, hsign, hds⟩) ++ r =
        mark :: (sign.toList ++ (ds ++ r)) := by simp [exponentPart, Exponent.text]
    rw [htext]
    refine (if_pos hmark).trans ?_
    cases sign with
    | none =>
      obtain ⟨c, more, rfl⟩ := List.exists_cons_of_ne_nil hds.1
      have hc := hds.2 c List.mem_cons_self
      rw [← hdigits]
      split
      · next heq => exact absurd ((List.cons.inj heq).1 ▸ hc) (by decide)
      · next heq => exact absurd ((List.cons.inj heq).1 ▸ hc) (by decide)
      · rfl
    | some c =>
      have hc := hsign c rfl
      simp only [List.mem_cons, List.not_mem_nil, or_false] at hc
      rcases hc with rfl | rfl <;> exact hdigits

/-- What is passed over as a number is a number of the grammar, behind any sign. -/
theorem numeral_of_skipNumber (h : skipNumber s = .ok r) (negative : Bool) :
    ∃ n : Numeral, n.negative = negative ∧ s = n.unsignedText ++ r := by
  obtain ⟨behind, hwhole, h⟩ := bind_eq_ok.mp h
  obtain ⟨left, hfraction, hexponent⟩ := bind_eq_ok.mp h
  obtain ⟨ds, hds, hzero, rfl⟩ := whole_of_skipWhole hwhole
  obtain ⟨f, hf, rfl⟩ := fraction_of_skipFraction hfraction
  obtain ⟨e, rfl⟩ := exponent_of_skipExponent hexponent
  exact ⟨⟨negative, ds, f, e, hds, hzero, hf⟩, rfl, by simp [Numeral.unsignedText]⟩

theorem skipNumber_append (n : Numeral) (hr : Ends r) :
    skipNumber (n.unsignedText ++ r) = .ok r := by
  have htext : n.unsignedText ++ r =
      n.whole ++ (fractionText n.fraction ++ (exponentPart n.exponent ++ r)) := by
    simp [Numeral.unsignedText]
  rw [htext]
  exact bind_eq_ok.mpr ⟨_, skipWhole_append n.whole_spec n.whole_zero (noDigit_tail _ hr),
    bind_eq_ok.mpr ⟨_, skipFraction_append n.fraction_spec fun _ => head_exponentPart hr,
      skipExponent_append n.exponent hr⟩⟩

/-! ### Values -/

theorem skipMember_eq_ok {item : List Char → Except Fault (Unit × List Char)}
    (hitem : ∀ {s u r}, item s = .ok (u, r) → ∃ w t, Blank w ∧ Loose t ∧ s = w ++ (t ++ r))
    {done next : Unit} (h : skipMember item size done s = .ok (next, r)) :
    ∃ t, MemberText LooseText Loose ('"' :: t) ∧ s = t ++ r := by
  obtain ⟨behind, hkey, h⟩ := bind_eq_ok.mp h
  obtain ⟨start, hcolon, hvalue⟩ := bind_eq_ok.mp h
  obtain ⟨k, hk, rfl⟩ := looseText_of_skipString hkey
  obtain ⟨gap, hgap, rfl⟩ := readColon_eq_ok_iff.mp hcolon
  obtain ⟨w, t, hw, ht, rfl⟩ := hitem hvalue
  exact ⟨_, .mk hk hgap hw ht, by simp⟩

/-- What is passed over is white space and a value of which nothing is kept. -/
theorem loose_of_skipValue {u : Unit} (h : skipValue size depth s = .ok (u, r)) :
    ∃ w t, Blank w ∧ Loose t ∧ s = w ++ (t ++ r) := by
  induction depth generalizing s u r with
  | zero => cases h
  | succ depth ih =>
    obtain ⟨w, hw, hs⟩ := exists_blank_append_skipSpace s
    have hloose : ∀ {t : List Char}, Loose t → skipSpace s = t ++ r →
        ∃ w t, Blank w ∧ Loose t ∧ s = w ++ (t ++ r) :=
      fun ht hskip => ⟨w, _, hw, ht, by rw [hs, hskip]⟩
    have hliteral : ∀ {c : Char} {word rest : List Char} {value : Value},
        skipSpace s = c :: rest →
        (readLiteral value word rest).map (fun p => ((), p.2)) = .ok (u, r) → Loose (c :: word) →
        ∃ w t, Blank w ∧ Loose t ∧ s = w ++ (t ++ r) := by
      intro c word rest value hskip hread hword
      obtain ⟨⟨v, left⟩, hleft, heq⟩ := map_eq_ok.mp hread
      obtain rfl := (Prod.mk.inj heq).2
      obtain ⟨-, rfl⟩ := eq_append_of_readLiteral hleft
      exact hloose hword hskip
    have hnumber : ∀ (negative : Bool) {rest : List Char},
        (skipNumber rest).map (fun left => ((), left)) = .ok (u, r) →
        skipSpace s = (if negative then ['-'] else []) ++ rest →
        ∃ w t, Blank w ∧ Loose t ∧ s = w ++ (t ++ r) := by
      intro negative rest hread hskip
      obtain ⟨left, hleft, heq⟩ := map_eq_ok.mp hread
      obtain rfl := (Prod.mk.inj heq).2
      obtain ⟨n, hsign, rfl⟩ := numeral_of_skipNumber hleft negative
      refine hloose (.number n) ?_
      rw [hskip, Numeral.text, hsign, List.append_assoc]
    rw [skipValue] at h
    split at h
    · cases h
    · next heq => exact hliteral heq h .null
    · next heq => exact hliteral heq h .true
    · next heq => exact hliteral heq h .false
    · next heq => exact hnumber true h heq
    · next rest heq =>
      obtain ⟨left, hleft, hpair⟩ := map_eq_ok.mp h
      obtain rfl := (Prod.mk.inj hpair).2
      obtain ⟨t, ht, rfl⟩ := looseText_of_skipString hleft
      exact hloose (.string ht) (by rw [heq]; simp)
    · next rest heq =>
      obtain ⟨⟨items, left⟩, hitems, hpair⟩ := map_eq_ok.mp h
      obtain rfl := (Prod.mk.inj hpair).2
      obtain ⟨new, t, hparts, -, rfl⟩ := parts_of_readItems (p := fun _ => Loose) ih hitems
      exact hloose (.array hparts) (by rw [heq]; rfl)
    · next rest heq =>
      obtain ⟨members, t, hparts, -, rfl⟩ := parts_of_readMembers
        (p := fun _ : Unit => MemberText LooseText Loose) (f := fun _ _ _ => True)
        (fun hread => by
          obtain ⟨t, ht, hs⟩ := skipMember_eq_ok ih hread
          exact ⟨(), t, trivial, ht, hs⟩) h
      exact hloose (.object hparts) (by rw [heq]; rfl)
    · next heq =>
      split at h
      · exact hnumber false h heq
      · cases h

/-- A value of which nothing is kept starts with a character that is no white space and closes no
list. -/
theorem exists_cons_of_loose (h : Loose t) : ∃ c s, t = c :: s ∧ isSpace c = false ∧ c ≠ ']' := by
  cases h with
  | number n => exact exists_cons_of_written (.number n)
  | null => exact ⟨_, _, rfl, by decide, by decide⟩
  | true => exact ⟨_, _, rfl, by decide, by decide⟩
  | false => exact ⟨_, _, rfl, by decide, by decide⟩
  | string h => exact ⟨_, _, rfl, by decide, by decide⟩
  | array h => exact ⟨_, _, rfl, by decide, by decide⟩
  | object h => exact ⟨_, _, rfl, by decide, by decide⟩

theorem skipValue_blank (hw : Blank w) (s : List Char) :
    skipValue size (depth + 1) (w ++ s) = skipValue size (depth + 1) s := by
  rw [skipValue, skipValue, skipSpace_append hw]

theorem skipValue_digit {c : Char} (hc : c.isDigit = true) (s : List Char) :
    skipValue size (depth + 1) (c :: s) = (skipNumber (c :: s)).map fun r => ((), r) := by
  have hne : ∀ {d : Char} {rest : List Char}, c :: s = d :: rest → d.isDigit ≠ true → False :=
    fun heq hd => hd ((List.cons.inj heq).1 ▸ hc)
  rw [skipValue, skipSpace_cons (isSpace_of_isDigit hc)]
  split
  case h_1 heq => cases heq
  case h_9 heq =>
    obtain ⟨rfl, rfl⟩ := List.cons.inj heq
    exact if_pos hc
  all_goals
    next heq => exact (hne heq (by decide)).elim

/-- **A value of which nothing is kept is passed over, wherever it stands.** -/
theorem skipValue_of_loose (h : Loose t) (hdepth : t.length < depth) (hsize : t.length < size)
    (hw : Blank w) (hr : Ends r) : skipValue size depth (w ++ (t ++ r)) = .ok ((), r) := by
  induction depth generalizing t w r with
  | zero => cases hdepth
  | succ depth ih =>
    rw [skipValue_blank hw]
    have hliteral : ∀ {result : Except Fault (Value × List Char)} {v : Value}, result = .ok (v, r) →
        result.map (fun p => ((), p.2)) = .ok ((), r) := fun h => map_eq_ok.mpr ⟨_, h, rfl⟩
    cases h with
    | null => exact hliteral (readLiteral_append .null "ull".toList r)
    | true => exact hliteral (readLiteral_append (.bool true) "rue".toList r)
    | false => exact hliteral (readLiteral_append (.bool false) "alse".toList r)
    | number n =>
      have hread := skipNumber_append n hr
      obtain ⟨c, more, htext, hc⟩ := n.exists_cons_text
      cases hsign : n.negative with
      | true =>
        have hnumber : n.text ++ r = '-' :: (n.unsignedText ++ r) := by simp [Numeral.text, hsign]
        rw [hnumber]
        exact map_eq_ok.mpr ⟨_, hread, rfl⟩
      | false =>
        have hnumber : n.unsignedText = n.text := by simp [Numeral.text, hsign]
        rw [hnumber, htext] at hread
        rw [hsign, if_neg Bool.false_ne_true] at hc
        rw [htext]
        exact (skipValue_digit hc _).trans (map_eq_ok.mpr ⟨_, hread, rfl⟩)
    | @string t ht =>
      simp only [List.length_append, List.length_cons, List.length_nil] at hsize
      have hread := skipString_of_looseText ht (by omega : t.length < size) r
      rw [List.cons_append, List.append_assoc]
      exact map_eq_ok.mpr ⟨_, hread, rfl⟩
    | @array items t hparts =>
      rw [List.length_cons] at hdepth hsize
      obtain ⟨items', -, hread⟩ := hparts.exists_forall₂ (R := fun _ _ => True)
        (q := ReadAs (skipValue size depth)) fun _ _ s hs hloose =>
          ⟨(), trivial, exists_cons_of_loose hloose,
            fun hr => ih hloose (by omega) (by omega) blank_nil hr⟩
      exact map_eq_ok.mpr ⟨_, readItems_of_parts hread (Nat.lt_of_succ_lt hsize) [] r, rfl⟩
    | @object members t hparts =>
      rw [List.length_cons] at hdepth hsize
      obtain ⟨members', -, hread⟩ := hparts.exists_forall₂ (R := fun _ _ => True)
        (q := fun _ s => ∃ t, s = '"' :: t ∧ ∀ {r}, Ends r →
          skipMember (skipValue size depth) size () (t ++ r) = .ok ((), r))
        fun _ _ s hs hmember => by
          cases hmember with
          | mk hkey hgap hw hvalue =>
            simp only [List.length_append, List.length_cons] at hs
            refine ⟨(), trivial, _, rfl, fun {r} hr => ?_⟩
            have hskip := ih hvalue (by omega) (by omega) hw hr
            refine bind_eq_ok.mpr ⟨_, ?_, bind_eq_ok.mpr ⟨_, readColon_eq_ok_iff.mpr
              ⟨_, hgap, rfl⟩, hskip⟩⟩
            simpa using skipString_of_looseText hkey (by omega) _
      exact readMembers_of_parts hread (folds_foldl (fun _ _ => ()) () members')
        (fun _ h => h) (Nat.lt_of_succ_lt hsize) r

end SopDocs.Json
