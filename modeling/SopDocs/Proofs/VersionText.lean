import SopDocs.Proofs.Text.Case
import SopDocs.Proofs.Text.Slice
import SopDocs.Version

/-!
# The texts that are versions

A version is written as numerals with dots between, after an optional letter and with any white
space around. Reading accepts these texts and no others, and refuses a text with the text itself.
What it reads is the list of the values, so numerals without leading zeros spell it as well: this
is how a version is displayed.
-/

namespace SopDocs

theorem Text.pieces_eq_splitOnP (cut : Char → Bool) (s : List Char) :
    pieces cut s = s.splitOnP cut := by
  induction s with
  | nil => rfl
  | cons c s ih =>
    rw [pieces, List.splitOnP_cons_eq_if_modifyHead, ← ih]
    cases hs : pieces cut s with
    | nil => exact absurd hs (pieces_ne_nil cut s)
    | cons p ps => rfl

namespace Version

open Text (digitsValue isBlank isDigit_iff trim)

/-! ### The grammar -/

/-- A run of ASCII digits whose value fits into 64 bits. -/
structure Numeral (s : List Char) : Prop where
  nonempty : s ≠ []
  digits : ∀ c ∈ s, '0' ≤ c ∧ c ≤ '9'
  bound : digitsValue s < UInt64.size

theorem numeral_iff {s : List Char} :
    Numeral s ↔ s ≠ [] ∧ s.all Char.isDigit = true ∧ digitsValue s < UInt64.size := by
  simp only [List.all_eq_true, isDigit_iff]
  exact ⟨fun h => ⟨h.nonempty, h.digits, h.bound⟩, fun h => ⟨h.1, h.2.1, h.2.2⟩⟩

instance (s : List Char) : Decidable (Numeral s) := decidable_of_iff' _ numeral_iff

/-- An optional letter `v` of either case, then numerals with single dots between. -/
structure Spells (s : List Char) (numerals : List (List Char)) : Prop where
  nonempty : numerals ≠ []
  numeral : ∀ numeral ∈ numerals, Numeral numeral
  text : ∃ letter ∈ [[], ['v'], ['V']], s = letter ++ ['.'].intercalate numerals

/-- A text that spells numerals between white space, of which there may be none. -/
def SpellsTrimmed (text : List Char) (numerals : List (List Char)) : Prop :=
  ∃ before s after, text = before ++ (s ++ after) ∧ (∀ c ∈ before, isBlank c = true) ∧
    (∀ c ∈ after, isBlank c = true) ∧ Spells s numerals

/-! ### Characters of the grammar -/

/-- No white space occurs in the grammar. -/
theorem isBlank_eq_false_of_isDigit {c : Char} (h : c.isDigit = true) : isBlank c = false := by
  have hblank : ∀ d, isBlank d = true → d.isDigit = false := fun d hd =>
    Text.forall_blank (p := fun d => d.isDigit = false) (by decide +kernel) hd
  cases hc : isBlank c with
  | false => rfl
  | true => exact absurd h (by simp [hblank c hc])

theorem Numeral.isDigit {s : List Char} (h : Numeral s) : ∀ c ∈ s, c.isDigit = true :=
  List.all_eq_true.mp (numeral_iff.mp h).2.1

theorem component?_eq_some_iff {s : List Char} {n : Nat} :
    component? s = some n ↔ Numeral s ∧ digitsValue s = n := by
  have hmax : ∀ m, m ≤ maxComponent ↔ m < UInt64.size := fun m => Nat.lt_succ_iff.symm
  unfold component?
  constructor
  · intro h
    split at h
    · next hs =>
      obtain ⟨hne, hdigits, hbound⟩ := hs
      have hnumeral : Numeral s := numeral_iff.mpr ⟨hne, hdigits, (hmax _).mp hbound⟩
      exact ⟨hnumeral, Option.some.inj h⟩
    · cases h
  · rintro ⟨hs, rfl⟩
    obtain ⟨hne, hdigits, hbound⟩ := numeral_iff.mp hs
    rw [if_pos ⟨hne, hdigits, (hmax _).mpr hbound⟩]

theorem components_eq_some_iff {parts : List (List Char)} {ns : List Nat} :
    parts.mapM component? = some ns ↔ (∀ s ∈ parts, Numeral s) ∧ ns = parts.map digitsValue := by
  induction parts generalizing ns with
  | nil => simp [eq_comm]
  | cons s parts ih =>
    rw [List.mapM_cons]
    constructor
    · intro h
      obtain ⟨n, hn, h⟩ := Option.bind_eq_some_iff.mp h
      obtain ⟨ms, hms, h⟩ := Option.bind_eq_some_iff.mp h
      obtain ⟨hs, rfl⟩ := component?_eq_some_iff.mp hn
      obtain ⟨hparts, rfl⟩ := ih.mp hms
      exact ⟨List.forall_mem_cons.mpr ⟨hs, hparts⟩, (Option.some.inj h).symm⟩
    · rintro ⟨hall, rfl⟩
      obtain ⟨hs, hparts⟩ := List.forall_mem_cons.mp hall
      rw [component?_eq_some_iff.mpr ⟨hs, rfl⟩, ih.mpr ⟨hparts, rfl⟩]
      rfl

/-! ### The letter -/

theorem exists_letter (s : List Char) :
    ∃ letter ∈ [[], ['v'], ['V']], s = letter ++ dropLetter s := by
  unfold dropLetter
  split
  · exact ⟨['v'], by simp, rfl⟩
  · exact ⟨['V'], by simp, rfl⟩
  · exact ⟨[], by simp, rfl⟩

/-- What numerals with dots between begin with. -/
theorem exists_digit_cons {numerals : List (List Char)} (hne : numerals ≠ [])
    (h : ∀ s ∈ numerals, Numeral s) :
    ∃ c r, ['.'].intercalate numerals = c :: r ∧ c.isDigit = true := by
  cases numerals with
  | nil => exact absurd rfl hne
  | cons s rest =>
    have hs := h s List.mem_cons_self
    obtain ⟨c, r, rfl⟩ := List.exists_cons_of_ne_nil hs.nonempty
    have hc := hs.isDigit c List.mem_cons_self
    cases rest with
    | nil => exact ⟨c, r, by simp, hc⟩
    | cons next rest =>
      refine ⟨c, r ++ ['.'] ++ ['.'].intercalate (next :: rest), ?_, hc⟩
      rw [List.intercalate_cons_cons, List.append_assoc, List.append_assoc]
      rfl

theorem dropLetter_of_digit {c : Char} (hc : c.isDigit = true) (r : List Char) :
    dropLetter (c :: r) = c :: r := by
  unfold dropLetter
  split
  · next heq => cases heq; cases hc
  · next heq => cases heq; cases hc
  · rfl

theorem dropLetter_append {letter s : List Char} (hletter : letter ∈ [[], ['v'], ['V']])
    (hs : dropLetter s = s) : dropLetter (letter ++ s) = s := by
  simp only [List.mem_cons, List.not_mem_nil, or_false] at hletter
  rcases hletter with rfl | rfl | rfl
  · exact hs
  · rfl
  · rfl

/-! ### Reading -/

theorem pieces_eq_iff {s : List Char} {numerals : List (List Char)}
    (h : ∀ numeral ∈ numerals, Numeral numeral) :
    Text.pieces (· == '.') s = numerals ↔ numerals ≠ [] ∧ s = ['.'].intercalate numerals := by
  have hdot : ∀ numeral ∈ numerals, '.' ∉ numeral := by
    intro numeral hnumeral hmem
    have hdigit := (h numeral hnumeral).isDigit '.' hmem
    cases hdigit
  have hsplit : Text.pieces (· == '.') s = s.splitOn '.' := Text.pieces_eq_splitOnP _ s
  rw [hsplit]
  constructor
  · rintro rfl
    exact ⟨by rw [← hsplit]; exact Text.pieces_ne_nil _ s, (List.intercalate_splitOn '.').symm⟩
  · rintro ⟨hne, rfl⟩
    exact List.splitOn_intercalate '.' hdot hne

theorem mem_intercalate_dot {parts : List (List Char)} {c : Char}
    (h : c ∈ ['.'].intercalate parts) : c = '.' ∨ ∃ part ∈ parts, c ∈ part := by
  induction parts with
  | nil => cases h
  | cons part parts ih =>
    cases parts with
    | nil => exact Or.inr ⟨part, List.mem_cons_self, by simpa using h⟩
    | cons next parts =>
      rw [List.intercalate_cons_cons, List.append_assoc] at h
      rcases List.mem_append.mp h with hpart | h
      · exact Or.inr ⟨part, List.mem_cons_self, hpart⟩
      · rcases List.mem_cons.mp h with hdot | h
        · exact Or.inl hdot
        · rcases ih h with hdot | ⟨later, hlater, hc⟩
          · exact Or.inl hdot
          · exact Or.inr ⟨later, List.mem_cons_of_mem _ hlater, hc⟩

/-- No white space occurs in what numerals spell. -/
theorem Spells.not_blank {s : List Char} {numerals : List (List Char)} (h : Spells s numerals) :
    ∀ c ∈ s, isBlank c = false := by
  obtain ⟨letter, hletter, rfl⟩ := h.text
  intro c hc
  rcases List.mem_append.mp hc with hc | hc
  · simp only [List.mem_cons, List.not_mem_nil, or_false] at hletter
    rcases hletter with rfl | rfl | rfl
    · cases hc
    · rw [List.mem_singleton.mp hc]
      decide
    · rw [List.mem_singleton.mp hc]
      decide
  · rcases mem_intercalate_dot hc with rfl | ⟨numeral, hnumeral, hc⟩
    · decide
    · exact isBlank_eq_false_of_isDigit ((h.numeral numeral hnumeral).isDigit c hc)

theorem Spells.trim_eq {s : List Char} {numerals : List (List Char)} (h : Spells s numerals) :
    trim s = s :=
  Text.trim_eq_self_iff.mpr ⟨fun c hc => h.not_blank c (List.mem_of_head? hc),
    fun c hc => h.not_blank c (List.mem_of_getLast? hc)⟩

theorem Spells.ne_nil {s : List Char} {numerals : List (List Char)} (h : Spells s numerals) :
    s ≠ [] := by
  obtain ⟨letter, -, rfl⟩ := h.text
  obtain ⟨c, r, hdigits, -⟩ := exists_digit_cons h.nonempty h.numeral
  rw [hdigits]
  simp

/-- The trimmed text is what has to spell the numerals. -/
theorem spellsTrimmed_iff {text : List Char} {numerals : List (List Char)} :
    SpellsTrimmed text numerals ↔ Spells (trim text) numerals := by
  constructor
  · rintro ⟨before, s, after, rfl, hbefore, hafter, hs⟩
    rwa [Text.trim_append_blank hs.trim_eq hs.ne_nil hbefore hafter]
  · intro h
    obtain ⟨before, after, htext, hbefore, hafter⟩ := Text.exists_trim text
    exact ⟨before, trim text, after, htext, hbefore, hafter, h⟩

theorem spells_iff_dropLetter {s : List Char} {numerals : List (List Char)} :
    Spells s numerals ↔ Text.pieces (· == '.') (dropLetter s) = numerals ∧
      ∀ numeral ∈ numerals, Numeral numeral := by
  constructor
  · intro h
    obtain ⟨letter, hletter, rfl⟩ := h.text
    obtain ⟨c, r, hdigits, hc⟩ := exists_digit_cons h.nonempty h.numeral
    have hdrop : dropLetter (['.'].intercalate numerals) = ['.'].intercalate numerals := by
      rw [hdigits]
      exact dropLetter_of_digit hc r
    rw [dropLetter_append hletter hdrop]
    exact ⟨(pieces_eq_iff h.numeral).mpr ⟨h.nonempty, rfl⟩, h.numeral⟩
  · rintro ⟨hpieces, hnumeral⟩
    obtain ⟨hne, hdigits⟩ := (pieces_eq_iff hnumeral).mp hpieces
    obtain ⟨letter, hletter, hs⟩ := exists_letter s
    rw [hdigits] at hs
    exact ⟨hne, hnumeral, letter, hletter, hs⟩

theorem parse?_eq_some_iff {raw : String} {v : Version} :
    parse? raw = some v ↔
      ∃ numerals, SpellsTrimmed raw.toList numerals ∧ v.components = numerals.map digitsValue := by
  simp only [spellsTrimmed_iff, spells_iff_dropLetter]
  unfold parse? ofChars?
  rw [Option.map_eq_some_iff]
  constructor
  · rintro ⟨ns, hns, rfl⟩
    obtain ⟨hnumerals, rfl⟩ := components_eq_some_iff.mp hns
    exact ⟨_, ⟨rfl, hnumerals⟩, rfl⟩
  · rintro ⟨numerals, ⟨rfl, hnumerals⟩, hv⟩
    exact ⟨v.components, components_eq_some_iff.mpr ⟨hnumerals, hv⟩, rfl⟩

/-! ### Displaying -/

theorem digitsValue_toDigits (n : Nat) : digitsValue (Nat.toDigits 10 n) = n :=
  Nat.ofDigitChars_toDigits (by decide) (by decide)

theorem numeral_toDigits {n : Nat} (h : n < UInt64.size) : Numeral (Nat.toDigits 10 n) where
  nonempty := Nat.toDigits_ne_nil
  digits := fun c hc =>
    isDigit_iff.mp (Nat.isDigit_of_mem_toDigits (by decide) (by decide) hc)
  bound := by rwa [digitsValue_toDigits]

theorem toList_display (v : Version) :
    v.display.toList = ['.'].intercalate (v.components.map (Nat.toDigits 10)) := by
  unfold display
  rw [String.toList_intercalate, List.map_map]
  have hdigits : String.toList ∘ toString = Nat.toDigits 10 := funext fun n => Nat.toList_repr
  rw [hdigits]
  rfl

/-- Whatever has components within the bound is displayed as a text that spells them. -/
theorem spells_display {v : Version} (hne : v.components ≠ [])
    (hbound : ∀ n ∈ v.components, n < UInt64.size) :
    SpellsTrimmed v.display.toList (v.components.map (Nat.toDigits 10)) := by
  have hspells : Spells v.display.toList (v.components.map (Nat.toDigits 10)) := by
    refine ⟨by simpa using hne, ?_, [], by simp, toList_display v⟩
    intro numeral hnumeral
    obtain ⟨n, hn, rfl⟩ := List.mem_map.mp hnumeral
    exact numeral_toDigits (hbound n hn)
  exact spellsTrimmed_iff.mpr (by rwa [hspells.trim_eq])

theorem parse?_display {raw : String} {v : Version} (h : parse? raw = some v) :
    parse? v.display = some v := by
  obtain ⟨numerals, ⟨_, _, _, _, _, _, hspells⟩, hv⟩ := parse?_eq_some_iff.mp h
  have hne : v.components ≠ [] := by
    rw [hv]
    simpa using hspells.nonempty
  have hbound : ∀ n ∈ v.components, n < UInt64.size := by
    intro n hn
    rw [hv] at hn
    obtain ⟨numeral, hnumeral, rfl⟩ := List.mem_map.mp hn
    exact (hspells.numeral numeral hnumeral).bound
  have hvalues : v.components = (v.components.map (Nat.toDigits 10)).map digitsValue := by
    rw [List.map_map]
    exact (List.map_id' v.components).symm.trans
      (List.map_congr_left fun n _ => (digitsValue_toDigits n).symm)
  exact parse?_eq_some_iff.mpr ⟨_, spells_display hne hbound, hvalues⟩

theorem parse_eq_ok_iff {raw : String} {v : Version} : parse raw = .ok v ↔ parse? raw = some v := by
  unfold parse
  cases parse? raw <;> simp

theorem parse_eq_error_iff {raw : String} {e : Invalid} :
    parse raw = .error e ↔ parse? raw = none ∧ e.raw = raw := by
  unfold parse
  cases parse? raw with
  | none =>
    constructor
    · intro h
      cases h
      exact ⟨rfl, rfl⟩
    · rintro ⟨-, rfl⟩
      rfl
  | some v => simp

theorem isValid_iff {raw : String} :
    isValid raw = true ↔ ∃ numerals, SpellsTrimmed raw.toList numerals := by
  unfold isValid
  rw [Option.isSome_iff_exists]
  constructor
  · rintro ⟨v, hv⟩
    obtain ⟨numerals, hspells, -⟩ := parse?_eq_some_iff.mp hv
    exact ⟨numerals, hspells⟩
  · rintro ⟨numerals, hspells⟩
    exact ⟨⟨numerals.map digitsValue⟩, parse?_eq_some_iff.mpr ⟨numerals, hspells, rfl⟩⟩

/-- **A text is read exactly if it spells numerals, and then as their values.** Any other text is
refused and given back as it was. What is read from a text is read from its display as well. -/
theorem parse_grammar :
    (∀ raw, isValid raw = true ↔ ∃ numerals, SpellsTrimmed raw.toList numerals) ∧
    (∀ raw v, parse raw = .ok v ↔
      ∃ numerals, SpellsTrimmed raw.toList numerals ∧ v.components = numerals.map digitsValue) ∧
    (∀ raw e, parse raw = .error e ↔
      (∀ numerals, ¬ SpellsTrimmed raw.toList numerals) ∧ e.raw = raw) ∧
    ∀ raw v, parse raw = .ok v → parse v.display = .ok v := by
  refine ⟨fun raw => isValid_iff, fun raw v => ?_, fun raw e => ?_, fun raw v h => ?_⟩
  · rw [parse_eq_ok_iff, parse?_eq_some_iff]
  · have hnone : parse? raw = none ↔ ∀ numerals, ¬ SpellsTrimmed raw.toList numerals := by
      rw [← not_exists, ← isValid_iff, isValid, Option.isSome_iff_ne_none, not_not]
    rw [parse_eq_error_iff, hnone]
  · rw [parse_eq_ok_iff] at h ⊢
    exact parse?_display h

/-- A letter, a leading zero and white space around are not displayed. -/
theorem parse_grammar_letter :
    parse "\u2003v1.02\n" = .ok ⟨[1, 2]⟩ ∧ parse "1.2" = .ok ⟨[1, 2]⟩ := by
  have hspells : Spells ['v', '1', '.', '0', '2'] [['1'], ['0', '2']] :=
    ⟨by decide, by decide, ['v'], by decide, rfl⟩
  have htrimmed : SpellsTrimmed "\u2003v1.02\n".toList [['1'], ['0', '2']] :=
    ⟨['\u2003'], _, ['\n'], rfl, List.forall_mem_singleton.mpr rfl,
      List.forall_mem_singleton.mpr rfl, hspells⟩
  have hread : parse "\u2003v1.02\n" = .ok ⟨[1, 2]⟩ :=
    (parse_grammar.2.1 _ _).mpr ⟨_, htrimmed, rfl⟩
  exact ⟨hread, parse_grammar.2.2.2 _ _ hread⟩

end Version

end SopDocs
