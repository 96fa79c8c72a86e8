import Mathlib.Algebra.Group.Nat.Defs
import Mathlib.Data.List.Basic
import Mathlib.Data.List.Induction
import SopDocs.Calendar

/-!
# A text is read as a date exactly if it is the written form of a day

Reading takes digits in the places of the written form and asks whether the calendar has
the day that they name. A number in its place has a fixed width, so that the digits and
their value determine each other.
-/

namespace SopDocs

namespace Text

theorem toNat_of_isDigit {c : Char} (h : c.isDigit = true) : 48 ≤ c.toNat ∧ c.toNat ≤ 57 := by
  simp only [Char.isDigit, ge_iff_le, Bool.and_eq_true, decide_eq_true_eq] at h
  exact ⟨UInt32.le_iff_toNat_le.mp h.1, UInt32.le_iff_toNat_le.mp h.2⟩

theorem digitChar_of_isDigit {c : Char} (h : c.isDigit = true) :
    Nat.digitChar (c.toNat - 48) = c := by
  have hbounds := toNat_of_isDigit h
  apply Char.toNat_inj.mp
  rw [Nat.toNat_digitChar_of_lt_ten (by omega)]
  omega

@[simp] theorem digitsValue_nil : digitsValue [] = 0 := rfl

theorem digitsValue_concat (ds : List Char) (c : Char) :
    digitsValue (ds ++ [c]) = 10 * digitsValue ds + (c.toNat - 48) := by
  unfold digitsValue
  rw [List.foldl_append]
  rfl

theorem digitsValue_lt {ds : List Char} (h : ∀ c ∈ ds, c.isDigit = true) :
    digitsValue ds < 10 ^ ds.length := by
  induction ds using List.reverseRecOn with
  | nil => decide
  | append_singleton ds c ih =>
    obtain ⟨hds, hc⟩ := List.forall_mem_append.mp h
    have hvalue := ih hds
    have hdigit := toNat_of_isDigit (hc c List.mem_cons_self)
    rw [digitsValue_concat, List.length_append, List.length_singleton, Nat.pow_succ]
    omega

end Text

namespace Date

/-! ### Numbers in their places -/

theorem padded_of_lt {n : Nat} (h : n < 10) : padded 1 n = [n.digitChar] := by
  simp [padded, Nat.toDigits_of_lt_base h]

/-- The last digit of a number of two places or more stands by itself. -/
theorem padded_succ {width : Nat} (hwidth : 0 < width) (n : Nat) :
    padded (width + 1) n = padded width (n / 10) ++ [(n % 10).digitChar] := by
  unfold padded
  by_cases h : n < 10
  · obtain ⟨w, rfl⟩ : ∃ w, width = w + 1 := ⟨width - 1, by omega⟩
    have hzero : Nat.digitChar 0 = '0' := rfl
    rw [Nat.div_eq_of_lt h, Nat.mod_eq_of_lt h, Nat.toDigits_of_lt_base h,
      Nat.toDigits_of_lt_base (by decide), hzero, ← List.replicate_succ']
    simp
  · rw [Nat.toDigits_of_base_le (by decide) (by omega)]
    simp only [List.length_append, List.length_singleton, Nat.add_sub_add_right,
      List.append_assoc]

/-- What stands before the last digit has one place less. -/
theorem div_ten_lt {n places : Nat} (h : n < 10 ^ (places + 1)) : n / 10 < 10 ^ places := by
  rw [Nat.pow_succ] at h
  omega

theorem length_padded (width : Nat) {n : Nat} (h : n < 10 ^ (width + 1)) :
    (padded (width + 1) n).length = width + 1 := by
  induction width generalizing n with
  | zero => rw [padded_of_lt (by simpa using h)]; rfl
  | succ width ih =>
    rw [padded_succ (by omega), List.length_append, ih (div_ten_lt h), List.length_singleton]

theorem isDigit_padded (width : Nat) {n : Nat} (h : n < 10 ^ (width + 1)) :
    ∀ c ∈ padded (width + 1) n, c.isDigit = true := by
  induction width generalizing n with
  | zero =>
    have hn : n < 10 := by simpa using h
    rw [padded_of_lt hn]
    simpa [Nat.isDigit_digitChar] using hn
  | succ width ih =>
    have hlast : (n % 10).digitChar.isDigit = true := by
      rw [Nat.isDigit_digitChar]
      exact decide_eq_true (Nat.mod_lt n (by decide))
    rw [padded_succ (by omega)]
    exact List.forall_mem_append.mpr ⟨ih (div_ten_lt h), List.forall_mem_singleton.mpr hlast⟩

theorem digitsValue_padded (width : Nat) {n : Nat} (h : n < 10 ^ (width + 1)) :
    Text.digitsValue (padded (width + 1) n) = n := by
  induction width generalizing n with
  | zero =>
    have hn : n < 10 := by simpa using h
    rw [padded_of_lt hn, ← List.nil_append [_], Text.digitsValue_concat,
      Nat.toNat_digitChar_of_lt_ten hn, Text.digitsValue_nil]
    omega
  | succ width ih =>
    rw [padded_succ (by omega), Text.digitsValue_concat, ih (div_ten_lt h),
      Nat.toNat_digitChar_of_lt_ten (by omega)]
    omega

/-- Digits are the number that they name, written in as many places. -/
theorem padded_digitsValue {ds : List Char} (hne : ds ≠ []) (h : ∀ c ∈ ds, c.isDigit = true) :
    padded ds.length (Text.digitsValue ds) = ds := by
  induction ds using List.reverseRecOn with
  | nil => exact absurd rfl hne
  | append_singleton ds c ih =>
    obtain ⟨hds, hc⟩ := List.forall_mem_append.mp h
    have hdigit := hc c List.mem_cons_self
    have hbounds := Text.toNat_of_isDigit hdigit
    rw [Text.digitsValue_concat, List.length_append, List.length_singleton]
    cases ds with
    | nil =>
      rw [Text.digitsValue_nil, Nat.mul_zero, Nat.zero_add, List.length_nil, Nat.zero_add,
        padded_of_lt (by omega), Text.digitChar_of_isDigit hdigit, List.nil_append]
    | cons d ds =>
      have hpos : 0 < (d :: ds).length := Nat.succ_pos _
      have hdiv : (10 * Text.digitsValue (d :: ds) + (c.toNat - 48)) / 10 =
          Text.digitsValue (d :: ds) := by omega
      have hmod : (10 * Text.digitsValue (d :: ds) + (c.toNat - 48)) % 10 = c.toNat - 48 := by
        omega
      rw [padded_succ hpos, hdiv, hmod, ih (List.cons_ne_nil d ds) hds,
        Text.digitChar_of_isDigit hdigit]

/-! ### The places of a date -/

/-- A text that starts with digits in the places of a date, `rest` being what follows. -/
structure Placed (isDigit : Char → Bool) (s year month day rest : List Char) : Prop where
  text : s = year ++ '.' :: (month ++ '.' :: (day ++ rest))
  yearLength : year.length = 4
  monthLength : month.length = 2
  dayLength : day.length = 2
  digits : ∀ c ∈ year ++ month ++ day, isDigit c = true

theorem fields?_eq_some_iff {isDigit : Char → Bool} {s year month day rest : List Char} :
    fields? isDigit s = some (year, month, day, rest) ↔
      Placed isDigit s year month day rest := by
  constructor
  · intro h
    unfold fields? at h
    split at h
    · split at h
      · next hdigits =>
        cases h
        exact ⟨rfl, rfl, rfl, rfl, fun c hc => List.all_eq_true.mp hdigits c hc⟩
      · cases h
    · cases h
  · rintro ⟨rfl, hyear, hmonth, hday, hdigits⟩
    obtain ⟨y₁, y₂, y₃, y₄, rfl⟩ : ∃ a b c d, year = [a, b, c, d] := by
      match year, hyear with
      | [a, b, c, d], _ => exact ⟨a, b, c, d, rfl⟩
    obtain ⟨m₁, m₂, rfl⟩ := List.length_eq_two.mp hmonth
    obtain ⟨d₁, d₂, rfl⟩ := List.length_eq_two.mp hday
    have hall : [y₁, y₂, y₃, y₄, m₁, m₂, d₁, d₂].all isDigit = true :=
      List.all_eq_true.mpr hdigits
    simp only [List.cons_append, List.nil_append, fields?, hall, if_true]

/-- A cell that starts with four, two and two decimal digits of any script, dots between. -/
def StartsWithDate (cell : String) : Prop :=
  ∃ year month day rest, Placed Text.isDecimalDigit cell.toList year month day rest

theorem startsLikeDate_iff (cell : String) : startsLikeDate cell = true ↔ StartsWithDate cell := by
  unfold startsLikeDate StartsWithDate
  rw [Option.isSome_iff_exists]
  constructor
  · rintro ⟨⟨year, month, day, rest⟩, h⟩
    exact ⟨year, month, day, rest, fields?_eq_some_iff.mp h⟩
  · rintro ⟨year, month, day, rest, h⟩
    exact ⟨(year, month, day, rest), fields?_eq_some_iff.mpr h⟩

/-! ### Reading dates -/

/-- A day of the calendar whose year has no more than four digits. -/
structure Writable (d : Date) : Prop where
  real : d.isReal = true
  year : d.year < 10000

theorem isReal_bounds {d : Date} (h : d.isReal = true) : d.month < 100 ∧ d.day < 100 := by
  have hlength : daysInMonth d.year d.month ≤ 31 := by
    unfold daysInMonth
    split
    · split <;> decide
    all_goals decide
  simp only [isReal, Bool.and_eq_true, decide_eq_true_eq] at h
  omega

theorem toList_text (d : Date) :
    d.text.toList =
      padded 4 d.year ++ '.' :: (padded 2 d.month ++ '.' :: (padded 2 d.day ++ [])) := by
  simp [text, render]

theorem placed_text {d : Date} (h : d.Writable) :
    Placed Char.isDigit d.text.toList (padded 4 d.year) (padded 2 d.month) (padded 2 d.day) [] := by
  obtain ⟨hmonth, hday⟩ := isReal_bounds h.real
  refine ⟨toList_text d, length_padded 3 h.year, length_padded 1 hmonth, length_padded 1 hday, ?_⟩
  exact List.forall_mem_append.mpr ⟨List.forall_mem_append.mpr
    ⟨isDigit_padded 3 h.year, isDigit_padded 1 hmonth⟩, isDigit_padded 1 hday⟩

/-- **The texts that are read as a day are its written form and no other.** -/
theorem parse?_eq_some_iff {s : String} {d : Date} :
    parse? s = some d ↔ d.Writable ∧ s = d.text := by
  constructor
  · intro h
    unfold parse? at h
    split at h
    · next year month day hfields =>
      dsimp only at h
      split at h
      · next hreal =>
        cases h
        obtain ⟨htext, hyear, hmonth, hday, hdigits⟩ := fields?_eq_some_iff.mp hfields
        obtain ⟨hdigits, hdayDigits⟩ := List.forall_mem_append.mp hdigits
        obtain ⟨hyearDigits, hmonthDigits⟩ := List.forall_mem_append.mp hdigits
        have hlt := Text.digitsValue_lt hyearDigits
        rw [hyear] at hlt
        refine ⟨⟨hreal, hlt⟩, ?_⟩
        apply String.toList_injective
        have hy := padded_digitsValue (List.ne_nil_of_length_pos (by omega)) hyearDigits
        have hm := padded_digitsValue (List.ne_nil_of_length_pos (by omega)) hmonthDigits
        have hd := padded_digitsValue (List.ne_nil_of_length_pos (by omega)) hdayDigits
        rw [hyear] at hy
        rw [hmonth] at hm
        rw [hday] at hd
        rw [toList_text, hy, hm, hd]
        exact htext
      · cases h
    · cases h
  · rintro ⟨h, rfl⟩
    obtain ⟨hmonth, hday⟩ := isReal_bounds h.real
    have hdate : (⟨d.year, d.month, d.day⟩ : Date).isReal = true := h.real
    unfold parse?
    rw [fields?_eq_some_iff.mpr (placed_text h)]
    simp only [digitsValue_padded 3 h.year, digitsValue_padded 1 hmonth,
      digitsValue_padded 1 hday, hdate, if_true]

/-! ### Days of the calendar -/

/-- Every fourth year is a leap year; of the years that end a century only every fourth one is. -/
def LeapYear (year : Nat) : Prop := 4 ∣ year ∧ (100 ∣ year → 400 ∣ year)

instance (year : Nat) : Decidable (LeapYear year) := inferInstanceAs (Decidable (_ ∧ _))

/-- A day of the Gregorian calendar, which is carried back to year 0. -/
structure OnCalendar (year month day : Nat) : Prop where
  inYear : 1 ≤ month ∧ month ≤ 12
  inMonth : 1 ≤ day ∧ day ≤ 31
  thirty : month ∈ [4, 6, 9, 11] → day ≤ 30
  february : month = 2 → day ≤ 29 ∧ (day = 29 → LeapYear year)

theorem isLeap_iff {year : Nat} : isLeap year = true ↔ LeapYear year := by
  unfold isLeap LeapYear
  simp only [Bool.and_eq_true, Bool.or_eq_true, beq_iff_eq, bne_iff_ne, ne_eq]
  omega

theorem le_daysInMonth_iff {year month day : Nat} :
    day ≤ daysInMonth year month ↔ day ≤ 31 ∧ (month ∈ [4, 6, 9, 11] → day ≤ 30) ∧
      (month = 2 → day ≤ 29 ∧ (day = 29 → LeapYear year)) := by
  rw [← isLeap_iff]
  simp only [List.mem_cons, List.not_mem_nil, or_false]
  unfold daysInMonth
  split
  · cases isLeap year with
    | true => simp; omega
    | false => simp; omega
  case h_6 hfebruary hapril hjune hseptember hnovember =>
    have hlong : ¬ (month = 4 ∨ month = 6 ∨ month = 9 ∨ month = 11) := by
      rintro (h | h | h | h)
      · exact hapril h
      · exact hjune h
      · exact hseptember h
      · exact hnovember h
    exact ⟨fun h => ⟨h, fun hshort => absurd hshort hlong, fun h => absurd h hfebruary⟩, And.left⟩
  all_goals simp; omega

theorem isReal_iff {d : Date} : d.isReal = true ↔ OnCalendar d.year d.month d.day := by
  simp only [isReal, Bool.and_eq_true, decide_eq_true_eq]
  rw [le_daysInMonth_iff]
  constructor
  · rintro ⟨⟨⟨hfirst, hlast⟩, hday⟩, hmonth, hthirty, hfebruary⟩
    exact ⟨⟨hfirst, hlast⟩, ⟨hday, hmonth⟩, hthirty, hfebruary⟩
  · rintro ⟨⟨hfirst, hlast⟩, ⟨hday, hmonth⟩, hthirty, hfebruary⟩
    exact ⟨⟨⟨hfirst, hlast⟩, hday⟩, hmonth, hthirty, hfebruary⟩

/-- A text is read as a day exactly if it is digits in their places that name the day. -/
theorem parse?_eq_some_iff_placed {s : String} {d : Date} :
    parse? s = some d ↔ ∃ year month day, Placed Char.isDigit s.toList year month day [] ∧
      d = ⟨Text.digitsValue year, Text.digitsValue month, Text.digitsValue day⟩ ∧
      OnCalendar d.year d.month d.day := by
  constructor
  · intro h
    obtain ⟨hwritable, rfl⟩ := parse?_eq_some_iff.mp h
    obtain ⟨hmonth, hday⟩ := isReal_bounds hwritable.real
    refine ⟨_, _, _, placed_text hwritable, ?_, isReal_iff.mp hwritable.real⟩
    rw [digitsValue_padded 3 hwritable.year, digitsValue_padded 1 hmonth,
      digitsValue_padded 1 hday]
  · rintro ⟨year, month, day, hplaced, rfl, hcalendar⟩
    unfold parse?
    rw [fields?_eq_some_iff.mpr hplaced]
    simp only [isReal_iff.mpr hcalendar, if_true]

end Date

end SopDocs
