import Mathlib.Data.Set.Card
import Mathlib.Order.Interval.Finset.Nat
import SopDocs.Proofs.Calendar

/-!
# Days are numbered in the order of the calendar

The number of a day counts whole years, whole months of its year and days of its month. The days of
the calendar take every number once and in their order, so that differences of numbers count days.
Dates of four-digit years are written with all their digits in place, so their texts have this
order too.
-/

namespace SopDocs.Date

variable {d e : Date}

/-! ### Years and months -/

/-- The multiples of a number below `n`, counted on by one. -/
theorem multiples_succ (n : Nat) {k : Nat} (hk : 0 < k) :
    (n + 1 + (k - 1)) / k = (n + (k - 1)) / k + if k ∣ n then 1 else 0 := by
  have hsum : n + 1 + (k - 1) = n + (k - 1) + 1 := by omega
  have hdvd : k ∣ n + (k - 1) + 1 ↔ k ∣ n := by
    rw [Nat.add_assoc, Nat.sub_add_cancel hk, Nat.dvd_add_self_right]
  rw [hsum, Nat.succ_div]
  simp only [hdvd]

/-- A year has 365 days, a leap year one more. -/
theorem daysBeforeYear_succ (year : Nat) :
    daysBeforeYear (year + 1) = daysBeforeYear year + if isLeap year then 366 else 365 := by
  have hfour := multiples_succ year (k := 4) (by decide)
  have hcentury := multiples_succ year (k := 100) (by decide)
  have hfourth := multiples_succ year (k := 400) (by decide)
  have hcenturies : (year + 99) / 100 ≤ (year + 3) / 4 := by omega
  simp only [Nat.add_one_sub_one] at hfour hcentury hfourth
  unfold daysBeforeYear
  rw [hfour, hcentury, hfourth]
  by_cases h : LeapYear year
  · rw [if_pos (isLeap_iff.mpr h)]
    obtain ⟨h4, h100⟩ := h
    rw [if_pos h4]
    by_cases hc : 100 ∣ year
    · rw [if_pos hc, if_pos (h100 hc)]
      omega
    · rw [if_neg hc, if_neg fun h400 => hc (Nat.dvd_trans (by decide) h400)]
      omega
  · rw [if_neg (mt isLeap_iff.mp h)]
    by_cases h4 : 4 ∣ year
    · have hc : 100 ∣ year ∧ ¬ 400 ∣ year := by
        simpa [LeapYear, h4] using h
      rw [if_pos h4, if_pos hc.1, if_neg hc.2]
      omega
    · rw [if_neg h4, if_neg fun h100 => h4 (Nat.dvd_trans (by decide) h100),
        if_neg fun h400 => h4 (Nat.dvd_trans (by decide) h400)]
      omega

theorem daysBeforeYear_mono {y z : Nat} (h : y ≤ z) : daysBeforeYear y ≤ daysBeforeYear z := by
  induction z, h using Nat.le_induction with
  | base => exact Nat.le_refl _
  | succ z _ ih =>
    rw [daysBeforeYear_succ]
    omega

theorem daysBeforeMonth_succ (year : Nat) {month : Nat} (h : 1 ≤ month) :
    daysBeforeMonth year (month + 1) = daysBeforeMonth year month + daysInMonth year month := by
  obtain ⟨m, rfl⟩ : ∃ m, month = m + 1 := ⟨month - 1, by omega⟩
  unfold daysBeforeMonth
  rw [Nat.add_sub_cancel, Nat.add_sub_cancel, List.range_succ, List.map_append, List.foldl_append]
  rfl

theorem daysBeforeMonth_mono (year : Nat) {m n : Nat} (hm : 1 ≤ m) (h : m ≤ n) :
    daysBeforeMonth year m ≤ daysBeforeMonth year n := by
  induction n, h using Nat.le_induction with
  | base => exact Nat.le_refl _
  | succ n hn ih =>
    rw [daysBeforeMonth_succ year (Nat.le_trans hm hn)]
    omega

/-- The months of a year make the year. -/
theorem daysBeforeMonth_thirteen (year : Nat) :
    daysBeforeMonth year 13 = if isLeap year then 366 else 365 := by
  cases h : isLeap year <;> simp [daysBeforeMonth, List.range_succ, daysInMonth, h]

/-! ### Numbers and order -/

/-- The order of the calendar: by year, by month and by day. -/
def Before (d e : Date) : Prop :=
  d.year < e.year ∨ d.year = e.year ∧ (d.month < e.month ∨ d.month = e.month ∧ d.day < e.day)

instance (d e : Date) : Decidable (d.Before e) := inferInstanceAs (Decidable (_ ∨ _))

theorem before_or_eq_or_before (d e : Date) : d.Before e ∨ d = e ∨ e.Before d := by
  obtain ⟨y, m, k⟩ := d
  obtain ⟨y', m', k'⟩ := e
  simp only [Before, Date.mk.injEq]
  omega

theorem real_bounds (h : d.isReal = true) : 1 ≤ d.month ∧ d.month ≤ 12 ∧ 1 ≤ d.day ∧
    d.day ≤ daysInMonth d.year d.month := by
  simpa [isReal, and_assoc] using h

/-- The number of a day lies within its month. -/
theorem dayNumber_lt_month (h : d.isReal = true) :
    d.dayNumber < daysBeforeYear d.year + daysBeforeMonth d.year (d.month + 1) := by
  obtain ⟨hmonth, -, hfirst, hlast⟩ := real_bounds h
  rw [daysBeforeMonth_succ _ hmonth, dayNumber]
  omega

/-- The number of a day lies within its year. -/
theorem dayNumber_lt_year (h : d.isReal = true) : d.dayNumber < daysBeforeYear (d.year + 1) := by
  obtain ⟨-, hmonth, -, -⟩ := real_bounds h
  have hlast : daysBeforeMonth d.year (d.month + 1) ≤ daysBeforeMonth d.year 13 :=
    daysBeforeMonth_mono d.year (by omega) (by omega)
  have hyear := daysBeforeMonth_thirteen d.year
  have hday := dayNumber_lt_month h
  rw [daysBeforeYear_succ]
  omega

theorem dayNumber_lt_of_before (hd : d.isReal = true) (h : d.Before e) :
    d.dayNumber < e.dayNumber := by
  obtain ⟨hmonth, -, hfirst, -⟩ := real_bounds hd
  rcases h with hyear | ⟨hyear, hmonths | ⟨hmonths, hdays⟩⟩
  · have hbelow := dayNumber_lt_year hd
    have hyears : daysBeforeYear (d.year + 1) ≤ daysBeforeYear e.year := daysBeforeYear_mono hyear
    have habove : daysBeforeYear e.year ≤ e.dayNumber := by unfold dayNumber; omega
    omega
  · have hbelow := dayNumber_lt_month hd
    have hrest : daysBeforeMonth d.year (d.month + 1) ≤ daysBeforeMonth d.year e.month :=
      daysBeforeMonth_mono d.year (by omega) hmonths
    have habove : daysBeforeYear e.year + daysBeforeMonth e.year e.month ≤ e.dayNumber := by
      unfold dayNumber; omega
    rw [← hyear] at habove
    omega
  · unfold dayNumber
    rw [hyear, hmonths]
    omega

/-- Days are numbered in the order of the calendar. -/
theorem before_iff (hd : d.isReal = true) (he : e.isReal = true) :
    d.Before e ↔ d.dayNumber < e.dayNumber := by
  refine ⟨dayNumber_lt_of_before hd, fun hlt => ?_⟩
  rcases before_or_eq_or_before d e with h | rfl | h
  · exact h
  · omega
  · have hgt := dayNumber_lt_of_before he h
    omega

theorem eq_of_dayNumber_eq (hd : d.isReal = true) (he : e.isReal = true)
    (h : d.dayNumber = e.dayNumber) : d = e := by
  rcases before_or_eq_or_before d e with hbefore | heq | hbefore
  · have hlt := dayNumber_lt_of_before hd hbefore
    omega
  · exact heq
  · have hlt := dayNumber_lt_of_before he hbefore
    omega

/-! ### Every number is that of a day -/

/-- The day after another one. -/
def next (d : Date) : Date :=
  if d.day < daysInMonth d.year d.month then ⟨d.year, d.month, d.day + 1⟩
  else if d.month < 12 then ⟨d.year, d.month + 1, 1⟩
  else ⟨d.year + 1, 1, 1⟩

theorem daysInMonth_pos (year month : Nat) : 1 ≤ daysInMonth year month := by
  unfold daysInMonth
  split
  · split <;> decide
  all_goals decide

theorem next_spec (h : d.isReal = true) :
    d.next.isReal = true ∧ d.next.dayNumber = d.dayNumber + 1 := by
  obtain ⟨hfirstMonth, hlastMonth, hfirst, hlast⟩ := real_bounds h
  have hmonth := daysBeforeMonth_succ d.year hfirstMonth
  unfold next
  split
  · next hday =>
    refine ⟨?_, ?_⟩
    · simp only [isReal, Bool.and_eq_true, decide_eq_true_eq]
      omega
    · simp only [dayNumber]
      omega
  · next hday =>
    split
    · next hnext =>
      have hpos := daysInMonth_pos d.year (d.month + 1)
      refine ⟨?_, ?_⟩
      · simp only [isReal, Bool.and_eq_true, decide_eq_true_eq]
        omega
      · simp only [dayNumber]
        omega
    · next hnext =>
      have hdecember : d.month = 12 := by omega
      have hyear : daysBeforeYear (d.year + 1) =
          daysBeforeYear d.year + daysBeforeMonth d.year 13 := by
        rw [daysBeforeYear_succ, daysBeforeMonth_thirteen]
      have hjanuary : daysBeforeMonth (d.year + 1) 1 = 0 := rfl
      rw [hdecember] at hmonth hday hlast
      change daysBeforeMonth d.year 13 = _ at hmonth
      refine ⟨rfl, ?_⟩
      simp only [dayNumber, hdecember]
      omega

theorem exists_dayNumber_eq (n : Nat) : ∃ d : Date, d.isReal = true ∧ d.dayNumber = n := by
  induction n with
  | zero => exact ⟨⟨0, 1, 1⟩, rfl, rfl⟩
  | succ n ih =>
    obtain ⟨d, hreal, hnumber⟩ := ih
    obtain ⟨hnext, hsucc⟩ := next_spec hreal
    exact ⟨d.next, hnext, by rw [hsucc, hnumber]⟩

/-! ### Counting days -/

/-- The days of the calendar from one on up to the one before another. -/
def daysFrom (d e : Date) : Set Date :=
  {x | OnCalendar x.year x.month x.day ∧ ¬ x.Before d ∧ x.Before e}

theorem image_daysFrom (hd : d.isReal = true) (he : e.isReal = true) :
    dayNumber '' daysFrom d e = Set.Ico d.dayNumber e.dayNumber := by
  ext n
  constructor
  · rintro ⟨x, ⟨hx, hfrom, hto⟩, rfl⟩
    have hreal := isReal_iff.mpr hx
    rw [before_iff hreal hd] at hfrom
    exact ⟨Nat.le_of_not_lt hfrom, (before_iff hreal he).mp hto⟩
  · rintro ⟨hfrom, hto⟩
    obtain ⟨x, hreal, rfl⟩ := exists_dayNumber_eq n
    refine ⟨x, ⟨isReal_iff.mp hreal, ?_, (before_iff hreal he).mpr hto⟩, rfl⟩
    rw [before_iff hreal hd]
    omega

/-- The difference of the numbers counts the days in between. -/
theorem ncard_daysFrom (hd : d.isReal = true) (he : e.isReal = true) :
    (daysFrom d e).ncard = e.dayNumber - d.dayNumber := by
  have hinj : Set.InjOn dayNumber (daysFrom d e) := fun x hx y hy hxy =>
    eq_of_dayNumber_eq (isReal_iff.mpr hx.1) (isReal_iff.mpr hy.1) hxy
  rw [← hinj.ncard_image, image_daysFrom hd he, Set.ncard_eq_toFinset_card']
  simp

/-- The days from one date to another, or less than none if the other one is earlier. -/
noncomputable def calendarDays (d e : Date) : Int := (daysFrom d e).ncard - (daysFrom e d).ncard

theorem daysUntil_eq_calendarDays (hd : d.isReal = true) (he : e.isReal = true) :
    d.daysUntil e = calendarDays d e := by
  rw [calendarDays, ncard_daysFrom hd he, ncard_daysFrom he hd, daysUntil]
  omega

/-! ### The order of texts -/

/-- Texts that start with equally long ones are compared by these first. -/
theorem append_lt_append_iff {a b r s : List Char} (h : a.length = b.length) :
    a ++ r < b ++ s ↔ a < b ∨ a = b ∧ r < s := by
  induction a generalizing b with
  | nil =>
    obtain rfl := List.eq_nil_of_length_eq_zero h.symm
    simp
  | cons c a ih =>
    cases b with
    | nil => cases h
    | cons c' b =>
      rw [List.cons_append, List.cons_append, List.cons_lt_cons_iff, List.cons_lt_cons_iff,
        ih (Nat.succ.inj h), List.cons.injEq]
      tauto

theorem digitChar_lt_iff {m n : Nat} (hm : m < 10) (hn : n < 10) :
    m.digitChar < n.digitChar ↔ m < n := by
  rw [Char.lt_def, UInt32.lt_iff_toNat_lt]
  change m.digitChar.toNat < n.digitChar.toNat ↔ m < n
  rw [Nat.toNat_digitChar_of_lt_ten hm, Nat.toNat_digitChar_of_lt_ten hn]
  omega

theorem length_padded_eq (width : Nat) {m n : Nat} (hm : m < 10 ^ (width + 1))
    (hn : n < 10 ^ (width + 1)) :
    (padded (width + 1) m).length = (padded (width + 1) n).length := by
  rw [length_padded width hm, length_padded width hn]

theorem padded_inj_iff (width : Nat) {m n : Nat} (hm : m < 10 ^ (width + 1))
    (hn : n < 10 ^ (width + 1)) : padded (width + 1) m = padded (width + 1) n ↔ m = n := by
  refine ⟨fun h => ?_, fun h => by rw [h]⟩
  rw [← digitsValue_padded width hm, h, digitsValue_padded width hn]

/-- Numbers written in equally many places are ordered as their texts. -/
theorem padded_lt_padded_iff (width : Nat) {m n : Nat} (hm : m < 10 ^ (width + 1))
    (hn : n < 10 ^ (width + 1)) : padded (width + 1) m < padded (width + 1) n ↔ m < n := by
  induction width generalizing m n with
  | zero =>
    rw [padded_of_lt (by simpa using hm), padded_of_lt (by simpa using hn), List.cons_lt_cons_iff,
      digitChar_lt_iff (by simpa using hm) (by simpa using hn)]
    simp
  | succ width ih =>
    have hm' := div_ten_lt hm
    have hn' := div_ten_lt hn
    rw [padded_succ (Nat.succ_pos width) m, padded_succ (Nat.succ_pos width) n,
      append_lt_append_iff (length_padded_eq width hm' hn'), ih hm' hn',
      padded_inj_iff width hm' hn', List.cons_lt_cons_iff,
      digitChar_lt_iff (Nat.mod_lt m (by decide)) (Nat.mod_lt n (by decide))]
    simp only [List.not_lt_nil, and_false, or_false]
    omega

/-- A number in its places before the same separator decides first. -/
theorem padded_append_lt_iff (width : Nat) {m n : Nat} (hm : m < 10 ^ (width + 1))
    (hn : n < 10 ^ (width + 1)) (c : Char) (r s : List Char) :
    padded (width + 1) m ++ c :: r < padded (width + 1) n ++ c :: s ↔
      m < n ∨ m = n ∧ r < s := by
  rw [append_lt_append_iff (length_padded_eq width hm hn), padded_lt_padded_iff width hm hn,
    padded_inj_iff width hm hn, List.cons_lt_cons_iff]
  simp only [Char.lt_irrefl, false_or, true_and]

/-- Days with years of four digits are written in the order of the calendar. -/
theorem text_lt_text_iff (hd : d.Writable) (he : e.Writable) : d.text < e.text ↔ d.Before e := by
  obtain ⟨hdMonth, hdDay⟩ := isReal_bounds hd.real
  obtain ⟨heMonth, heDay⟩ := isReal_bounds he.real
  rw [String.lt_iff, toList_text, toList_text, padded_append_lt_iff 3 hd.year he.year,
    padded_append_lt_iff 1 hdMonth heMonth, List.append_nil, List.append_nil,
    padded_lt_padded_iff 1 hdDay heDay]
  rfl

end SopDocs.Date
