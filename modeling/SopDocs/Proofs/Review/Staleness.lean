import SopDocs.Proofs.CalendarDays
import SopDocs.Review.Reminder

/-!
# When a document is due for review

A document is due if more days of the calendar than allowed have passed since its last edit.
Nothing but the count of days decides, so a due document stays due as days go by, as its date is
moved back and as fewer days are allowed.
-/

namespace SopDocs.Review

variable {lastEdit today : Date} {days : Int}

theorem isDue_iff : isDue lastEdit today days = true ↔ days < lastEdit.daysUntil today := by
  unfold isDue
  exact decide_eq_true_iff

theorem isDue_today_mono {later : Date} (htoday : today.isReal = true)
    (hlater : later.isReal = true) (hle : ¬ later.Before today)
    (hdue : isDue lastEdit today days = true) : isDue lastEdit later days = true := by
  rw [Date.before_iff hlater htoday] at hle
  rw [isDue_iff, Date.daysUntil] at hdue ⊢
  omega

theorem isDue_lastEdit_anti {earlier : Date} (hlast : lastEdit.isReal = true)
    (hearlier : earlier.isReal = true) (hlt : earlier.Before lastEdit)
    (hdue : isDue lastEdit today days = true) : isDue earlier today days = true := by
  rw [Date.before_iff hearlier hlast] at hlt
  rw [isDue_iff, Date.daysUntil] at hdue ⊢
  omega

theorem isDue_days_anti {fewer : Int} (hle : fewer ≤ days)
    (hdue : isDue lastEdit today days = true) : isDue lastEdit today fewer = true := by
  rw [isDue_iff] at hdue ⊢
  omega

theorem isDue_of_not_before (hlast : lastEdit.isReal = true) (htoday : today.isReal = true)
    (hdays : 0 ≤ days) (hle : ¬ lastEdit.Before today) : isDue lastEdit today days = false := by
  rw [Date.before_iff hlast htoday] at hle
  rw [← Bool.not_eq_true, isDue_iff, Date.daysUntil]
  omega

/-- **A document is due exactly if more days of the calendar than allowed lie between its last
edit and today.** Then it is due on every later day, with every date text that is ordered before its
own, and if fewer days are allowed. A document of today or of a day to come is not due, unless
less than no days are allowed. -/
theorem isDue_by_calendar (lastEdit today : Date) (days : Int)
    (hlast : Date.OnCalendar lastEdit.year lastEdit.month lastEdit.day)
    (htoday : Date.OnCalendar today.year today.month today.day) :
    (isDue lastEdit today days = true ↔ days < Date.calendarDays lastEdit today) ∧
    (isDue lastEdit today days = true →
      (∀ later : Date, Date.OnCalendar later.year later.month later.day →
        ¬ later.Before today → isDue lastEdit later days = true) ∧
      (∀ (written other : String) (earlier : Date), Date.parse? written = some lastEdit →
        Date.parse? other = some earlier → other < written →
        isDue earlier today days = true) ∧
      ∀ fewer ≤ days, isDue lastEdit today fewer = true) ∧
    (0 ≤ days → ¬ lastEdit.Before today → isDue lastEdit today days = false) := by
  have hlast := Date.isReal_iff.mpr hlast
  have htoday := Date.isReal_iff.mpr htoday
  refine ⟨?_, fun hdue => ⟨?_, ?_, ?_⟩, ?_⟩
  · rw [isDue_iff, Date.daysUntil_eq_calendarDays hlast htoday]
  · intro later hlater hle
    exact isDue_today_mono htoday (Date.isReal_iff.mpr hlater) hle hdue
  · intro written other earlier hwritten hother hlt
    obtain ⟨hwritable, rfl⟩ := Date.parse?_eq_some_iff.mp hwritten
    obtain ⟨hearlier, rfl⟩ := Date.parse?_eq_some_iff.mp hother
    have hbefore : earlier.Before lastEdit := (Date.text_lt_text_iff hearlier hwritable).mp hlt
    exact isDue_lastEdit_anti hlast hearlier.real hbefore hdue
  · intro fewer hle
    exact isDue_days_anti hle hdue
  · exact isDue_of_not_before hlast htoday

/-- A leap year has more than 365 days, counted from its first day. -/
theorem isDue_by_calendar_leapYear :
    365 < Date.calendarDays ⟨2024, 1, 1⟩ ⟨2025, 1, 1⟩ ∧
    isDue ⟨2024, 1, 1⟩ ⟨2025, 1, 2⟩ 365 = true ∧
    isDue ⟨2023, 12, 31⟩ ⟨2025, 1, 1⟩ 365 = true ∧
    isDue ⟨2024, 1, 1⟩ ⟨2025, 1, 1⟩ 364 = true ∧
    isDue ⟨2025, 1, 1⟩ ⟨2025, 1, 1⟩ 0 = false := by
  have hstart : Date.OnCalendar 2024 1 1 := Date.isReal_iff (d := ⟨2024, 1, 1⟩).mp rfl
  have hend : Date.OnCalendar 2025 1 1 := Date.isReal_iff (d := ⟨2025, 1, 1⟩).mp rfl
  have hnext : Date.OnCalendar 2025 1 2 := Date.isReal_iff (d := ⟨2025, 1, 2⟩).mp rfl
  obtain ⟨hcount, hstays, -⟩ := isDue_by_calendar ⟨2024, 1, 1⟩ ⟨2025, 1, 1⟩ 365 hstart hend
  obtain ⟨-, -, hnever⟩ := isDue_by_calendar ⟨2025, 1, 1⟩ ⟨2025, 1, 1⟩ 0 hend hend
  have hdue : isDue ⟨2024, 1, 1⟩ ⟨2025, 1, 1⟩ 365 = true := by decide
  obtain ⟨htoday, htext, hdays⟩ := hstays hdue
  refine ⟨hcount.mp hdue, ?_, ?_, ?_, ?_⟩
  · exact htoday ⟨2025, 1, 2⟩ hnext (by decide)
  · exact htext "2024.01.01" "2023.12.31" ⟨2023, 12, 31⟩ (by decide) (by decide) (by decide)
  · exact hdays 364 (by decide)
  · exact hnever (by decide) (by decide)

end SopDocs.Review
