import SubscriptionBundles.Calendar.DayNumber

/-!
# The order of dates

Dates are ordered by month, and within a month by day.

* `Date.lt_of_monthNumber_lt`  a date of an earlier month is an earlier date;
* `Date.same_month_iff`        a month number names a year and a month;
* `Date.le_iff`                the order, by month and day;
* `Date.le_antisymm`, `Date.dayNumber_inj`  no two dates are on one day;
* `Date.monthNumber_le_of_le`, `Date.year_le_of_le`  a later date is of no earlier month or year.
-/

namespace SubscriptionBundles

/-! ## days before a month -/

theorem daysBeforeMonth_succ (year : Int) {month : Nat} (h : 1 ≤ month) :
    daysBeforeMonth year (month + 1) = daysBeforeMonth year month + daysInMonth year month := by
  cases month with
  | zero => omega
  | succ month => rfl

theorem daysBeforeMonth_mono (year : Int) {a b : Nat} (h : a ≤ b) :
    daysBeforeMonth year a ≤ daysBeforeMonth year b := by
  induction h with
  | refl => exact Nat.le_refl _
  | @step b _ ih =>
    have next : daysBeforeMonth year b ≤ daysBeforeMonth year (b + 1) := by
      cases b with
      | zero => exact Nat.le_refl _
      | succ b => exact Nat.le_add_right _ _
    exact Nat.le_trans ih next

theorem daysBeforeYear_mono {a b : Int} (h : a ≤ b) : daysBeforeYear a ≤ daysBeforeYear b := by
  unfold daysBeforeYear
  omega

/-! ## months and days -/

namespace Date

/-- the day of a date lies within its month -/
theorem dayNumber_bounds (d : Date) :
    daysBeforeYear d.year + daysBeforeMonth d.year d.month - epochDays ≤ d.dayNumber ∧
      d.dayNumber < daysBeforeYear d.year + daysBeforeMonth d.year (d.month + 1) - epochDays := by
  have month := daysBeforeMonth_succ d.year d.exists_month.1
  have day := d.exists_day
  unfold dayNumber
  omega

theorem lt_of_monthNumber_lt {a b : Date} (h : a.monthNumber < b.monthNumber) : a < b := by
  show a.dayNumber < b.dayNumber
  have before := a.dayNumber_bounds
  have after := b.dayNumber_bounds
  have ha := a.exists_month
  have hb := b.exists_month
  unfold monthNumber at h
  by_cases same : a.year = b.year
  · have months : daysBeforeMonth a.year (a.month + 1) ≤ daysBeforeMonth a.year b.month :=
      daysBeforeMonth_mono a.year (by omega)
    rw [← same] at after
    omega
  · -- a whole year ends in between
    have years : daysBeforeYear (a.year + 1) ≤ daysBeforeYear b.year :=
      daysBeforeYear_mono (by omega)
    rw [daysBeforeYear_succ, ← daysBeforeMonth_thirteen] at years
    have months : daysBeforeMonth a.year (a.month + 1) ≤ daysBeforeMonth a.year 13 :=
      daysBeforeMonth_mono a.year (by omega)
    omega

theorem same_month_iff {a b : Date} :
    a.monthNumber = b.monthNumber ↔ a.year = b.year ∧ a.month = b.month := by
  have ha := a.exists_month
  have hb := b.exists_month
  unfold monthNumber
  omega

theorem lastDay_of_same_month {a b : Date} (same : a.monthNumber = b.monthNumber) :
    a.lastDay = b.lastDay := by
  obtain ⟨year, month⟩ := same_month_iff.1 same
  unfold lastDay
  rw [year, month]

/-- in one month, days are numbered as they are counted -/
theorem dayNumber_sub {a b : Date} (same : a.monthNumber = b.monthNumber) :
    b.dayNumber - a.dayNumber = b.day - a.day := by
  obtain ⟨year, month⟩ := same_month_iff.1 same
  unfold dayNumber
  rw [year, month]
  omega

theorem le_iff {a b : Date} : a ≤ b ↔
    a.monthNumber < b.monthNumber ∨ a.monthNumber = b.monthNumber ∧ a.day ≤ b.day := by
  show a.dayNumber ≤ b.dayNumber ↔ _
  rcases Int.lt_trichotomy a.monthNumber b.monthNumber with earlier | same | later
  · have lt : a.dayNumber < b.dayNumber := lt_of_monthNumber_lt earlier
    omega
  · have days := dayNumber_sub same
    omega
  · have gt : b.dayNumber < a.dayNumber := lt_of_monthNumber_lt later
    omega

theorem le_antisymm {a b : Date} (before : a ≤ b) (after : b ≤ a) : a = b := by
  rw [Date.le_iff] at before after
  have month : a.monthNumber = b.monthNumber := by omega
  obtain ⟨year, month⟩ := same_month_iff.1 month
  have day : a.day = b.day := by omega
  obtain ⟨_, _, _, _, _⟩ := a
  obtain ⟨_, _, _, _, _⟩ := b
  cases year
  cases month
  cases day
  rfl

theorem dayNumber_inj {a b : Date} : a.dayNumber = b.dayNumber ↔ a = b := by
  constructor
  · intro same
    exact le_antisymm (Int.le_of_eq same) (Int.le_of_eq same.symm)
  · intro same
    rw [same]

theorem ne_of_lt {a b : Date} (h : a < b) : a ≠ b := by
  rintro rfl
  exact Int.lt_irrefl a.dayNumber h

theorem monthNumber_le_of_le {a b : Date} (h : a ≤ b) : a.monthNumber ≤ b.monthNumber := by
  rw [Date.le_iff] at h
  omega

theorem year_le_of_le {a b : Date} (h : a ≤ b) : a.year ≤ b.year := by
  have months := monthNumber_le_of_le h
  have ha := a.exists_month
  have hb := b.exists_month
  unfold monthNumber at months
  omega

end Date

end SubscriptionBundles
