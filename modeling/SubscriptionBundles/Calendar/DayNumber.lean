import SubscriptionBundles.Calendar.Date

/-!
# Day numbers

Days are counted from 1970-01-01, which is day 0.

* `Date.dayNumber`       the number of a date;
* `Date.ofDayNumber`     the date of a number;
* `yearOfDays_spec`      the year found is the one whose days hold the number, which is why the
                         date built from it exists.

Dates are ordered by their day numbers.
-/

namespace SubscriptionBundles

/-- days of all years from 1 to the one before `year` (negative below) -/
def daysBeforeYear (year : Int) : Int :=
  365 * (year - 1) + (year - 1) / 4 - (year - 1) / 100 + (year - 1) / 400

def daysInYear (year : Int) : Nat := if isLeapYear year then 366 else 365

/-- days of the months before `month` -/
def daysBeforeMonth (year : Int) : Nat → Nat
  | 0 => 0
  | 1 => 0
  | month + 2 => daysBeforeMonth year (month + 1) + daysInMonth year (month + 1)

/-- days from 0001-01-01 to 1970-01-01 -/
def epochDays : Int := 719162

/-- the year that holds the day `days` days after 0001-01-01: an estimate from the mean year,
one year off at most -/
def yearOfDays (days : Int) : Int :=
  let guess := days * 400 / 146097 + 1
  if days < daysBeforeYear guess then guess - 1
  else if daysBeforeYear (guess + 1) ≤ days then guess + 1
  else guess

/-- the last of the first `last` months that starts no later than `rest` days into the year -/
def lastMonthUntil (year : Int) (rest : Nat) : Nat → Nat
  | 0 => 1
  | 1 => 1
  | last + 2 =>
    if daysBeforeMonth year (last + 2) ≤ rest then last + 2 else lastMonthUntil year rest (last + 1)

/-! ## years -/

theorem daysBeforeYear_succ (year : Int) :
    daysBeforeYear (year + 1) = daysBeforeYear year + daysInYear year := by
  unfold daysBeforeYear daysInYear isLeapYear
  by_cases h4 : year % 4 = 0 <;> by_cases h100 : year % 100 = 0 <;>
    by_cases h400 : year % 400 = 0 <;> simp [h4, h100, h400] <;> omega

theorem yearOfDays_spec (days : Int) :
    daysBeforeYear (yearOfDays days) ≤ days ∧ days < daysBeforeYear (yearOfDays days + 1) := by
  unfold yearOfDays daysBeforeYear
  simp only
  split
  · omega
  · split <;> omega

/-- days into its year -/
def dayOfYear (days : Int) : Nat := (days - daysBeforeYear (yearOfDays days)).toNat

theorem dayOfYear_lt (days : Int) : dayOfYear days < daysInYear (yearOfDays days) := by
  have := yearOfDays_spec days
  rw [daysBeforeYear_succ] at this
  unfold dayOfYear
  omega

/-! ## months -/

theorem daysBeforeMonth_thirteen (year : Int) : daysBeforeMonth year 13 = daysInYear year := by
  simp only [daysBeforeMonth, daysInMonth, daysInYear]
  split <;> rfl

theorem lastMonthUntil_spec (year : Int) (rest last : Nat) (h : rest < daysBeforeMonth year (last + 2)) :
    1 ≤ lastMonthUntil year rest (last + 1) ∧ lastMonthUntil year rest (last + 1) ≤ last + 1 ∧
      daysBeforeMonth year (lastMonthUntil year rest (last + 1)) ≤ rest ∧
      rest < daysBeforeMonth year (lastMonthUntil year rest (last + 1) + 1) := by
  induction last with
  | zero => simpa [lastMonthUntil, daysBeforeMonth] using h
  | succ last ih =>
    unfold lastMonthUntil
    split
    · next le => exact ⟨by omega, by omega, le, h⟩
    · next lt =>
      have := ih (by omega)
      exact ⟨this.1, by omega, this.2.2⟩

theorem lastMonthUntil_dayOfYear (days : Int) :
    let year := yearOfDays days
    let rest := dayOfYear days
    let month := lastMonthUntil year rest 12
    1 ≤ month ∧ month ≤ 12 ∧ daysBeforeMonth year month ≤ rest ∧
      rest - daysBeforeMonth year month < daysInMonth year month := by
  have lt := dayOfYear_lt days
  rw [← daysBeforeMonth_thirteen] at lt
  obtain ⟨h1, h12, le, after⟩ := lastMonthUntil_spec _ _ 11 lt
  refine ⟨h1, h12, le, ?_⟩
  generalize lastMonthUntil (yearOfDays days) (dayOfYear days) 12 = month at *
  cases month with
  | zero => omega
  | succ month =>
    rw [daysBeforeMonth] at after
    omega

/-! ## dates -/

namespace Date

def dayNumber (d : Date) : Int :=
  daysBeforeYear d.year + daysBeforeMonth d.year d.month + d.day - 1 - epochDays

def ofDayNumber (n : Int) : Date :=
  let days := n + epochDays
  let year := yearOfDays days
  let rest := dayOfYear days
  let month := lastMonthUntil year rest 12
  have found := lastMonthUntil_dayOfYear days
  ⟨year, month, rest - daysBeforeMonth year month + 1, ⟨found.1, found.2.1⟩,
    ⟨Nat.le_add_left _ _, found.2.2.2⟩⟩

instance : LE Date := ⟨fun a b => a.dayNumber ≤ b.dayNumber⟩
instance : LT Date := ⟨fun a b => a.dayNumber < b.dayNumber⟩
instance (a b : Date) : Decidable (a ≤ b) := inferInstanceAs (Decidable (a.dayNumber ≤ b.dayNumber))
instance (a b : Date) : Decidable (a < b) := inferInstanceAs (Decidable (a.dayNumber < b.dayNumber))

theorem dayNumber_ofDayNumber (n : Int) : (ofDayNumber n).dayNumber = n := by
  obtain ⟨_, _, le, _⟩ := lastMonthUntil_dayOfYear (n + epochDays)
  have year := (yearOfDays_spec (n + epochDays)).1
  have rest : (dayOfYear (n + epochDays) : Int) =
      n + epochDays - daysBeforeYear (yearOfDays (n + epochDays)) := by
    unfold dayOfYear
    omega
  simp only [dayNumber, ofDayNumber]
  omega

end Date

end SubscriptionBundles
