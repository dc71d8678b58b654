/-!
# Calendar dates

Dates of the proleptic Gregorian calendar.  A `Date` always names a day that exists; its year is
any integer, and `Date.isRepresentable` tells the years that services exchange.

* `daysInMonth`       length of a month;
* `Date.ofYmd?`       the date of a year, month and day, if there is one;
* `Date.withDay?`     another day of the same month;
* `Date.onDay?`       the same, a day past the end of the month becoming its last day;
* `Date.addMonths`    the same day of another month, or that month's last day.
-/

namespace SubscriptionBundles

def isLeapYear (year : Int) : Bool :=
  decide (year % 4 = 0) && (decide (year % 100 ≠ 0) || decide (year % 400 = 0))

def daysInMonth (year : Int) : Nat → Nat
  | 2 => if isLeapYear year then 29 else 28
  | 4 | 6 | 9 | 11 => 30
  | _ => 31

theorem le_daysInMonth (year : Int) (month : Nat) : 28 ≤ daysInMonth year month := by
  unfold daysInMonth
  split
  · split <;> decide
  all_goals decide

theorem daysInMonth_le (year : Int) (month : Nat) : daysInMonth year month ≤ 31 := by
  unfold daysInMonth
  split
  · split <;> decide
  all_goals decide

structure Date where
  year : Int
  month : Nat
  day : Nat
  exists_month : 1 ≤ month ∧ month ≤ 12
  exists_day : 1 ≤ day ∧ day ≤ daysInMonth year month
deriving DecidableEq

namespace Date

def ofYmd? (year : Int) (month day : Nat) : Option Date :=
  if hm : 1 ≤ month ∧ month ≤ 12 then
    if hd : 1 ≤ day ∧ day ≤ daysInMonth year month then some ⟨year, month, day, hm, hd⟩ else none
  else none

def firstYear : Int := -262143
def lastYear : Int := 262142

/-- the dates that have a written form other services read -/
def isRepresentable (d : Date) : Bool := decide (firstYear ≤ d.year) && decide (d.year ≤ lastYear)

/-- the date itself if it is representable -/
def representable? (d : Date) : Option Date := if d.isRepresentable then some d else none

/-- last day of the date's month -/
def lastDay (d : Date) : Nat := daysInMonth d.year d.month

def withDay? (d : Date) (day : Nat) : Option Date :=
  if h : 1 ≤ day ∧ day ≤ daysInMonth d.year d.month then
    some ⟨d.year, d.month, day, d.exists_month, h⟩
  else none

/-- the given day of the date's month, no later than its last day -/
def onDay? (d : Date) (day : Nat) : Option Date := d.withDay? (min day d.lastDay)

def firstOfMonth (d : Date) : Date :=
  ⟨d.year, d.month, 1, d.exists_month, by have := le_daysInMonth d.year d.month; omega⟩

/-- months since January of year 0 -/
def monthNumber (d : Date) : Int := 12 * d.year + (d.month - 1)

/-- the same day `n` months later, or the last day of that month if it is shorter -/
def addMonths (d : Date) (n : Int) : Date :=
  let months := d.monthNumber + n
  let year := months / 12
  let month := (months % 12).toNat + 1
  ⟨year, month, min d.day (daysInMonth year month), by omega, by
    have := le_daysInMonth year month
    have := d.exists_day
    omega⟩

def addMonths? (d : Date) (n : Int) : Option Date := (d.addMonths n).representable?

/-! ## small laws -/

theorem ofYmd?_self (d : Date) : ofYmd? d.year d.month d.day = some d := by
  simp [ofYmd?, d.exists_month, d.exists_day]

theorem withDay?_eq_some_iff {d e : Date} {day : Nat} :
    d.withDay? day = some e ↔ e.year = d.year ∧ e.month = d.month ∧ e.day = day := by
  obtain ⟨ey, em, ed, h1, h2⟩ := e
  unfold withDay?
  constructor
  · intro h
    split at h
    · cases h; exact ⟨rfl, rfl, rfl⟩
    · cases h
  · rintro ⟨rfl, rfl, rfl⟩
    rw [dif_pos h2]

theorem monthNumber_addMonths (d : Date) (n : Int) :
    (d.addMonths n).monthNumber = d.monthNumber + n := by
  simp only [monthNumber, addMonths]
  omega

theorem day_addMonths (d : Date) (n : Int) :
    (d.addMonths n).day = min d.day (d.addMonths n).lastDay := rfl

end Date

end SubscriptionBundles
