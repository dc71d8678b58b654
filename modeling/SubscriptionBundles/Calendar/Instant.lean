import SubscriptionBundles.Calendar.DayNumber
import SubscriptionBundles.Calendar.TimeOfDay

/-!
# Instants

An instant is a UTC date, kept as its day number, and a time of that day.

* `Instant.date`, `Instant.ofDate`  the date, and the instant of a date and a time of day;
* `Instant.place`                   the place of an instant among all instants, which orders them;
* `Instant.addMinutes`              so many minutes later, a leap second staying one;
* `Instant.leaveLeap`               an instant next to one in a leap second;
* `Instant.addDays?`                so many days of 86400 seconds later;
* `Instant.addMonths?`              the same time of day so many months later.

The last two give nothing when the result is beyond the representable years.  Whoever leaves a leap
second has it counted as one of the seconds on the way, so a day after one is a second earlier on
the clock; leap seconds in between are not counted.
-/

namespace SubscriptionBundles

structure Instant where
  day : Int
  time : TimeOfDay
deriving DecidableEq

namespace Instant

def place (i : Instant) : Int := i.day * 172800000000000 + i.time.place

instance : LE Instant := ⟨fun a b => a.place ≤ b.place⟩
instance : LT Instant := ⟨fun a b => a.place < b.place⟩
instance (a b : Instant) : Decidable (a ≤ b) := inferInstanceAs (Decidable (a.place ≤ b.place))
instance (a b : Instant) : Decidable (a < b) := inferInstanceAs (Decidable (a.place < b.place))
instance : Max Instant := ⟨fun a b => if a ≤ b then b else a⟩

def date (i : Instant) : Date := Date.ofDayNumber i.day

def ofDate (d : Date) (time : TimeOfDay) : Instant := ⟨d.dayNumber, time⟩

/-- seconds since 1970-01-01T00:00:00Z, leap seconds not counted -/
def second (i : Instant) : Int := i.day * 86400 + i.time.second

def addMinutes (i : Instant) (minutes : Int) : Instant :=
  ⟨(i.second + 60 * minutes) / 86400, ((i.second + 60 * minutes) % 86400).toNat, i.time.nanosecond,
    i.time.isLeap, by omega, i.time.nanosecond_lt, fun h => by
      have := i.time.ends_minute h
      unfold second
      omega⟩

/-- as far into the ordinary second after a leap second, or into the one before it; any other instant
stays -/
def leaveLeap (i : Instant) (later : Bool) : Instant :=
  if i.time.isLeap && later then
    ⟨(i.second + 1) / 86400, ((i.second + 1) % 86400).toNat, i.time.nanosecond, false, by omega,
      i.time.nanosecond_lt, (absurd · Bool.false_ne_true)⟩
  else ⟨i.day, i.time.ordinary⟩

def isRepresentable (i : Instant) : Bool := i.date.isRepresentable

/-- the instant itself if it is representable -/
def representable? (i : Instant) : Option Instant := if i.isRepresentable then some i else none

def addDays? (i : Instant) (days : Nat) : Option Instant :=
  (if days = 0 then i else ⟨i.day + days, i.time.ordinary⟩).representable?

def addMonths? (i : Instant) (months : Nat) : Option Instant :=
  (i.date.addMonths? months).map fun d => ofDate d i.time

/-! ## small laws -/

theorem le_def (a b : Instant) : a ≤ b ↔ a.place ≤ b.place := Iff.rfl

theorem lt_def (a b : Instant) : a < b ↔ a.place < b.place := Iff.rfl

theorem max_def (a b : Instant) : max a b = if a ≤ b then b else a := rfl

theorem le_refl (a : Instant) : a ≤ a := Int.le_refl a.place

theorem le_max_right (a b : Instant) : b ≤ max a b := by
  rw [max_def]
  split
  · exact le_refl b
  · next h =>
    rw [le_def] at *
    omega

theorem max_le_iff {a b c : Instant} : max a b ≤ c ↔ a ≤ c ∧ b ≤ c := by
  rw [max_def]
  split
  · next h =>
    simp only [le_def] at *
    omega
  · next h =>
    simp only [le_def] at *
    omega

theorem place_inj {a b : Instant} : a.place = b.place ↔ a = b := by
  obtain ⟨m, s⟩ := a
  obtain ⟨n, t⟩ := b
  have hs := s.place_lt
  have ht := t.place_lt
  simp only [place, mk.injEq, ← TimeOfDay.place_inj]
  omega

theorem leaveLeap_eq_self {i : Instant} (h : i.time.isLeap = false) (later : Bool) :
    i.leaveLeap later = i := by
  simp [leaveLeap, h, TimeOfDay.ordinary_eq_self h]

theorem ofDate_date (i : Instant) : ofDate i.date i.time = i := by
  simp only [ofDate, date, Date.dayNumber_ofDayNumber]

end Instant

end SubscriptionBundles
