/-!
# Times of day

A time of day is a second of the day and the nanoseconds into it.  A minute may end with a leap
second: it follows the minute's sixtieth second and shares its number, so every day has 86400
numbered seconds.

* `TimeOfDay.ofClock?`  the time that a clock shows, `60` standing for a leap second;
* `TimeOfDay.hour`, `TimeOfDay.minute`, `TimeOfDay.clockSecond`  what the clock shows;
* `TimeOfDay.place`     the place of a time among all times of a day.

`ofClock?_self` says that a time is the one its clock shows, `place_inj` that no two times share a
place.
-/

namespace SubscriptionBundles

structure TimeOfDay where
  second : Nat
  nanosecond : Nat
  isLeap : Bool
  second_lt : second < 86400
  nanosecond_lt : nanosecond < 1000000000
  ends_minute : isLeap = true → second % 60 = 59
deriving DecidableEq

namespace TimeOfDay

def ofClock? (hour minute second nanosecond : Nat) : Option TimeOfDay :=
  if h : hour < 24 ∧ minute < 60 ∧ second ≤ 60 ∧ nanosecond < 1000000000 then
    some ⟨(hour * 60 + minute) * 60 + min second 59, nanosecond, decide (second = 60), by omega,
      h.2.2.2, by simp only [decide_eq_true_eq]; omega⟩
  else none

def hour (t : TimeOfDay) : Nat := t.second / 3600

def minute (t : TimeOfDay) : Nat := t.second / 60 % 60

def clockSecond (t : TimeOfDay) : Nat := t.second % 60 + t.isLeap.toNat

/-- nanoseconds since midnight, every second counted twice to leave room for a leap second -/
def place (t : TimeOfDay) : Nat := (2 * t.second + t.isLeap.toNat) * 1000000000 + t.nanosecond

/-- the same time in the sixtieth second of its minute if it is in a leap second -/
def ordinary (t : TimeOfDay) : TimeOfDay :=
  ⟨t.second, t.nanosecond, false, t.second_lt, t.nanosecond_lt, (absurd · Bool.false_ne_true)⟩

/-! ## small laws -/

theorem place_lt (t : TimeOfDay) : t.place < 172800000000000 := by
  have := t.second_lt
  have := t.nanosecond_lt
  have := t.isLeap.toNat_le
  unfold place
  omega

theorem ordinary_eq_self {t : TimeOfDay} (h : t.isLeap = false) : t.ordinary = t := by
  obtain ⟨_, _, _, _, _, _⟩ := t
  cases h
  rfl

theorem place_inj {s t : TimeOfDay} : s.place = t.place ↔ s = t := by
  obtain ⟨a, m, x, _, hm, _⟩ := s
  obtain ⟨b, n, y, _, hn, _⟩ := t
  simp only [place, mk.injEq]
  cases x <;> cases y <;> simp <;> omega

theorem ofClock?_self (t : TimeOfDay) :
    ofClock? t.hour t.minute t.clockSecond t.nanosecond = some t := by
  obtain ⟨a, n, x, ha, hn, hx⟩ := t
  cases x
  · have bounds : a / 3600 < 24 ∧ a / 60 % 60 < 60 ∧ a % 60 ≤ 60 ∧ n < 1000000000 := by omega
    refine (dif_pos bounds).trans ?_
    simp only [hour, minute, clockSecond, Bool.toNat_false, Option.some.injEq, mk.injEq,
      true_and]
    exact ⟨by omega, decide_eq_false (by omega)⟩
  · have last := hx rfl
    have bounds : a / 3600 < 24 ∧ a / 60 % 60 < 60 ∧ a % 60 + 1 ≤ 60 ∧ n < 1000000000 := by omega
    refine (dif_pos bounds).trans ?_
    simp only [hour, minute, clockSecond, Bool.toNat_true, Option.some.injEq, mk.injEq,
      true_and]
    exact ⟨by omega, decide_eq_true (by omega)⟩

end TimeOfDay

end SubscriptionBundles
