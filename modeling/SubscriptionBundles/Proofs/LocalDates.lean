import SubscriptionBundles.Context

/-!
# Dates on the account's clock

An instant that is named by its date is so many seconds after the start of the date, always the same
number.  So such instants are ordered by their dates, and any other instant can be compared with them
by its own date.

* `Instant.place_eq`, `Instant.lt_of_second_lt`  the order of instants, by seconds;
* `Context.referenceSecond`      the second of the date that stands in for it;
* `Context.second_instantOf`     the second of an instant named by its date;
* `Context.instantOf_le_iff`     such instants are ordered by their dates;
* `Context.lt_instantOf`, `Context.instantOf_lt`  other instants, before such a date and after it.
-/

namespace SubscriptionBundles

/-! ## seconds -/

namespace Instant

theorem place_eq (i : Instant) :
    i.place = (2 * i.second + i.time.isLeap.toNat) * 1000000000 + i.time.nanosecond := by
  unfold place second TimeOfDay.place
  omega

theorem lt_of_second_lt {a b : Instant} (h : a.second < b.second) : a < b := by
  have leap := a.time.isLeap.toNat_le
  have nano := a.time.nanosecond_lt
  rw [lt_def, place_eq, place_eq]
  omega

end Instant

namespace Context
variable (ctx : Context)

theorem dayNumber_localDate (i : Instant) : (ctx.localDate i).dayNumber = ctx.localDay i :=
  Date.dayNumber_ofDayNumber _

/-! ## the reference time -/

/-- the second of the account's day that an instant named by its date is in; it is the first of the
next day if the day ends with a leap second that is passed over -/
def referenceSecond : Int :=
  (ctx.referenceTime.second + ctx.offset.seconds) % 86400 +
    if ctx.referenceTime.time.isLeap = true ∧ 0 < ctx.offset.seconds then 1 else 0

theorem referenceSecond_bounds : 0 ≤ ctx.referenceSecond ∧ ctx.referenceSecond ≤ 86400 := by
  unfold referenceSecond
  split <;> omega

/-- only a leap second is passed over -/
theorem referenceSecond_lt (ordinary : ctx.referenceTime.time.isLeap = false) :
    ctx.referenceSecond < 86400 := by
  unfold referenceSecond
  rw [if_neg (by rw [ordinary]; exact fun leap => Bool.false_ne_true leap.1)]
  omega

theorem second_leaveLeap (i : Instant) (later : Bool) :
    (i.leaveLeap later).second = i.second + if i.time.isLeap = true ∧ later = true then 1 else 0 := by
  unfold Instant.leaveLeap
  cases i.time.isLeap <;> cases later <;> simp [Instant.second, TimeOfDay.ordinary]
  omega

theorem second_instantOf (d : Date) :
    (ctx.instantOf d).second + ctx.offset.seconds = 86400 * d.dayNumber + ctx.referenceSecond := by
  let reference := ctx.referenceTime
  let moved : Instant := ⟨reference.day + d.dayNumber - ctx.localDay reference, reference.time⟩
  have days : moved.second = 86400 * (d.dayNumber - ctx.localDay reference) + reference.second := by
    show (reference.day + d.dayNumber - ctx.localDay reference) * 86400 + reference.time.second =
      86400 * (d.dayNumber - ctx.localDay reference) +
        (reference.day * 86400 + reference.time.second)
    omega
  have split : ctx.localDay reference * 86400 +
      (reference.second + ctx.offset.seconds) % 86400 = reference.second + ctx.offset.seconds := by
    unfold localDay
    omega
  show (if ctx.offset.seconds = 0 then moved
    else moved.leaveLeap (0 < ctx.offset.seconds)).second + _ = _ * _ +
      ((reference.second + ctx.offset.seconds) % 86400 +
        if reference.time.isLeap = true ∧ 0 < ctx.offset.seconds then 1 else 0)
  by_cases utc : ctx.offset.seconds = 0
  · rw [if_pos utc, if_neg (by omega)]
    omega
  · rw [if_neg utc, second_leaveLeap]
    simp only [decide_eq_true_eq]
    show _ + (if reference.time.isLeap = true ∧ _ then _ else _) + _ = _
    omega

/-- what is within a second does not depend on the date -/
theorem subsecond_instantOf (d : Date) :
    (ctx.instantOf d).time.nanosecond = ctx.referenceTime.time.nanosecond ∧
      (ctx.instantOf d).time.isLeap =
        (decide (ctx.offset.seconds = 0) && ctx.referenceTime.time.isLeap) := by
  unfold instantOf Instant.leaveLeap
  by_cases utc : ctx.offset.seconds = 0
  · simp [utc]
  · simp only [utc, if_false]
    split <;> simp [TimeOfDay.ordinary]

/-! ## instants of dates -/

theorem instantOf_le_iff {a b : Date} : ctx.instantOf a ≤ ctx.instantOf b ↔ a ≤ b := by
  have ha := ctx.second_instantOf a
  have hb := ctx.second_instantOf b
  obtain ⟨nano, leap⟩ := ctx.subsecond_instantOf a
  obtain ⟨nano', leap'⟩ := ctx.subsecond_instantOf b
  rw [Instant.le_def, Instant.place_eq, Instant.place_eq, nano, nano', leap, leap']
  show _ ↔ a.dayNumber ≤ b.dayNumber
  omega

variable {ctx} {i : Instant} {d : Date}

/-- an instant of an earlier date -/
theorem lt_instantOf (h : ctx.localDate i < d) : i < ctx.instantOf d := by
  change (ctx.localDate i).dayNumber < d.dayNumber at h
  rw [dayNumber_localDate] at h
  have placed := ctx.second_instantOf d
  have bounds := ctx.referenceSecond_bounds
  unfold localDay at h
  exact Instant.lt_of_second_lt (by omega)

/-- an instant of a later date -/
theorem instantOf_lt (within : ctx.referenceSecond < 86400) (h : d < ctx.localDate i) :
    ctx.instantOf d < i := by
  change d.dayNumber < (ctx.localDate i).dayNumber at h
  rw [dayNumber_localDate] at h
  have placed := ctx.second_instantOf d
  unfold localDay at h
  exact Instant.lt_of_second_lt (by omega)

end Context

end SubscriptionBundles
