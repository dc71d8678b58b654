import SubscriptionBundles.Proofs.DateOrder
import SubscriptionBundles.Proofs.Endings
import SubscriptionBundles.Proofs.LocalDates

/-!
# Dates and the instants they name

An instant named by its date is of that date, and a date asked for is not before a subscription just
when it is not before the date of the subscription's start.  Both hold on every clock but one: ahead of
UTC, with a reference time in the leap second that ends the account's day.  That leap second is passed
over, and the second after it is of the next date.

* `Context.PassesMidnight`        such a clock;
* `Context.localDay_instantOf`    the date of an instant named by its date;
* `start_le_requestedInstant_iff`  a date asked for, against the start of a subscription;
* `requestedInstant_lt_iff`       a later date asked for is a later instant;
* `dates_name_instants_iff`       dates and instants correspond just when no midnight is passed.
-/

namespace SubscriptionBundles

namespace Context
variable {ctx : Context}

/-- the account's day ends with the reference time's leap second, which its clock passes over -/
def PassesMidnight (ctx : Context) : Prop :=
  ctx.referenceTime.time.isLeap = true ∧ 0 < ctx.offset.seconds ∧
    (ctx.referenceTime.second + ctx.offset.seconds) % 86400 = 86399

theorem referenceSecond_lt_iff : ctx.referenceSecond < 86400 ↔ ¬ctx.PassesMidnight := by
  unfold referenceSecond PassesMidnight
  split
  · next leap =>
    simp only [leap, true_and]
    omega
  · next ordinary =>
    constructor
    · exact fun _ passes => ordinary ⟨passes.1, passes.2.1⟩
    · intro _
      omega

theorem localDay_instantOf (d : Date) :
    ctx.localDay (ctx.instantOf d) = d.dayNumber + ctx.referenceSecond / 86400 := by
  have placed := ctx.second_instantOf d
  unfold localDay
  omega

theorem localDate_instantOf_iff {d : Date} :
    ctx.localDate (ctx.instantOf d) = d ↔ ¬ctx.PassesMidnight := by
  have day : (ctx.localDate (ctx.instantOf d)).dayNumber =
      d.dayNumber + ctx.referenceSecond / 86400 := by
    rw [dayNumber_localDate, localDay_instantOf]
  have bounds := ctx.referenceSecond_bounds
  rw [← referenceSecond_lt_iff]
  constructor
  · intro same
    rw [same] at day
    omega
  · intro within
    exact Date.dayNumber_inj.1 (by omega)

theorem instantOf_lt_iff {a b : Date} : ctx.instantOf a < ctx.instantOf b ↔ a < b := by
  have order := ctx.instantOf_le_iff (a := b) (b := a)
  change _ ↔ b.dayNumber ≤ a.dayNumber at order
  rw [Instant.le_def] at order
  rw [Instant.lt_def]
  show _ ↔ a.dayNumber < b.dayNumber
  omega

end Context

/-! ## dates asked for -/

section
variable {ctx : Context} {s : Subscription} {a b d : Date}

/-- the day of the start, on which no instant before the start is given -/
theorem requestedInstant_start :
    requestedInstant ctx s (ctx.localDate s.startDate) =
      max s.startDate (ctx.instantOf (ctx.localDate s.startDate)) := by
  unfold requestedInstant
  rw [Instant.max_def]
  dsimp only
  by_cases early : ctx.instantOf (ctx.localDate s.startDate) < s.startDate
  · have not_after : ¬s.startDate ≤ ctx.instantOf (ctx.localDate s.startDate) := Int.not_le.2 early
    rw [if_pos ⟨rfl, early⟩, if_neg not_after]
  · have after : s.startDate ≤ ctx.instantOf (ctx.localDate s.startDate) := Int.not_lt.1 early
    rw [if_neg (fun both => early both.2), if_pos after]

theorem requestedInstant_of_ne (other : d ≠ ctx.localDate s.startDate) :
    requestedInstant ctx s d = ctx.instantOf d := by
  unfold requestedInstant
  exact if_neg fun both => other both.1

theorem start_le_requestedInstant (reached : ctx.localDate s.startDate ≤ d) :
    s.startDate ≤ requestedInstant ctx s d := by
  by_cases start : d = ctx.localDate s.startDate
  · subst start
    rw [requestedInstant_start]
    exact (Instant.max_le_iff.1 (Instant.le_refl _)).1
  · have later : ctx.localDate s.startDate < d :=
      Int.not_le.1 fun before => start (Date.le_antisymm before reached)
    rw [requestedInstant_of_ne start]
    exact Int.le_of_lt (Context.lt_instantOf later)

theorem start_le_requestedInstant_iff (ordinary : ¬ctx.PassesMidnight) :
    s.startDate ≤ requestedInstant ctx s d ↔ ctx.localDate s.startDate ≤ d := by
  refine ⟨fun reached => Int.not_lt.1 fun earlier => ?_, start_le_requestedInstant⟩
  have before := Context.instantOf_lt (Context.referenceSecond_lt_iff.2 ordinary) earlier
  rw [requestedInstant_of_ne (Date.ne_of_lt earlier)] at reached
  exact Int.not_lt.2 reached before

/-- The day of the start is the only one whose instant is moved.  It is moved to the start, which no
later date comes before. -/
theorem requestedInstant_lt (earlier : a < b) :
    requestedInstant ctx s a < requestedInstant ctx s b := by
  have named : ctx.instantOf a < ctx.instantOf b := Context.instantOf_lt_iff.2 earlier
  by_cases start : a = ctx.localDate s.startDate
  · subst start
    have after := Context.lt_instantOf earlier
    rw [requestedInstant_start, requestedInstant_of_ne (Date.ne_of_lt earlier).symm,
      Instant.max_def]
    split
    · exact named
    · exact after
  · rw [requestedInstant_of_ne start]
    by_cases start : b = ctx.localDate s.startDate
    · subst start
      rw [requestedInstant_start]
      exact Int.lt_of_lt_of_le named (Instant.le_max_right _ _)
    · rw [requestedInstant_of_ne start]
      exact named

theorem requestedInstant_lt_iff :
    requestedInstant ctx s a < requestedInstant ctx s b ↔ a < b := by
  refine ⟨fun before => Int.not_le.1 fun reached => ?_, requestedInstant_lt⟩
  by_cases same : b = a
  · subst same
    exact Int.lt_irrefl _ before
  · have later : b < a := Int.not_le.1 fun back => same (Date.le_antisymm reached back)
    exact Int.lt_asymm before (requestedInstant_lt later)

end

/-- Later dates name later instants, also where the day of a start is moved to the start.  A named
instant is of its date, and a date asked for is not before a start just when it is not before the date
of the start, unless the clock passes midnight. -/
theorem dates_name_instants_iff (ctx : Context) :
    (∀ a b, ctx.instantOf a < ctx.instantOf b ↔ a < b) ∧
      (∀ s a b, requestedInstant ctx s a < requestedInstant ctx s b ↔ a < b) ∧
      (∀ d, ctx.localDate (ctx.instantOf d) = d ↔ ¬ctx.PassesMidnight) ∧
      ∀ d, (∀ s, s.startDate ≤ requestedInstant ctx s d ↔ ctx.localDate s.startDate ≤ d) ↔
        ¬ctx.PassesMidnight := by
  refine ⟨fun a b => Context.instantOf_lt_iff, fun s a b => requestedInstant_lt_iff,
    fun d => Context.localDate_instantOf_iff, fun d => ⟨fun agree passes => ?_,
      fun ordinary s => start_le_requestedInstant_iff ordinary⟩⟩
  -- a subscription that starts at the instant of the date, which is of the next date
  let s : Subscription := { Subscription.rebuild Shop.recancelled [] (Shop.midnight 20001) with
    startDate := ctx.instantOf d }
  have day : ctx.localDay (ctx.instantOf d) = d.dayNumber + ctx.referenceSecond / 86400 :=
    Context.localDay_instantOf d
  have second : ¬ctx.referenceSecond < 86400 := fun within =>
    Context.referenceSecond_lt_iff.1 within passes
  have next : d < ctx.localDate s.startDate := by
    show d.dayNumber < (ctx.localDate (ctx.instantOf d)).dayNumber
    rw [Context.dayNumber_localDate, day]
    omega
  have started : s.startDate ≤ requestedInstant ctx s d := by
    rw [requestedInstant_of_ne (Date.ne_of_lt next)]
    exact Instant.le_refl _
  exact Int.not_lt.2 ((agree s).1 started) next

/-- an hour ahead of UTC, with a leap second at the end of the day, the instant of April 10 is of
April 11 -/
theorem leap_midnight_passed :
    let leap : TimeOfDay := ⟨82799, 0, true, by decide, by decide, by decide⟩
    let ctx : Context := ⟨Shop.owner, Shop.midnight 20553, ⟨20553, leap⟩, ⟨3600, by decide⟩⟩
    let s := { Subscription.rebuild Shop.recancelled [] (Shop.midnight 20001) with
      startDate := (Shop.midnight 20553).addMinutes 1380 }
    let date := Date.ofDayNumber 20553
    ctx.localDate ctx.referenceTime = date ∧
      ctx.instantOf date = (Shop.midnight 20553).addMinutes 1380 ∧
      ctx.localDate (ctx.instantOf date) ≠ date ∧
      s.startDate ≤ requestedInstant ctx s date ∧ ¬ctx.localDate s.startDate ≤ date := by
  decide +kernel

end SubscriptionBundles
