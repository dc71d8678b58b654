import SubscriptionBundles.Catalog.Plan
import SubscriptionBundles.Proofs.DateOrder

/-!
# Phases take time

A phase never ends before it starts.

* `Date.le_addMonths`           months later is no earlier;
* `Instant.le_iff_date`         instants are ordered by date, and then by time of day;
* `Instant.le_of_addDays?`, `Instant.le_of_addMonths?`  an instant days or months later is no earlier;
* `PhaseDuration.le_of_addTo?`  and of the end of a phase.
-/

namespace SubscriptionBundles

/-! ## dates -/

namespace Date

theorem addMonths_zero (d : Date) : d.addMonths 0 = d := by
  have months := d.exists_month
  have year : (d.monthNumber + 0) / 12 = d.year := by
    unfold monthNumber
    omega
  have month : ((d.monthNumber + 0) % 12).toNat + 1 = d.month := by
    unfold monthNumber
    omega
  obtain ⟨y, m, day, _, hd⟩ := d
  simp only [addMonths, mk.injEq]
  rw [year, month]
  exact ⟨rfl, rfl, Nat.min_eq_left hd.2⟩

theorem le_addMonths (d : Date) (n : Nat) : d ≤ d.addMonths n := by
  cases n with
  | zero =>
    rw [Int.natCast_zero, addMonths_zero]
    exact Int.le_refl d.dayNumber
  | succ n =>
    have months := monthNumber_addMonths d (n + 1 : Nat)
    exact Int.le_of_lt (lt_of_monthNumber_lt (by omega))

end Date

/-! ## instants -/

namespace Instant

theorem eq_of_representable? {i j : Instant} (h : i.representable? = some j) : i = j := by
  unfold representable? at h
  split at h
  · exact Option.some.inj h
  · cases h

theorem dayNumber_date (i : Instant) : i.date.dayNumber = i.day := Date.dayNumber_ofDayNumber i.day

theorem date_ofDate (d : Date) (time : TimeOfDay) : (ofDate d time).date = d :=
  Date.dayNumber_inj.1 (Date.dayNumber_ofDayNumber d.dayNumber)

theorem le_iff_date {a b : Instant} :
    a ≤ b ↔ a.date < b.date ∨ a.date = b.date ∧ a.time.place ≤ b.time.place := by
  have placeA := a.time.place_lt
  have placeB := b.time.place_lt
  rw [← Date.dayNumber_inj, le_def]
  show _ ↔ a.date.dayNumber < b.date.dayNumber ∨ _
  rw [dayNumber_date, dayNumber_date]
  unfold place
  omega

theorem addDays?_eq_some {i j : Instant} {days : Nat} (h : i.addDays? days = some j) :
    j = if days = 0 then i else ⟨i.day + days, i.time.ordinary⟩ :=
  (eq_of_representable? h).symm

theorem addMonths?_eq_some {i j : Instant} {months : Nat} (h : i.addMonths? months = some j) :
    j.date = i.date.addMonths months ∧ j.time = i.time := by
  obtain ⟨d, hd, rfl⟩ := Option.map_eq_some_iff.1 h
  unfold Date.addMonths? Date.representable? at hd
  split at hd
  · cases hd
    exact ⟨date_ofDate _ _, rfl⟩
  · cases hd

theorem le_of_addDays? {i j : Instant} {days : Nat} (h : i.addDays? days = some j) : i ≤ j := by
  rw [addDays?_eq_some h]
  split
  · exact le_refl i
  · have later : i.date < (⟨i.day + days, i.time.ordinary⟩ : Instant).date := by
      show i.date.dayNumber < _
      rw [dayNumber_date, dayNumber_date]
      show i.day < i.day + days
      omega
    exact le_iff_date.2 (.inl later)

theorem le_of_addMonths? {i j : Instant} {months : Nat} (h : i.addMonths? months = some j) :
    i ≤ j := by
  obtain ⟨date, time⟩ := addMonths?_eq_some h
  have days : i.date.dayNumber ≤ j.date.dayNumber := by
    rw [date]
    exact i.date.le_addMonths months
  rw [dayNumber_date, dayNumber_date] at days
  rw [le_def]
  unfold place
  rw [time]
  omega

end Instant

theorem PhaseDuration.le_of_addTo? {duration : PhaseDuration} {start next : Instant}
    (h : duration.addTo? start = some next) : start ≤ next := by
  cases duration with
  | days n => exact Instant.le_of_addDays? h
  | months n => exact Instant.le_of_addMonths? h
  | years n => exact Instant.le_of_addMonths? h
  | unlimited => cases h

end SubscriptionBundles
