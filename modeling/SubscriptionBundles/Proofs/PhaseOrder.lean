import SubscriptionBundles.Proofs.LocalDates
import SubscriptionBundles.Proofs.PhaseSchedules

/-!
# Phases in order

Two phases of one length end in the order of their starts, with two exceptions.  Months that put both
ends on the last day of one month keep the times of day, so the later start may end earlier that day.
And days leave a leap second, so a start in one may end within the second of a start just before it.

* `Date.addMonths_le_addMonths`     months keep the order of dates;
* `PhaseDuration.Overtakes`         the two exceptions, told by the starts;
* `PhaseDuration.addTo?_le_iff`     the ends are in order just when there is none of them;
* `begun_append_upcoming`           a schedule is what has begun and then what is to come;
* `phase_lengths_in_order`          the order of ends and of the phases of a plan.
-/

namespace SubscriptionBundles

/-! ## months -/

namespace Date
variable {a b : Date}

theorem addMonths_le_addMonths (h : a ≤ b) (n : Int) : a.addMonths n ≤ b.addMonths n := by
  have ha := monthNumber_addMonths a n
  have hb := monthNumber_addMonths b n
  rw [Date.le_iff] at *
  rcases h with earlier | ⟨same, days⟩
  · omega
  · have month : (a.addMonths n).monthNumber = (b.addMonths n).monthNumber := by omega
    have last := lastDay_of_same_month month
    rw [day_addMonths a, day_addMonths b]
    omega

/-- months put two dates of one month on one day if they differ beyond its end -/
theorem addMonths_eq_iff (h : a < b) (n : Int) :
    a.addMonths n = b.addMonths n ↔
      a.monthNumber = b.monthNumber ∧ (a.addMonths n).lastDay ≤ a.day := by
  have ha := monthNumber_addMonths a n
  have hb := monthNumber_addMonths b n
  have after : ¬b ≤ a := Int.not_le.2 h
  rw [Date.le_iff] at after
  have dayA := day_addMonths a n
  have dayB := day_addMonths b n
  constructor
  · intro same
    rw [← same] at hb dayB
    omega
  · rintro ⟨month, beyond⟩
    have month : (a.addMonths n).monthNumber = (b.addMonths n).monthNumber := by omega
    have last := lastDay_of_same_month month
    refine le_antisymm ?_ ?_
    all_goals
      rw [Date.le_iff]
      omega

end Date

/-! ## ends of phases -/

namespace Instant
variable {a b : Instant}

/-- so many months put both instants on the last day of a month, the later one at an earlier time -/
def MonthsOvertake (n : Nat) (a b : Instant) : Prop :=
  a.date.monthNumber = b.date.monthNumber ∧ (a.date.addMonths n).lastDay ≤ a.date.day ∧
    b.time.place < a.time.place

/-- so many days put the later instant, which leaves a leap second, earlier in the same second -/
def DaysOvertake (n : Nat) (a b : Instant) : Prop :=
  0 < n ∧ a.second = b.second ∧ b.time.nanosecond < a.time.nanosecond

theorem date_le_of_le (h : a ≤ b) : a.date ≤ b.date := by
  rcases le_iff_date.1 h with earlier | ⟨same, _⟩
  · exact Int.le_of_lt earlier
  · rw [same]
    exact Int.le_refl _

variable {n : Nat} {i j : Instant} (h : a ≤ b)
include h

theorem addMonths?_date_le (ha : a.addMonths? n = some i) (hb : b.addMonths? n = some j) :
    i.date ≤ j.date := by
  rw [(addMonths?_eq_some ha).1, (addMonths?_eq_some hb).1]
  exact Date.addMonths_le_addMonths (date_le_of_le h) n

theorem addMonths?_le_iff (ha : a.addMonths? n = some i) (hb : b.addMonths? n = some j) :
    i ≤ j ↔ ¬MonthsOvertake n a b := by
  have dates := addMonths?_date_le h ha hb
  obtain ⟨dateA, timeA⟩ := addMonths?_eq_some ha
  obtain ⟨dateB, timeB⟩ := addMonths?_eq_some hb
  -- an end that comes too late is of the same date, so only the times of day decide
  have swapped : ¬i ≤ j ↔ i.date = j.date ∧ b.time.place < a.time.place := by
    rw [le_iff_date, ← Date.dayNumber_inj, timeA, timeB]
    change i.date.dayNumber ≤ j.date.dayNumber at dates
    show ¬(i.date.dayNumber < j.date.dayNumber ∨ _) ↔ _
    omega
  rw [iff_not_comm, Iff.comm, swapped, dateA, dateB]
  unfold MonthsOvertake
  rw [← and_assoc]
  refine and_congr_left fun early => (Date.addMonths_eq_iff ?_ n)
  rcases le_iff_date.1 h with earlier | ⟨_, times⟩
  · exact earlier
  · omega

theorem addDays?_date_le (ha : a.addDays? n = some i) (hb : b.addDays? n = some j) :
    i.date ≤ j.date := by
  have dates : a.date.dayNumber ≤ b.date.dayNumber := date_le_of_le h
  rw [dayNumber_date, dayNumber_date] at dates
  show i.date.dayNumber ≤ j.date.dayNumber
  rw [dayNumber_date, dayNumber_date, addDays?_eq_some ha, addDays?_eq_some hb]
  split
  · exact dates
  · exact Int.add_le_add_right dates _

theorem addDays?_le_iff (ha : a.addDays? n = some i) (hb : b.addDays? n = some j) :
    i ≤ j ↔ ¬DaysOvertake n a b := by
  rw [addDays?_eq_some ha, addDays?_eq_some hb]
  unfold DaysOvertake
  by_cases stay : n = 0
  · rw [if_pos stay, if_pos stay]
    exact iff_of_true h fun swapped => by omega
  · rw [if_neg stay, if_neg stay]
    rw [le_def, place_eq, place_eq] at *
    have secondA := a.time.nanosecond_lt
    have secondB := b.time.nanosecond_lt
    have leapA := a.time.isLeap.toNat_le
    have leapB := b.time.isLeap.toNat_le
    unfold second TimeOfDay.ordinary at *
    dsimp only [Bool.toNat_false] at *
    omega

end Instant

namespace PhaseDuration

/-- the length in months, if it is told in months or years -/
def months? : PhaseDuration → Option Nat
  | months n => some n.toNat
  | years n => some (12 * n.toNat)
  | _ => none

/-- of two phases of this length, the one from `b` ends before the one from `a` does -/
def Overtakes (a b : Instant) : PhaseDuration → Prop
  | days n => a.DaysOvertake n.toNat b
  | months n => a.MonthsOvertake n.toNat b
  | years n => a.MonthsOvertake (12 * n.toNat) b
  | unlimited => False

variable {duration : PhaseDuration} {start a b i j : Instant}

theorem addTo?_of_months? {n : Nat} (h : duration.months? = some n) :
    duration.addTo? start = start.addMonths? n := by
  cases duration with
  | days n => cases h
  | months n => cases h; rfl
  | years n => cases h; rfl
  | unlimited => cases h

theorem addTo?_date_le (h : a ≤ b) (ha : duration.addTo? a = some i)
    (hb : duration.addTo? b = some j) : i.date ≤ j.date := by
  cases duration with
  | days n => exact Instant.addDays?_date_le h ha hb
  | months n => exact Instant.addMonths?_date_le h ha hb
  | years n => exact Instant.addMonths?_date_le h ha hb
  | unlimited => cases ha

theorem addTo?_le_iff (h : a ≤ b) (ha : duration.addTo? a = some i)
    (hb : duration.addTo? b = some j) : i ≤ j ↔ ¬duration.Overtakes a b := by
  cases duration with
  | days n => exact Instant.addDays?_le_iff h ha hb
  | months n => exact Instant.addMonths?_le_iff h ha hb
  | years n => exact Instant.addMonths?_le_iff h ha hb
  | unlimited => cases ha

end PhaseDuration

/-! ## schedules -/

section
variable {schedule : List (PhaseType × Instant)} (sorted : schedule.Pairwise fun a b => a.2 ≤ b.2)
include sorted

/-- in order, what is to come is what comes last -/
theorem upcoming_eq_dropWhile (date : Instant) :
    upcoming schedule date = schedule.dropWhile fun q => decide (q.2 ≤ date) := by
  unfold upcoming
  induction schedule with
  | nil => rfl
  | cons q rest ih =>
    obtain ⟨after, sorted⟩ := List.pairwise_cons.1 sorted
    by_cases due : q.2 ≤ date
    · have passed : ¬date < q.2 := Int.not_lt.2 due
      rw [List.dropWhile_cons_of_pos (by simpa using due),
        List.filter_cons_of_neg (by simpa using passed), ih sorted]
    · have ahead : date < q.2 := Int.not_le.1 due
      rw [List.dropWhile_cons_of_neg (by simpa using due), List.filter_eq_self]
      intro other ho
      rw [decide_eq_true_eq]
      rcases List.mem_cons.1 ho with rfl | ho
      · exact ahead
      · exact Int.lt_of_lt_of_le ahead (after other ho)

theorem begun_append_upcoming (date : Instant) :
    schedule.takeWhile (fun q => decide (q.2 ≤ date)) ++ upcoming schedule date = schedule := by
  rw [upcoming_eq_dropWhile sorted, List.takeWhile_append_dropWhile]

end

/-- A phase does not end before it starts.  The dates of two ends are in the order of the starts, and
so are the ends unless one overtakes the other; months keep the time of day, and the day as far as the
month has it.  So the phases of a plan start in order, and at any date those that have begun come before
those to come. -/
theorem phase_lengths_in_order :
    (∀ (duration : PhaseDuration) (a b endA endB : Instant), a ≤ b →
      duration.addTo? a = some endA → duration.addTo? b = some endB →
        a ≤ endA ∧ endA.date ≤ endB.date ∧ (endA ≤ endB ↔ ¬duration.Overtakes a b) ∧
          ∀ n, duration.months? = some n →
            endA.time = a.time ∧ endA.date.monthNumber = a.date.monthNumber + n ∧
              endA.date.day = min a.date.day endA.date.lastDay) ∧
      ∀ (p : Plan) (k : Nat) (start : Instant),
        let schedule := phaseSchedule start (p.phases.drop k)
        schedule.Pairwise (fun a b => a.2 ≤ b.2) ∧
          ∀ date, schedule.takeWhile (fun q => decide (q.2 ≤ date)) ++ upcoming schedule date =
            schedule := by
  refine ⟨fun duration a b endA endB h ha hb => ?_, fun p k start => ?_⟩
  · refine ⟨PhaseDuration.le_of_addTo? ha, PhaseDuration.addTo?_date_le h ha hb,
      PhaseDuration.addTo?_le_iff h ha hb, fun n months => ?_⟩
    rw [PhaseDuration.addTo?_of_months? months] at ha
    obtain ⟨date, time⟩ := Instant.addMonths?_eq_some ha
    rw [date]
    exact ⟨time, Date.monthNumber_addMonths _ _, Date.day_addMonths _ _⟩
  · have sorted := phaseSchedule_sorted start (p.phases.drop k)
    exact ⟨sorted, begun_append_upcoming sorted⟩

/-- from January 30 and 31, both in the morning, a month leads to February 28, in the same order -/
theorem phase_lengths_in_order_february :
    let a := (Shop.midnight 20483).addMinutes 540
    let b := (Shop.midnight 20484).addMinutes 600
    let endA := (Shop.midnight 20512).addMinutes 540
    let endB := (Shop.midnight 20512).addMinutes 600
    let month := PhaseDuration.months 1
    a ≤ b ∧ month.addTo? a = some endA ∧ month.addTo? b = some endB ∧ a ≤ endA ∧ endA ≤ endB ∧
      endA.time = a.time ∧ endA.date.day = min a.date.day endA.date.lastDay := by
  intro a b endA endB month
  have order : a ≤ b := by decide
  have ends : month.addTo? a = some endA ∧ month.addTo? b = some endB := by decide +kernel
  obtain ⟨later, _, kept, months⟩ := phase_lengths_in_order.1 month a b endA endB order ends.1 ends.2
  obtain ⟨time, _, day⟩ := months 1 rfl
  refine ⟨order, ends.1, ends.2, later, kept.2 fun swapped => ?_, time, day⟩
  have early : ¬b.time.place < a.time.place := by decide
  exact early swapped.2.2

/-- A month from January 30 at ten ends after a month from January 31 at nine; and on a day with a leap
second, a day from just before it ends after a day from its start. -/
theorem ends_overtaken :
    let ten := (Shop.midnight 20483).addMinutes 600
    let nine := (Shop.midnight 20484).addMinutes 540
    let before : Instant := ⟨17166, 86399, 900000000, false, by decide, by decide, by decide⟩
    let leap : Instant := ⟨17166, 86399, 0, true, by decide, by decide, by decide⟩
    (∃ i j, ten ≤ nine ∧ (PhaseDuration.months 1).addTo? ten = some i ∧
        (PhaseDuration.months 1).addTo? nine = some j ∧ ¬i ≤ j) ∧
      ∃ i j, before ≤ leap ∧ (PhaseDuration.days 1).addTo? before = some i ∧
        (PhaseDuration.days 1).addTo? leap = some j ∧ ¬i ≤ j := by
  refine ⟨⟨(Shop.midnight 20512).addMinutes 600, (Shop.midnight 20512).addMinutes 540, ?_⟩,
    ⟨⟨17167, 86399, 900000000, false, by decide, by decide, by decide⟩,
      ⟨17167, 86399, 0, false, by decide, by decide, by decide⟩, ?_⟩⟩
  · decide +kernel
  · decide +kernel

end SubscriptionBundles
