import Mathlib.Order.Bounds.Defs
import SubscriptionBundles.Proofs.DateOrder
import SubscriptionBundles.Proofs.Endings

/-!
# Billing dates

Each month has one date that falls on a given billing day, so of two such dates the one of the
earlier month is the earlier.  A new billing day takes effect on the first of them from a reference
date on; a term begins on the last of them until the present.

* `Date.FallsOn`                  the dates of a billing day;
* `Date.FallsOn.le_iff`           they are ordered by month;
* `Date.exists_onDay?_addMonths`  the one of a month so many months away;
* `Date.FallsOn.isLeast_sameMonth`, `Date.FallsOn.isLeast_monthAfter`  which of them is the next;
* `Date.FallsOn.isGreatest_sameMonth`, `Date.FallsOn.isGreatest_monthBefore`  and which the last;
* `IsBillingDay`                  a day that some month has;
* `nextBillingDate_nearest`       when a new billing day takes effect;
* `termStart?_isGreatest`         when a term begins;
* `isLeast_of_next`, `isGreatest_of_termStart?`  what is found, without asking for its year;
* `effectiveDate_startOfTerm`     the instant that stands for the start of a term;
* `Date.hasMonthBefore`           the calendar reaches back to the month before;
* `exists_termStart?`             by a date of such a month, a term has begun.
-/

namespace SubscriptionBundles

/-! ## dates of a day -/

namespace Date

theorem isRepresentable_iff {d : Date} :
    d.isRepresentable = true ↔ firstYear ≤ d.year ∧ d.year ≤ lastYear := by
  unfold isRepresentable
  rw [Bool.and_eq_true, decide_eq_true_eq, decide_eq_true_eq]

/-- a calendar that has started by a date has the date until it ends -/
theorem representable?_of_started {d : Date} (started : firstYear ≤ d.year) :
    d.representable? = if d.year ≤ lastYear then some d else none := by
  unfold representable?
  simp only [isRepresentable_iff, started, true_and]

/-- a calendar that goes on until a date has the date from its start on -/
theorem representable?_of_goesOn {d : Date} (goesOn : d.year ≤ lastYear) :
    d.representable? = if firstYear ≤ d.year then some d else none := by
  unfold representable?
  simp only [isRepresentable_iff, goesOn, and_true]

theorem eq_of_representable? {d e : Date} (h : d.representable? = some e) : d = e := by
  unfold representable? at h
  split at h
  · exact Option.some.inj h
  · cases h

/-- the date is on the billing day, or the last of a month too short for it -/
def FallsOn (d : Date) (day : Nat) : Prop := d.day = min day d.lastDay

instance (d : Date) (day : Nat) : Decidable (d.FallsOn day) :=
  inferInstanceAs (Decidable (d.day = min day d.lastDay))

/-- dates of one day are ordered by month -/
theorem FallsOn.le_iff {a b : Date} {day : Nat} (ha : a.FallsOn day) (hb : b.FallsOn day) :
    a ≤ b ↔ a.monthNumber ≤ b.monthNumber := by
  rw [Date.le_iff]
  unfold FallsOn at ha hb
  constructor
  · omega
  · intro months
    rcases Int.lt_or_eq_of_le months with earlier | same
    · exact .inl earlier
    · have last := lastDay_of_same_month same
      exact .inr ⟨same, by omega⟩

theorem onDay?_eq_some_iff {d e : Date} {day : Nat} :
    d.onDay? day = some e ↔ e.monthNumber = d.monthNumber ∧ e.FallsOn day := by
  unfold onDay? FallsOn
  rw [withDay?_eq_some_iff, same_month_iff, and_assoc]
  apply and_congr_right
  intro year
  apply and_congr_right
  intro month
  unfold lastDay
  rw [year, month]

theorem onDay?_isSome_iff {d : Date} {day : Nat} : (d.onDay? day).isSome = true ↔ 1 ≤ day := by
  have last := le_daysInMonth d.year d.month
  unfold onDay? withDay? lastDay
  split
  · simp; omega
  · simp; omega

/-- every month has a date of the day -/
theorem exists_onDay? (d : Date) {day : Nat} (first : 1 ≤ day) :
    ∃ e, d.onDay? day = some e ∧ e.monthNumber = d.monthNumber ∧ e.FallsOn day := by
  obtain ⟨e, here⟩ := Option.isSome_iff_exists.1 (onDay?_isSome_iff.2 first)
  exact ⟨e, here, onDay?_eq_some_iff.1 here⟩

/-- so has the month `n` months away, and its date is found if the calendar has it -/
theorem exists_onDay?_addMonths (d : Date) (n : Int) {day : Nat} (first : 1 ≤ day) :
    ∃ e : Date, (d.firstOfMonth.addMonths? n).bind (·.onDay? day) = e.representable? ∧
      e.monthNumber = d.monthNumber + n ∧ e.FallsOn day := by
  obtain ⟨e, here, month, falls⟩ := exists_onDay? (d.firstOfMonth.addMonths n) first
  have real : (d.firstOfMonth.addMonths n).isRepresentable = e.isRepresentable := by
    unfold isRepresentable
    rw [(same_month_iff.1 month).1]
  refine ⟨e, ?_, month.trans (monthNumber_addMonths _ n), falls⟩
  unfold addMonths? representable?
  rw [real]
  cases e.isRepresentable with
  | true => exact here
  | false => rfl

/-! ## the nearest of them -/

section
variable {d reference : Date} {day : Nat} (falls : d.FallsOn day)
include falls

/-- the next date is in the month of the reference if its day has not passed there -/
theorem FallsOn.isLeast_sameMonth (month : d.monthNumber = reference.monthNumber)
    (ahead : reference.day ≤ day) : IsLeast {e : Date | reference ≤ e ∧ e.FallsOn day} d := by
  refine ⟨⟨?_, falls⟩, ?_⟩
  · have last := lastDay_of_same_month month
    have short : reference.day ≤ reference.lastDay := reference.exists_day.2
    unfold FallsOn at falls
    exact Date.le_iff.2 (.inr ⟨month.symm, by omega⟩)
  · rintro e ⟨notBefore, on⟩
    rw [falls.le_iff on, month]
    exact monthNumber_le_of_le notBefore

/-- and in the month after it otherwise -/
theorem FallsOn.isLeast_monthAfter (month : d.monthNumber = reference.monthNumber + 1)
    (passed : day < reference.day) : IsLeast {e : Date | reference ≤ e ∧ e.FallsOn day} d := by
  refine ⟨⟨Date.le_iff.2 (.inl (by omega)), falls⟩, ?_⟩
  rintro e ⟨notBefore, on⟩
  rw [falls.le_iff on, month]
  rw [Date.le_iff] at notBefore
  unfold FallsOn at on
  omega

/-- the last date is in the month of the reference if it is not after it -/
theorem FallsOn.isGreatest_sameMonth (month : d.monthNumber = reference.monthNumber)
    (reached : d ≤ reference) : IsGreatest {e : Date | e ≤ reference ∧ e.FallsOn day} d := by
  refine ⟨⟨reached, falls⟩, ?_⟩
  rintro e ⟨notAfter, on⟩
  rw [on.le_iff falls, month]
  exact monthNumber_le_of_le notAfter

/-- and in the month before it otherwise -/
theorem FallsOn.isGreatest_monthBefore (month : d.monthNumber = reference.monthNumber + -1)
    {later : Date} (on : later.FallsOn day) (here : later.monthNumber = reference.monthNumber)
    (ahead : ¬later ≤ reference) : IsGreatest {e : Date | e ≤ reference ∧ e.FallsOn day} d := by
  refine ⟨⟨Date.le_iff.2 (.inl (by omega)), falls⟩, ?_⟩
  rintro e ⟨notAfter, one⟩
  have notYet : ¬later ≤ e := by
    intro reached
    exact ahead (Int.le_trans reached notAfter)
  rw [on.le_iff one] at notYet
  rw [one.le_iff falls]
  omega

end

end Date

/-! ## billing days -/

def IsBillingDay (day : UInt32) : Prop := 1 ≤ day.toNat ∧ day.toNat ≤ 31

theorem isBillingDay_ofDate (d : Date) : IsBillingDay (UInt32.ofNat d.day) := by
  obtain ⟨first, last⟩ := d.exists_day
  have short := daysInMonth_le d.year d.month
  unfold IsBillingDay
  rw [UInt32.toNat_ofNat_of_lt' (by show d.day < 2 ^ 32; omega)]
  omega

/-! ## the next date -/

section
variable {day : UInt32} {reference : Date} {explicit : Bool}

theorem nextBillingDate_of_not_isBillingDay (other : ¬IsBillingDay day) :
    nextBillingDate day reference explicit = .error (.invalidBillCycleDay day) := by
  unfold IsBillingDay at other
  unfold nextBillingDate
  rw [if_pos (by omega)]

/-- a day that takes effect at some time is a billing day -/
theorem isBillingDay_of_next {date : BillingDate}
    (h : nextBillingDate day reference explicit = .ok date) : IsBillingDay day := by
  by_contra other
  rw [nextBillingDate_of_not_isBillingDay other] at h
  cases h

theorem nextBillingDate_at_once (billing : IsBillingDay day) (same : day.toNat = reference.day) :
    nextBillingDate day reference false = .ok .immediate := by
  unfold IsBillingDay at billing
  unfold nextBillingDate
  rw [if_neg (by omega), if_neg (by omega), if_pos ⟨same, rfl⟩]

/-- a day that does not take effect at once does so on the nearest date: in the month of the reference,
or in the one after it if the calendar has its date -/
theorem nextBillingDate_cases (billing : IsBillingDay day)
    (waits : ¬(day.toNat = reference.day ∧ explicit = false)) :
    ∃ d, IsLeast {e : Date | reference ≤ e ∧ e.FallsOn day.toNat} d ∧
      (d.year = reference.year ∧ nextBillingDate day reference explicit = .ok (.on d) ∨
        nextBillingDate day reference explicit =
          match d.representable? with
          | some d => .ok (.on d)
          | none => .error (.invalidBillCycleDay day)) := by
  have inside : ¬(day.toNat < 1 ∨ 31 < day.toNat) := by
    unfold IsBillingDay at billing
    omega
  unfold nextBillingDate
  dsimp only
  rw [if_neg inside]
  by_cases passed : day.toNat < reference.day
  · rw [if_pos passed]
    obtain ⟨d, next, month, falls⟩ := reference.exists_onDay?_addMonths 1 billing.1
    rw [next]
    exact ⟨d, falls.isLeast_monthAfter month passed, .inr rfl⟩
  · rw [if_neg passed, if_neg waits]
    obtain ⟨d, here, month, falls⟩ := reference.exists_onDay? billing.1
    rw [here]
    exact ⟨d, falls.isLeast_sameMonth month (by omega), .inl ⟨(Date.same_month_iff.1 month).1, rfl⟩⟩

/-- it does so if there is such a year -/
theorem nextBillingDate_isLeast (real : reference.isRepresentable = true)
    (billing : IsBillingDay day) (waits : ¬(day.toNat = reference.day ∧ explicit = false)) :
    ∃ d, IsLeast {e : Date | reference ≤ e ∧ e.FallsOn day.toNat} d ∧
      nextBillingDate day reference explicit =
        if d.year ≤ Date.lastYear then .ok (.on d) else .error (.invalidBillCycleDay day) := by
  have years := Date.isRepresentable_iff.1 real
  obtain ⟨d, least, ⟨year, found⟩ | found⟩ := nextBillingDate_cases billing waits
  · -- the year is that of the reference, which the calendar has
    exact ⟨d, least, by rw [found, if_pos (by omega)]⟩
  · have started : Date.firstYear ≤ d.year := Int.le_trans years.1 (Date.year_le_of_le least.1.1)
    refine ⟨d, least, ?_⟩
    rw [found, Date.representable?_of_started started]
    by_cases goesOn : d.year ≤ Date.lastYear
    · rw [if_pos goesOn, if_pos goesOn]
    · rw [if_neg goesOn, if_neg goesOn]

theorem day_eq_of_at_once (next : nextBillingDate day reference explicit = .ok .immediate) :
    day.toNat = reference.day := by
  unfold nextBillingDate at next
  dsimp only at next
  split at next
  · cases next
  · split at next
    · split at next <;> cases next
    · split at next
      · next same => exact same.1
      · split at next <;> cases next

theorem not_at_once_of_next {d : Date} (next : nextBillingDate day reference explicit = .ok (.on d)) :
    ¬(day.toNat = reference.day ∧ explicit = false) := by
  rintro ⟨same, rfl⟩
  rw [nextBillingDate_at_once (isBillingDay_of_next next) same] at next
  cases next

/-- a billing date that is found is the nearest, whatever the reference -/
theorem isLeast_of_next {d : Date} (next : nextBillingDate day reference explicit = .ok (.on d)) :
    IsLeast {e : Date | reference ≤ e ∧ e.FallsOn day.toNat} d := by
  obtain ⟨nearest, least, ⟨_, found⟩ | found⟩ :=
    nextBillingDate_cases (isBillingDay_of_next next) (not_at_once_of_next next)
  · rw [found] at next
    cases next
    exact least
  · rw [found] at next
    cases real : nearest.representable? with
    | none =>
      rw [real] at next
      cases next
    | some _ =>
      obtain rfl := Date.eq_of_representable? real
      rw [real] at next
      cases next
      exact least

end

/-- A new billing day takes effect at once when it is the day of a reference that nobody asked for.
Otherwise it waits for the nearest date from the reference on.  It fails only when no month has the
day, or when the calendar ends before that date. -/
theorem nextBillingDate_nearest (day : UInt32) {reference : Date}
    (real : reference.isRepresentable = true) (explicit : Bool) :
    (nextBillingDate day reference explicit = .ok .immediate ↔
        IsBillingDay day ∧ day.toNat = reference.day ∧ explicit = false) ∧
      (IsBillingDay day → ¬(day.toNat = reference.day ∧ explicit = false) →
        ∃ d, IsLeast {e : Date | reference ≤ e ∧ e.FallsOn day.toNat} d ∧
          nextBillingDate day reference explicit =
            if d.year ≤ Date.lastYear then .ok (.on d) else .error (.invalidBillCycleDay day)) ∧
      (¬IsBillingDay day →
        nextBillingDate day reference explicit = .error (.invalidBillCycleDay day)) := by
  refine ⟨⟨?_, ?_⟩, nextBillingDate_isLeast real, nextBillingDate_of_not_isBillingDay⟩
  · intro immediate
    have billing := isBillingDay_of_next immediate
    by_contra waits
    obtain ⟨_, _, dated⟩ := nextBillingDate_isLeast real billing fun same => waits ⟨billing, same⟩
    rw [immediate] at dated
    split at dated <;> cases dated
  · rintro ⟨billing, same, rfl⟩
    exact nextBillingDate_at_once billing same

/-- at the end of January, the next thirtieth is the end of February -/
theorem nextBillingDate_nearest_january :
    let january : Date := ⟨2026, 1, 31, by decide, by decide⟩
    let february : Date := ⟨2026, 2, 28, by decide, by decide⟩
    january.isRepresentable = true ∧ nextBillingDate 30 january false = .ok (.on february) ∧
      IsLeast {e : Date | january ≤ e ∧ e.FallsOn 30} february := by
  intro january february
  have real : january.isRepresentable = true := by decide
  have next : nextBillingDate 30 january false = .ok (.on february) := by decide
  refine ⟨real, next, ?_⟩
  obtain ⟨_, waits, _⟩ := nextBillingDate_nearest 30 real false
  obtain ⟨d, least, dated⟩ := waits (by unfold IsBillingDay; decide) (by decide)
  rw [next] at dated
  split at dated
  · cases dated
    exact least
  · cases dated

/-- the calendar ends before the next fifth -/
example : nextBillingDate 5 ⟨262142, 12, 31, by decide, by decide⟩ true =
    .error (.invalidBillCycleDay 5) := by
  decide

/-! ## the last date -/

/-- a term begins on a day of the month -/
theorem day_of_termStart? {today d : Date} {day : UInt32} (h : termStart? today day = some d) :
    1 ≤ day.toNat := by
  unfold termStart? at h
  obtain ⟨thisMonth, here, _⟩ := Option.bind_eq_some_iff.1 h
  exact Date.onDay?_isSome_iff.1 (Option.isSome_iff_exists.2 ⟨thisMonth, here⟩)

/-- a term begins on the latest date until the present: in the present month, or in the one before it if
the calendar has its date -/
theorem termStart?_cases (today : Date) {day : UInt32} (first : 1 ≤ day.toNat) :
    ∃ d, IsGreatest {e : Date | e ≤ today ∧ e.FallsOn day.toNat} d ∧
      (d.year = today.year ∧ termStart? today day = some d ∨
        termStart? today day = d.representable?) := by
  obtain ⟨thisMonth, here, month, falls⟩ := today.exists_onDay? first
  have found : termStart? today day = if thisMonth ≤ today then some thisMonth
      else (today.firstOfMonth.addMonths? (-1)).bind (·.onDay? day.toNat) := by
    unfold termStart?
    rw [here]
    rfl
  rw [found]
  by_cases begun : thisMonth ≤ today
  · rw [if_pos begun]
    exact ⟨thisMonth, falls.isGreatest_sameMonth month begun,
      .inl ⟨(Date.same_month_iff.1 month).1, rfl⟩⟩
  · rw [if_neg begun]
    obtain ⟨d, previous, before, on⟩ := today.exists_onDay?_addMonths (-1) first
    exact ⟨d, on.isGreatest_monthBefore before falls month begun, .inr previous⟩

/-- a term that has begun began on the latest date of its billing day -/
theorem isGreatest_of_termStart? {today d : Date} {day : UInt32}
    (begun : termStart? today day = some d) :
    IsGreatest {e : Date | e ≤ today ∧ e.FallsOn day.toNat} d := by
  obtain ⟨latest, greatest, ⟨_, found⟩ | found⟩ := termStart?_cases today (day_of_termStart? begun)
  · rw [found] at begun
    cases begun
    exact greatest
  · rw [found] at begun
    obtain rfl := Date.eq_of_representable? begun
    exact greatest

/-- it has begun if there is such a year -/
theorem termStart?_isGreatest {today : Date} (real : today.isRepresentable = true) {day : UInt32}
    (first : 1 ≤ day.toNat) :
    ∃ d, IsGreatest {e : Date | e ≤ today ∧ e.FallsOn day.toNat} d ∧
      termStart? today day = if Date.firstYear ≤ d.year then some d else none := by
  have years := Date.isRepresentable_iff.1 real
  obtain ⟨d, greatest, ⟨year, found⟩ | found⟩ := termStart?_cases today first
  · exact ⟨d, greatest, by rw [found, if_pos (by omega)]⟩
  · have goesOn : d.year ≤ Date.lastYear := Int.le_trans (Date.year_le_of_le greatest.1.1) years.2
    exact ⟨d, greatest, found.trans (Date.representable?_of_goesOn goesOn)⟩

/-- The start of the term is the latest date of the billing day until the present, at the account's
time of day, or the start of the subscription if that is later.  It fails only for day 0, when nothing
tells how to bill, or when that date is before the calendar. -/
theorem effectiveDate_startOfTerm {ctx : Context} {s : Subscription}
    (real : (ctx.localDate (max ctx.now s.startDate)).isRepresentable = true) :
    (∀ alignment day, 1 ≤ day.toNat →
        ∃ d, IsGreatest {e : Date | e ≤ ctx.localDate (max ctx.now s.startDate) ∧
            e.FallsOn day.toNat} d ∧
          effectiveDate ctx s .startOfTerm ⟨some alignment, some day⟩ =
            if Date.firstYear ≤ d.year then .ok (max (ctx.instantOf d) s.startDate)
            else .error (.invalidBillCycleDay day)) ∧
      (∀ alignment, effectiveDate ctx s .startOfTerm ⟨some alignment, some 0⟩ =
        .error (.invalidBillCycleDay 0)) ∧
      (∀ anchor : BillingAnchor, anchor.alignment = none ∨ anchor.billCycleDay = none →
        effectiveDate ctx s .startOfTerm anchor = .error .billingAlignmentUnavailable) := by
  refine ⟨?_, ?_, ?_⟩
  · intro alignment day first
    obtain ⟨d, greatest, begun⟩ := termStart?_isGreatest real first
    refine ⟨d, greatest, ?_⟩
    unfold effectiveDate presentFor
    dsimp only
    rw [begun]
    by_cases started : Date.firstYear ≤ d.year
    · rw [if_pos started, if_pos started]
    · rw [if_neg started, if_neg started]
  · intro alignment
    have none : termStart? (ctx.localDate (max ctx.now s.startDate)) 0 = none := by
      cases begun : termStart? (ctx.localDate (max ctx.now s.startDate)) 0 with
      | none => rfl
      | some d => exact absurd (day_of_termStart? begun) (by decide)
    unfold effectiveDate presentFor
    dsimp only
    rw [none]
  · rintro ⟨alignment, day⟩ (rfl | rfl)
    · rfl
    · cases alignment <;> rfl

/-- an account five hours behind, where it is still the last of February -/
def Shop.behind : Context :=
  ⟨Shop.owner, Shop.midnight 20148, Shop.midnight 20148, ⟨-18000, by decide⟩⟩

theorem effectiveDate_startOfTerm_behind :
    let s := Subscription.rebuild Shop.recancelled [] (Shop.midnight 20001)
    let today := Shop.behind.localDate (max Shop.behind.now s.startDate)
    today = ⟨2025, 2, 28, by decide, by decide⟩ ∧ today.isRepresentable = true ∧
      (∃ d, IsGreatest {e : Date | e ≤ today ∧ e.FallsOn 30} d ∧
        effectiveDate Shop.behind s .startOfTerm ⟨some .account, some 30⟩ =
          if Date.firstYear ≤ d.year then .ok (max (Shop.behind.instantOf d) s.startDate)
          else .error (.invalidBillCycleDay 30)) ∧
      effectiveDate Shop.behind s .startOfTerm ⟨some .account, some 30⟩ =
        .ok (Shop.midnight 20148) := by
  intro s today
  have real : (Shop.behind.localDate (max Shop.behind.now s.startDate)).isRepresentable = true := by
    decide +kernel
  obtain ⟨terms, _, _⟩ := effectiveDate_startOfTerm real
  exact ⟨by decide +kernel, real, terms .account 30 (by decide), by decide +kernel⟩

/-! ## terms that have begun -/

namespace Date

/-- the calendar reaches back to the month before -/
def hasMonthBefore (d : Date) : Bool := (d.firstOfMonth.addMonths? (-1)).isSome

/-- of the dates there are, only those of the first month have none before it -/
theorem hasMonthBefore_iff {d : Date} (real : d.isRepresentable = true) :
    d.hasMonthBefore = true ↔ firstYear < d.year ∨ 1 < d.month := by
  have months := d.exists_month
  have same : d.hasMonthBefore = (d.firstOfMonth.addMonths (-1)).isRepresentable := by
    unfold hasMonthBefore addMonths? representable?
    cases (d.firstOfMonth.addMonths (-1)).isRepresentable <;> rfl
  rw [same, isRepresentable_iff]
  rw [isRepresentable_iff] at real
  simp only [addMonths, monthNumber, firstOfMonth]
  omega

end Date

/-- by a date of a month that has one before it, a term has begun -/
theorem exists_termStart? {today : Date} {day : UInt32} (first : 1 ≤ day.toNat)
    (before : today.hasMonthBefore = true) : ∃ d, termStart? today day = some d := by
  obtain ⟨thisMonth, here, _⟩ := today.exists_onDay? first
  obtain ⟨previous, earlier⟩ := Option.isSome_iff_exists.1 before
  obtain ⟨start, begun, _⟩ := previous.exists_onDay? first
  unfold termStart?
  rw [here, earlier]
  show ∃ d, (if thisMonth ≤ today then some thisMonth else previous.onDay? day.toNat) = some d
  split
  · exact ⟨thisMonth, rfl⟩
  · exact ⟨start, begun⟩

end SubscriptionBundles
