import SubscriptionBundles.Proofs.BillingDates
import SubscriptionBundles.Proofs.LastEvents
import SubscriptionBundles.Proofs.LocalDates

/-!
# New billing days

A change of the billing day answers with the instant at which it takes effect.  Read as of that instant,
the subscription is billed on the new day, unless it has ended by then.  A change that is asked for
without a date does not reach into the past, with one exception: on the last day of a month too short
for the new day it takes effect today, at the account's time of day, which may have passed.

* `Service.billing_day_shown_iff`  what is read as of the answer;
* `Service.undated_not_past_iff`   when an answer without a date is not in the past.
-/

namespace SubscriptionBundles

open Service (Turn)

/-! ## what is read -/

namespace Subscription

/-- a new billing day is in force from its date on, unless the subscription has ended by then -/
theorem current_newBillingDay {r : SubscriptionRecord} (counts : r.CountsOn) (day : UInt32)
    (date now : Instant) :
    (rebuild (r.withEvents [(rebuild r [] now).billCycleDayEvent day date now]) [] date).current =
      let before := rebuild r [] date
      if before.state = .cancelled then before.current
      else { before.current with billCycleDay? := some day } := by
  refine current_withLast rfl ?_
  intro f hf reached
  have number := counts now f hf
  rw [TransitionEvent.precedes_iff]
  change f.effectiveDate.place ≤ date.place at reached
  show f.effectiveDate.place < date.place ∨ f.effectiveDate.place = date.place ∧
    f.sequence.toNat ≤ (rebuild r [] now).nextSequence.toNat
  omega

end Subscription

namespace Service
variable (c : Catalog) (max : Nat) (cached : Bool) {turns : List Turn}

/-- In every state that requests lead to, an answered change of the billing day is read back as of its
answer: nothing but the billing day of the subscription is another then, and that only if no cancellation
is effective by that instant.  So the new day is shown, unless the subscription has ended by then and
ended on another day. -/
theorem billing_day_shown_iff (distinct : DistinctIds turns) {ctx : Context} {id : Uuid}
    {day : UInt32} {start : Option Date} {date : Instant}
    (answered : (((new c max cached).after turns).updateBillCycleDay ctx id day start).1 = .ok date)
    {reader : Context} (present : reader.now = date) :
    let s := (new c max cached).after turns
    ∃ before shown, (s.subscription reader id).1 = .ok before ∧
      ((s.updateBillCycleDay ctx id day start).2.subscription reader id).1 = .ok shown ∧
      shown.current = (if before.state = .cancelled then before.current
        else { before.current with billCycleDay? := some day }) ∧
      (shown.current.billCycleDay? = some day ↔
        (before.state = .cancelled → before.current.billCycleDay? = some day)) := by
  intro s
  obtain ⟨serves, sound, _⟩ := run_sound c max cached distinct
  obtain ⟨r, stored, rfl, left, serves'⟩ := updateBillCycleDay_writes serves sound answered
  let event := (Subscription.rebuild r [] ctx.now).billCycleDayEvent day date ctx.now
  have counts := run_countsOn c max cached distinct r stored
  have current := Subscription.current_newBillingDay counts day date ctx.now
  have stored' : r.withEvents [event] ∈
      (s.updateBillCycleDay ctx r.id day start).2.store.records := by
    rw [left]
    exact List.mem_map_of_mem stored
  have sound' : (s.updateBillCycleDay ctx r.id day start).2.store.Sound := by
    rw [left]
    exact sound.append [event]
  refine ⟨.rebuild r [] date, .rebuild (r.withEvents [event]) [] date, ?_, ?_, current, ?_⟩
  · rw [← present]
    exact subscription_of_stored serves sound stored reader
  · rw [← present]
    exact subscription_of_stored serves' sound' stored' reader
  · rw [current]
    dsimp only
    split
    · next ended => exact ⟨fun same _ => same, fun given => given ended⟩
    · next running => exact ⟨fun _ ended => absurd ended running, fun _ => rfl⟩

end Service

/-- the pistol is cancelled as of the seventh, and is billed on the sixth from the sixth on -/
theorem billing_day_shown_iff_rebilled :
    let s := (Service.new Shop.catalog 255 true).after Shop.rebilled
    let ctx := Context.ofNow Shop.owner (Shop.midnight 20004)
    let sixth : Date := ⟨2024, 10, 6, by decide, by decide⟩
    let reader := Context.ofNow Shop.owner (Shop.midnight 20002)
    let o := s.updateBillCycleDay ctx (.ofNat 1001) 6 (some sixth)
    DistinctIds Shop.rebilled ∧ o.1 = .ok (Shop.midnight 20002) ∧
      ∃ shown, (o.2.subscription reader (.ofNat 1001)).1 = .ok shown ∧
        shown.current.billCycleDay? = some 6 := by
  intro s ctx sixth reader o
  have run : DistinctIds Shop.rebilled ∧ o.1 = .ok (Shop.midnight 20002) ∧
      (s.subscription reader (.ofNat 1001)).1.map (·.state) = .ok .active := by
    decide +kernel
  obtain ⟨distinct, answered, running⟩ := run
  have present : reader.now = Shop.midnight 20002 := rfl
  obtain ⟨before, shown, read, read', _, day⟩ :=
    Service.billing_day_shown_iff Shop.catalog 255 true distinct answered present
  rw [read] at running
  refine ⟨distinct, answered, shown, read', day.2 fun ended => ?_⟩
  rw [Except.map, ended] at running
  cases running

/-- after the cancellation, a new billing day is answered with a date and never shown -/
theorem rebilled_day_not_shown :
    let s := (Service.new Shop.catalog 255 true).after Shop.rebilled
    let o := s.updateBillCycleDay (.ofNow Shop.owner (Shop.midnight 20004)) (.ofNat 1001) 12 none
    let reader := Context.ofNow Shop.owner (Shop.midnight 20008)
    DistinctIds Shop.rebilled ∧ o.1 = .ok (Shop.midnight 20008) ∧
      (o.2.subscription reader (.ofNat 1001)).1.map (·.current.billCycleDay?) = .ok (some 1) := by
  decide +kernel

/-! ## undated changes -/

/-- the last day of a month too short for a day falls on it -/
theorem Date.fallsOn_iff_of_ne {d : Date} {day : Nat} (other : d.day ≠ day) :
    d.FallsOn day ↔ d.day = d.lastDay ∧ d.lastDay < day := by
  have last : d.day ≤ d.lastDay := d.exists_day.2
  unfold FallsOn
  omega

/-- An answered change without a date is not before the present, unless today is the last day of a month
too short for the new billing day and the time of day of the account has passed. -/
theorem Service.undated_not_past_iff {s : Service} {ctx : Context} {id : Uuid} {day : UInt32}
    {date : Instant} (answered : (s.updateBillCycleDay ctx id day none).1 = .ok date) :
    ctx.now ≤ date ↔ ¬(ctx.today.day = ctx.today.lastDay ∧ ctx.today.lastDay < day.toNat ∧
      ctx.instantOf ctx.today < ctx.now) := by
  obtain ⟨found, next, rfl⟩ := updateBillCycleDay_eq_ok answered
  change nextBillingDate day ctx.today false = .ok found at next
  cases found with
  | immediate =>
    have same := day_eq_of_at_once next
    refine iff_of_true (Instant.le_refl _) ?_
    rintro ⟨last, short, _⟩
    omega
  | on d =>
    have other : ctx.today.day ≠ day.toNat := fun same => not_at_once_of_next next ⟨same.symm, rfl⟩
    obtain ⟨⟨notBefore, falls⟩, least⟩ := isLeast_of_next next
    rw [← and_assoc, ← Date.fallsOn_iff_of_ne other]
    show ctx.now.place ≤ (ctx.instantOf d).place ↔ ¬(_ ∧ (ctx.instantOf ctx.today).place < ctx.now.place)
    -- the nearest date is today if today is one, and a later date is all ahead
    by_cases today : ctx.today.FallsOn day.toNat
    · obtain rfl : d = ctx.today :=
        Date.le_antisymm (least ⟨Int.le_refl _, today⟩) notBefore
      rw [and_iff_right today, Int.not_lt]
    · have later : ctx.today < d := by
        refine Int.not_le.1 fun reached => today ?_
        rwa [Date.le_antisymm notBefore reached]
      have ahead : ctx.now < ctx.instantOf d := Context.lt_instantOf later
      exact iff_of_true (Int.le_of_lt ahead) fun given => today given.1

/-- five hours behind, it is the last of February, and the time of day is that of the account -/
theorem Service.undated_not_past_iff_behind :
    let s := (new Shop.catalog 255 true).after [Shop.turn 1 (.create [Shop.pair] false)]
    (s.updateBillCycleDay Shop.behind (.ofNat 1001) 31 none).1 = .ok (Shop.midnight 20148) ∧
      Shop.behind.now ≤ Shop.midnight 20148 := by
  intro s
  have answered : (s.updateBillCycleDay Shop.behind (.ofNat 1001) 31 none).1 =
      .ok (Shop.midnight 20148) := by
    decide +kernel
  exact ⟨answered, (undated_not_past_iff answered).2 (by decide +kernel)⟩

/-- at noon of that day, an account whose time of day is midnight is given the midnight before -/
theorem noon_change_in_past :
    let s := (Service.new Shop.catalog 255 true).after [Shop.turn 1 (.create [Shop.pair] false)]
    let noon := (Shop.midnight 20147).addMinutes 720
    let ctx : Context := ⟨Shop.owner, noon, Shop.midnight 20147, .utc⟩
    DistinctIds [Shop.turn 1 (.create [Shop.pair] false)] ∧
      (s.updateBillCycleDay ctx (.ofNat 1001) 31 none).1 = .ok (Shop.midnight 20147) ∧
      ¬ctx.now ≤ Shop.midnight 20147 := by
  decide +kernel

end SubscriptionBundles
