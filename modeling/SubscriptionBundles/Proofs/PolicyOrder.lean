import SubscriptionBundles.Proofs.BillingDates
import SubscriptionBundles.Proofs.LocalDates
import SubscriptionBundles.Proofs.Sweeps

/-!
# Policies in order

A term ends no earlier than the present, and begins no earlier than the subscription.  It has begun by
the present unless the present date is a billing day whose time of day is still to come: the start of a
term is found by its date, and the time of day is that of the account's reference.

* `Context.AwaitsTerm`         a billing day has come, but not its time of day;
* `Context.awaitsTerm_iff`     the latest billing day decides;
* `Context.awaitsTerm_today_iff`  and it can only be today;
* `policies_in_order_iff`      policies are ordered in time just when no term is awaited.
-/

namespace SubscriptionBundles

namespace Context
variable {ctx : Context} {day : UInt32} {i : Instant}

/-- a billing day has come by its date, while its time of day is still ahead -/
def AwaitsTerm (ctx : Context) (day : UInt32) (i : Instant) : Prop :=
  ∃ d, d ≤ ctx.localDate i ∧ d.FallsOn day.toNat ∧ i < ctx.instantOf d

theorem awaitsTerm_iff {d : Date}
    (last : IsGreatest {e : Date | e ≤ ctx.localDate i ∧ e.FallsOn day.toNat} d) :
    ctx.AwaitsTerm day i ↔ i < ctx.instantOf d := by
  constructor
  · rintro ⟨e, reached, on, ahead⟩
    have order := ctx.instantOf_le_iff.2 (last.2 ⟨reached, on⟩)
    rw [Instant.le_def] at order
    rw [Instant.lt_def] at *
    omega
  · intro ahead
    exact ⟨d, last.1.1, last.1.2, ahead⟩

/-- on a clock that passes no leap second over, only the billing day of today may be awaited -/
theorem awaitsTerm_today_iff (within : ctx.referenceSecond < 86400) :
    ctx.AwaitsTerm day i ↔
      (ctx.localDate i).FallsOn day.toNat ∧ i < ctx.instantOf (ctx.localDate i) := by
  constructor
  · rintro ⟨d, reached, on, ahead⟩
    have today : d = ctx.localDate i := by
      refine Date.le_antisymm reached (Int.not_lt.1 fun earlier => ?_)
      have passed := instantOf_lt within earlier
      rw [Instant.lt_def] at *
      omega
    rw [← today]
    exact ⟨on, ahead⟩
  · rintro ⟨on, ahead⟩
    exact ⟨ctx.localDate i, Int.le_refl _, on, ahead⟩

end Context

/-! ## the policies -/

section
variable {ctx : Context} {s : Subscription} {alignment : BillingAlignment} {day : UInt32}

theorem effectiveDate_startOfTerm_eq_ok {term : Instant} :
    effectiveDate ctx s .startOfTerm ⟨some alignment, some day⟩ = .ok term ↔
      ∃ d, termStart? (ctx.localDate (presentFor ctx s)) day = some d ∧
        term = max (ctx.instantOf d) s.startDate := by
  unfold effectiveDate
  dsimp only
  cases termStart? (ctx.localDate (presentFor ctx s)) day with
  | none => simp
  | some d => simp [eq_comm]

/-- Where all policies give a date, the start of the term is not before the subscription, and the end
of the term is not before the present.  The start is not after the present just when no term is
awaited: the present date is not a billing day, or its time of day has come. -/
theorem policies_in_order_iff {term : Instant}
    (begins : effectiveDate ctx s .startOfTerm ⟨some alignment, some day⟩ = .ok term) :
    ∃ present ending,
      effectiveDate ctx s .immediate ⟨some alignment, some day⟩ = .ok present ∧
        effectiveDate ctx s .endOfTerm ⟨some alignment, some day⟩ = .ok ending ∧
        s.startDate ≤ term ∧ present ≤ ending ∧
        (term ≤ present ↔ ¬ctx.AwaitsTerm day present) ∧
        (ctx.referenceTime.time.isLeap = false →
          (ctx.AwaitsTerm day present ↔ (ctx.localDate present).FallsOn day.toNat ∧
            present < ctx.instantOf (ctx.localDate present))) := by
  obtain ⟨ending, ends⟩ : ∃ ending,
      effectiveDate ctx s .endOfTerm ⟨some alignment, some day⟩ = .ok ending := ⟨_, rfl⟩
  refine ⟨presentFor ctx s, ending, rfl, ends, effectiveDate_ge begins, endOfTerm_ge ends, ?_,
    fun ordinary => Context.awaitsTerm_today_iff (ctx.referenceSecond_lt ordinary)⟩
  obtain ⟨d, found, rfl⟩ := effectiveDate_startOfTerm_eq_ok.1 begins
  have started : s.startDate ≤ presentFor ctx s := Instant.le_max_right _ _
  rw [Context.awaitsTerm_iff (isGreatest_of_termStart? found), Instant.max_le_iff]
  rw [Instant.lt_def, Instant.le_def, Int.not_lt]
  exact and_iff_left started

end

theorem policies_in_order_iff_behind :
    let s := Subscription.rebuild Shop.recancelled [] (Shop.midnight 20001)
    let anchor : BillingAnchor := ⟨some .account, some 30⟩
    effectiveDate Shop.behind s .startOfTerm anchor = .ok (Shop.midnight 20148) ∧
      ∃ present ending, effectiveDate Shop.behind s .immediate anchor = .ok present ∧
        effectiveDate Shop.behind s .endOfTerm anchor = .ok ending ∧
        s.startDate ≤ Shop.midnight 20148 ∧ Shop.midnight 20148 ≤ present ∧ present ≤ ending := by
  intro s anchor
  have dates : effectiveDate Shop.behind s .startOfTerm anchor = .ok (Shop.midnight 20148) ∧
      effectiveDate Shop.behind s .immediate anchor = .ok (Shop.midnight 20148) := by
    decide +kernel
  obtain ⟨begins, shown⟩ := dates
  obtain ⟨present, ending, now, ends, started, later, begun, today⟩ := policies_in_order_iff begins
  obtain rfl : Shop.midnight 20148 = present := Except.ok.inj (shown.symm.trans now)
  refine ⟨begins, _, ending, now, ends, started, begun.2 ?_, later⟩
  rw [today rfl]
  decide +kernel

/-- at midnight, the term of an account that is billed at noon begins later than the present -/
theorem noon_term_not_begun :
    let noon := (Shop.midnight 20147).addMinutes 720
    let ctx : Context := ⟨Shop.owner, Shop.midnight 20147, noon, .utc⟩
    let s := Subscription.rebuild Shop.recancelled [] (Shop.midnight 20001)
    let anchor : BillingAnchor := ⟨some .account, some 28⟩
    effectiveDate ctx s .startOfTerm anchor = .ok noon ∧
      effectiveDate ctx s .immediate anchor = .ok (Shop.midnight 20147) ∧
      ¬noon ≤ Shop.midnight 20147 := by
  decide +kernel

end SubscriptionBundles
