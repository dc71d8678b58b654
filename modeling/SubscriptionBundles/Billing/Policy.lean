import SubscriptionBundles.Billing.CycleDay

/-!
# Effective dates

When a change or cancellation takes effect under a billing policy.

* `termStart?`        the start of the billing period that holds a date;
* `effectiveDate`     the instant a policy gives a subscription;
* `requestedInstant`  the instant of a date that a caller asks for.
-/

namespace SubscriptionBundles

/-- what a policy may need to know about billing -/
structure BillingAnchor where
  alignment : Option BillingAlignment
  billCycleDay : Option UInt32
deriving DecidableEq

def BillingAnchor.unknown : BillingAnchor := ⟨none, none⟩

/-- the last date until `today` that falls on the billing day -/
def termStart? (today : Date) (day : UInt32) : Option Date := do
  let thisMonth ← today.onDay? day.toNat
  if thisMonth ≤ today then return thisMonth
  let previous ← today.firstOfMonth.addMonths? (-1)
  previous.onDay? day.toNat

/-- the present, or the subscription's start if that is later -/
def presentFor (ctx : Context) (s : Subscription) : Instant := max ctx.now s.startDate

def effectiveDate (ctx : Context) (s : Subscription) (policy : BillingPolicy)
    (anchor : BillingAnchor) : Except SubscriptionError Instant :=
  let now := presentFor ctx s
  match policy with
  | .immediate => .ok now
  | .endOfTerm => .ok ((s.chargedThroughDate.filter (now < ·)).getD now)
  | .startOfTerm =>
    match anchor.alignment, anchor.billCycleDay with
    | some _, some day =>
      match termStart? (ctx.localDate now) day with
      | some d => .ok (max (ctx.instantOf d) s.startDate)
      | none => .error (.invalidBillCycleDay day)
    | _, _ => .error .billingAlignmentUnavailable
  | .illegal => .error (.illegalPlanChange (s.planName?.getD ""))

/-- The instant of a requested date.  The date of the subscription's start is never taken for an
instant before the start. -/
def requestedInstant (ctx : Context) (s : Subscription) (d : Date) : Instant :=
  let candidate := ctx.instantOf d
  if d = ctx.localDate s.startDate ∧ candidate < s.startDate then s.startDate else candidate

end SubscriptionBundles
