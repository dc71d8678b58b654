import SubscriptionBundles.Billing.Policy
import SubscriptionBundles.Catalog.Basic

/-!
# Billing anchors

The billing alignment and billing day that a subscription follows under a catalog.

* `currentPlan`          the catalog plan that a subscription is on;
* `billingAnchor`        its alignment and billing day;
* `defaultBillCycleDay`  its billing day, remembered per subscription.
-/

namespace SubscriptionBundles

def currentPlan (c : Catalog) (s : Subscription) : Except SubscriptionError Plan :=
  match s.planName? with
  | none => throw (.invalidSubscriptionId s.id)
  | some name => liftM (c.findPlan name)

/-- fails when the catalog does not know the subscription's plan -/
def billingAnchor (ctx : Context) (c : Catalog) (s : Subscription) (base : Option Subscription)
    (accountDay : Option UInt32) : Except SubscriptionError BillingAnchor :=
  (currentPlan c s).map fun _ =>
    ⟨some c.billingAlignment, some (billCycleDayUnder ctx s base accountDay c.billingAlignment)⟩

/-- the day and the days remembered from now on -/
def defaultBillCycleDay (known : BillCycleDays) (ctx : Context) (c : Catalog) (s : Subscription)
    (base : Option Subscription) (accountDay : Option UInt32) :
    Except SubscriptionError (UInt32 × BillCycleDays) :=
  (currentPlan c s).map fun _ => known.resolve ctx s base c.billingAlignment accountDay

end SubscriptionBundles
