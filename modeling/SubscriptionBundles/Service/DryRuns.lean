import SubscriptionBundles.DryRun.AddOnStatus
import SubscriptionBundles.Service.Basic
import SubscriptionBundles.Timeline.Projection

/-!
# Dry runs

What a change would do.  Nothing is written.

* `DryRunBundle`            a bundle as it would look, with the events that are not stored;
* `Service.simulate`        an action on a bundle;
* `Service.changeDate`      when a plan change would take effect; unlike a simulated change it knows
                            the billing alignment and the billing day;
* `Service.changeStatus`    what would become of a bundle's add-ons.
-/

namespace SubscriptionBundles

structure DryRunBundle where
  bundle : Bundle
  subscriptions : List SimulatedSubscription
  simulatedEvents : List ProjectedEvent
deriving DecidableEq

namespace Simulation

/-- the subscriptions as they would look, in listing order -/
def listing (sim : Simulation) (snapshot : Snapshot) (now : Instant) : List SimulatedSubscription :=
  stableSort (fun a b => a.subscription.listedBefore b.subscription) (sim.materialize snapshot now)

/-- the transitions of a subscription that the simulation produced -/
def projectedEvents (sim : Simulation) (s : Subscription) : List ProjectedEvent :=
  s.project (s.transitions.filter fun t => sim.produced s.id t.event.effectiveDate t.event.kind)

def toBundle (sim : Simulation) (bundle : Bundle) (snapshot : Snapshot) (now : Instant) :
    DryRunBundle :=
  let subscriptions := sim.listing snapshot now
  ⟨bundle, subscriptions, subscriptions.flatMap fun s => sim.projectedEvents s.subscription⟩

end Simulation

/-- what a plan change is asked for with -/
structure ChangeTerms where
  target : PlanSpecifier
  overrides : List PriceOverride
  requested : Option Date
  policy : Option BillingPolicy
  accountDay : Option UInt32
deriving DecidableEq

namespace Service

def simulate (s : Service) (ctx : Context) (bundleId : Uuid) (args : DryRunArguments) :
    Outcome DryRunBundle :=
  s.carryOut .simulateSubscriptionsForBundle do
    let bundle ← s.storage.requireBundle bundleId
    let records ← s.storage.recordsForBundle bundleId
    let c ← s.catalog
    let snapshot := Snapshot.take bundleId bundle.externalKey records ctx.now
    let sim ← SubscriptionBundles.simulate ctx c snapshot args
    return ⟨[.count (.dryRun args.action)], fun _ => .ok (sim.toBundle bundle snapshot ctx.now)⟩

def changeDate (s : Service) (ctx : Context) (id : Uuid) (terms : ChangeTerms) : Outcome Instant :=
  s.ask .getDryRunChangePlanEffectiveDate do
    let snapshot ← s.storage.snapshotAround id ctx.now
    let c ← s.catalog
    let found ← snapshot.require id
    let plan ← c.resolvePlan terms.target terms.overrides
    checkAddOnLimit plan snapshot.subscriptions [plan]
    let anchor ← billingAnchor ctx c found snapshot.base? terms.accountDay
    changeEffectiveDate ctx c found terms.requested terms.policy anchor

/-- no product means that the base goes away -/
def changeStatus (s : Service) (ctx : Context) (id : Uuid) (baseProduct : Option String) :
    Outcome (List AddOnStatus) :=
  s.ask .getDryRunChangePlanStatus do
    let snapshot ← s.storage.snapshotAround id ctx.now
    let c ← s.catalog
    let base ← snapshot.require id
    changePlanStatus c base snapshot.subscriptions baseProduct

end Service

end SubscriptionBundles
