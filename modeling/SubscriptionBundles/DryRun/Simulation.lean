import SubscriptionBundles.Billing.Anchor
import SubscriptionBundles.Bundle.AddOnLimit
import SubscriptionBundles.Bundle.Snapshot
import SubscriptionBundles.Bundle.StartDate
import SubscriptionBundles.DryRun.Arguments
import SubscriptionBundles.Timeline.Schedule

/-!
# Simulations

The events that an action on a bundle would produce.  Nothing is stored.

* `simulate`                 the simulation of an action on a snapshot;
* `changeEffectiveDate`      when a plan change would take effect;
* `syntheticId`              the stable name of a subscription that only a simulation has;
* `Simulation.materialize`   the bundle's subscriptions with the simulated events;
* `Simulation.produced`      whether a transition comes from the simulation.

A simulation knows no billing alignment and no billing day, so it refuses the start of a term.
-/

namespace SubscriptionBundles

structure Simulation where
  action : DryRunAction
  events : List TransitionEvent
  /-- a subscription that exists in the simulation only -/
  synthetic : Option SubscriptionRecord
deriving DecidableEq

/-- a subscription as it would look -/
structure SimulatedSubscription where
  subscription : Subscription
  isSynthetic : Bool
deriving DecidableEq

namespace Simulation

/-- every stored subscription with the simulated events, and the synthetic one last -/
def materialize (sim : Simulation) (snapshot : Snapshot) (now : Instant) :
    List SimulatedSubscription :=
  (snapshot.records.map fun r => ⟨.rebuild r sim.events now, false⟩) ++
    sim.synthetic.toList.map fun r => ⟨.rebuild r [] now, true⟩

/-- an event of the same subscription, date and kind was simulated -/
def produced (sim : Simulation) (id : Uuid) (effective : Instant) (kind : EventKind) : Bool :=
  sim.events.any fun e => e.subscriptionId == id && e.effectiveDate == effective && e.kind == kind

end Simulation

/-! ## parts of a simulation -/

def requiredPlan (args : DryRunArguments) : Except SubscriptionError PlanSpecifier :=
  match args.plan with
  | some plan => .ok plan
  | none => .error (.invalidDryRunArguments (args.action.label ++ " requires a plan"))

def requiredSubscription (snapshot : Snapshot) (args : DryRunArguments) :
    Except SubscriptionError Subscription :=
  match args.subscriptionId with
  | none => .error (.invalidDryRunArguments (args.action.label ++ " requires a subscription"))
  | some id =>
    match snapshot.find? id with
    | none => .error (.invalidSubscriptionId id)
    | some s =>
      if s.state = .cancelled then
        .error (.invalidDryRunArguments ("subscription " ++ id.written ++ " is cancelled"))
      else .ok s

/-- the policy asked for, or else the catalog's for leaving the current plan -/
def changePolicy (c : Catalog) (s : Subscription) (policy : Option BillingPolicy) :
    Except SubscriptionError BillingPolicy :=
  match policy with
  | some p => .ok p
  | none => (currentPlan c s).map c.changePolicyFrom

/-- the policy asked for, or else the catalog's for cancelling the current plan -/
def stopPolicy (c : Catalog) (s : Subscription) (policy : Option BillingPolicy) :
    Except SubscriptionError BillingPolicy :=
  match policy with
  | some p => .ok p
  | none => (currentPlan c s).map fun _ => c.cancelPolicy

/-- the date asked for, or else the date that the policy gives -/
def changeEffectiveDate (ctx : Context) (c : Catalog) (s : Subscription) (requested : Option Date)
    (policy : Option BillingPolicy) (anchor : BillingAnchor) : Except SubscriptionError Instant :=
  match requested with
  | some d => .ok (requestedInstant ctx s d)
  | none => do effectiveDate ctx s (← changePolicy c s policy) anchor

def stopEffectiveDate (ctx : Context) (c : Catalog) (s : Subscription) (args : DryRunArguments) :
    Except SubscriptionError Instant :=
  match args.effectiveDate with
  | some d => .ok (requestedInstant ctx s d)
  | none => do effectiveDate ctx s (← stopPolicy c s args.policy) .unknown

def syntheticId (bundleId : Uuid) (plan : Plan) (effective : Instant) : Uuid :=
  .named bundleId (plan.name ++ ":" ++ effective.writtenIn .offset)

/-- the record that starting a plan would create -/
def startRecord (ctx : Context) (c : Catalog) (snapshot : Snapshot) (specifier : PlanSpecifier)
    (overrides : List PriceOverride) (requested : Instant) :
    Except SubscriptionError SubscriptionRecord := do
  let plan ← c.resolvePlan specifier overrides
  let started ← bundleStartDate c plan snapshot.bundleId.written (snapshot.anchorFor? plan.category)
    requested
  checkAddOnLimit plan snapshot.subscriptions [plan]
  NewSubscription.record c {
    id := syntheticId snapshot.bundleId plan requested
    bundleId := snapshot.bundleId
    bundleExternalKey := snapshot.bundleExternalKey
    plan := plan
    initialPhase := specifier.phaseType
    bundleStartDate := started
    alignStartDate := requested
    effectiveDate := requested
    processedDate := ctx.now
    migrated := false }

/-! ## simulating -/

def simulateStart (ctx : Context) (c : Catalog) (snapshot : Snapshot) (args : DryRunArguments) :
    Except SubscriptionError Simulation := do
  let specifier ← requiredPlan args
  let requested := (args.effectiveDate.map ctx.instantOf).getD ctx.now
  let record ← startRecord ctx c snapshot specifier args.overrides requested
  return ⟨args.action, record.events, some record⟩

def simulateChange (ctx : Context) (c : Catalog) (snapshot : Snapshot) (args : DryRunArguments) :
    Except SubscriptionError Simulation := do
  let specifier ← requiredPlan args
  let s ← requiredSubscription snapshot args
  let plan ← c.resolvePlan specifier args.overrides
  checkAddOnLimit plan snapshot.subscriptions [plan]
  let effective ← changeEffectiveDate ctx c s args.effectiveDate args.policy .unknown
  let events ← s.changePlanEvents c plan specifier.phaseType effective ctx.now
  return ⟨args.action, events, none⟩

def simulateStop (ctx : Context) (c : Catalog) (snapshot : Snapshot) (args : DryRunArguments) :
    Except SubscriptionError Simulation := do
  let s ← requiredSubscription snapshot args
  let effective ← stopEffectiveDate ctx c s args
  return ⟨args.action, [s.cancelEvent effective ctx.now], none⟩

def simulate (ctx : Context) (c : Catalog) (snapshot : Snapshot) (args : DryRunArguments) :
    Except SubscriptionError Simulation :=
  match args.action with
  | .startBilling => simulateStart ctx c snapshot args
  | .change => simulateChange ctx c snapshot args
  | .stopBilling => simulateStop ctx c snapshot args

end SubscriptionBundles
