import SubscriptionBundles.Billing.Anchor
import SubscriptionBundles.Service.Basic
import SubscriptionBundles.Timeline.Schedule

/-!
# Changes of subscriptions

* `Sweep`                        the cancellations a call has come to;
* `sweepSubscription`            cancels a subscription and, with a base, its bundle's add-ons;
* `Service.cancel`               cancels subscriptions under a policy;
* `Service.updateBillCycleDay`   gives a subscription another billing day;
* `Service.setChargedThrough`    records up to when a subscription is paid.

A subscription that has an end date, or that the same call has reached already, is left alone.
-/

namespace SubscriptionBundles

structure Sweep where
  /-- subscriptions reached so far -/
  reached : List Uuid
  /-- their cancellations, in order -/
  events : List TransitionEvent
deriving DecidableEq

namespace Sweep

def start : Sweep := ⟨[], []⟩

/-- the subscription is still to be cancelled -/
def isOpen (w : Sweep) (s : Subscription) : Bool := s.endDate.isNone && !w.reached.contains s.id

def cancel (w : Sweep) (s : Subscription) (effective processed : Instant) : Sweep :=
  ⟨s.id :: w.reached, w.events ++ [s.cancelEvent effective processed]⟩

/-- add-ons end with their base, or at their own start if that is later -/
def cancelAddOn (baseEnd processed : Instant) (w : Sweep) (s : Subscription) : Sweep :=
  if s.category == .addOn && w.isOpen s then w.cancel s (max baseEnd s.startDate) processed else w

def cancelAddOns (w : Sweep) (baseEnd processed : Instant) (subscriptions : List Subscription) :
    Sweep :=
  subscriptions.foldl (cancelAddOn baseEnd processed) w

/-- the samples and the write of the cancellations; no write if there are none -/
def effects (w : Sweep) : List Effect :=
  w.events.map (fun _ => .count (.operation .cancel)) ++
    if w.events.isEmpty then [] else [.write (.appendEvents w.events)]

end Sweep

/-! ## cancelling -/

/-- what a cancellation is asked for with -/
structure CancelTerms where
  policy : BillingPolicy
  accountDay : Option UInt32
deriving DecidableEq

def sweepSubscription (s : Storage) (ctx : Context) (c : Catalog) (terms : CancelTerms) (w : Sweep)
    (id : Uuid) : Except SubscriptionError Sweep := do
  let snapshot ← s.snapshotAround id ctx.now
  let target ← snapshot.require id
  if !w.isOpen target then return w
  let anchor ← billingAnchor ctx c target snapshot.base? terms.accountDay
  let effective ← effectiveDate ctx target terms.policy anchor
  let w := w.cancel target effective ctx.now
  if target.category == .base then return w.cancelAddOns effective ctx.now snapshot.subscriptions
  return w

/-- the subscriptions of ids as they are stored -/
def Storage.subscriptions (s : Storage) (now : Instant) (ids : List Uuid) :
    Except SubscriptionError (List Subscription) :=
  ids.mapM fun id => do return .rebuild (← s.requireRecord id) [] now

namespace Service

def cancel (s : Service) (ctx : Context) (ids : List Uuid) (terms : CancelTerms) :
    Outcome (List Subscription) :=
  s.carryOut .cancelBaseSubscriptions do
    let c ← s.catalog
    let w ← ids.foldlM (sweepSubscription s.storage ctx c terms) .start
    return ⟨w.effects, fun storage => storage.subscriptions ctx.now ids⟩

/-! ## billing -/

/-- `effectiveFrom` is a date asked for; without one the change is reckoned from today -/
def updateBillCycleDay (s : Service) (ctx : Context) (id : Uuid) (day : UInt32)
    (effectiveFrom : Option Date) : Outcome Instant :=
  s.carryOut .updateBillCycleDay do
    let record ← s.storage.requireRecord id
    let date ← nextBillingDate day (effectiveFrom.getD ctx.today) effectiveFrom.isSome
    let effective := match date with
      | .immediate => ctx.now
      | .on d => ctx.instantOf d
    let event := (Subscription.rebuild record [] ctx.now).billCycleDayEvent day effective ctx.now
    return ⟨[.write (.appendEvents [event]), .count (.operation .updateBillCycleDay)],
      fun _ => .ok effective⟩

def setChargedThrough (s : Service) (id : Uuid) (date : Instant) : Outcome Unit :=
  s.carryOut .setChargedThroughDate do
    let _ ← s.storage.requireRecord id
    return ⟨[.write (.setChargedThrough id date), .count (.operation .setChargedThroughDate)],
      fun _ => .ok ()⟩

end Service

end SubscriptionBundles
