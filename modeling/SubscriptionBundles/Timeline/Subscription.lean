import SubscriptionBundles.Timeline.Standing

/-!
# Subscriptions

What is stored of a subscription is a record: its identity, its dates and its events.  The
subscription that callers see is rebuilt from the record as of an instant; no current state is
stored.

* `SubscriptionRecord`             the stored form;
* `Subscription.rebuild`           the subscription as of an instant, extra events mixed in;
* `Subscription.isLiveAfter`       not ended by an instant;
* `Subscription.planName?`         the plan in force, or else the first one planned;
* `Subscription.nextSequence`      the number of the next event;
* `Subscription.sortForListing`    base first, then by alignment date.
-/

namespace SubscriptionBundles

structure SubscriptionRecord where
  id : Uuid
  bundleId : Uuid
  bundleExternalKey : Option String
  category : ProductCategory
  bundleStartDate : Instant
  alignStartDate : Instant
  chargedThroughDate : Option Instant
  migrated : Bool
  createdUtc : Instant
  events : List TransitionEvent
deriving DecidableEq

structure Subscription where
  id : Uuid
  bundleId : Uuid
  bundleExternalKey : Option String
  category : ProductCategory
  bundleStartDate : Instant
  alignStartDate : Instant
  startDate : Instant
  endDate : Option Instant
  chargedThroughDate : Option Instant
  migrated : Bool
  current : Standing
  transitions : List Transition
  events : List TransitionEvent
deriving DecidableEq

/-- the date of the first step that creates -/
def startOf? (steps : List Transition) : Option Instant :=
  steps.findSome? fun t =>
    match t.event.kind with
    | .create _ _ _ => some t.event.effectiveDate
    | _ => none

/-- the date of the step that cancels -/
def endOf? (steps : List Transition) : Option Instant :=
  steps.findSome? fun t => if t.event.kind = .cancel then some t.event.effectiveDate else none

namespace Subscription

def rebuild (r : SubscriptionRecord) (extra : List TransitionEvent) (now : Instant) :
    Subscription :=
  let events := timeline (r.events ++ extra.filter (·.subscriptionId = r.id))
  let steps := SubscriptionBundles.transitions .initial events
  { id := r.id
    bundleId := r.bundleId
    bundleExternalKey := r.bundleExternalKey
    category := r.category
    bundleStartDate := r.bundleStartDate
    alignStartDate := r.alignStartDate
    startDate := (startOf? steps).getD r.alignStartDate
    endDate := endOf? steps
    chargedThroughDate := r.chargedThroughDate
    migrated := r.migrated
    current := standingAt now .initial steps
    transitions := steps
    events := events }

def state (s : Subscription) : EntitlementState := s.current.state

def isActiveOrPending (s : Subscription) : Bool := s.state != .cancelled

def isLiveAfter (s : Subscription) (now : Instant) : Bool := s.endDate.all (now < ·)

def planName? (s : Subscription) : Option String :=
  s.current.plan?.or (s.transitions.findSome? (·.next.plan?))

def nextSequence (s : Subscription) : UInt32 :=
  s.events.foldl (fun n e => max n (e.sequence + 1)) 0

/-! ## listings -/

/-- base subscriptions first, then the earlier alignment date -/
def listedBefore (a b : Subscription) : Bool :=
  let rank (s : Subscription) : Nat := if s.category = .base then 0 else 1
  decide (rank a < rank b) || (decide (rank a = rank b) && decide (a.alignStartDate ≤ b.alignStartDate))

def sortForListing (subscriptions : List Subscription) : List Subscription :=
  stableSort listedBefore subscriptions

/-- the subscriptions of records as of an instant, in listing order -/
def listing (records : List SubscriptionRecord) (now : Instant) : List Subscription :=
  sortForListing (records.map fun r => rebuild r [] now)

/-! ## small laws -/

theorem listedBefore_total (a b : Subscription) :
    a.listedBefore b = true ∨ b.listedBefore a = true := by
  simp only [listedBefore, Bool.or_eq_true, Bool.and_eq_true, decide_eq_true_eq, Instant.le_def]
  omega

theorem listedBefore_trans (a b c : Subscription) (hab : a.listedBefore b = true)
    (hbc : b.listedBefore c = true) : a.listedBefore c = true := by
  simp only [listedBefore, Bool.or_eq_true, Bool.and_eq_true, decide_eq_true_eq,
    Instant.le_def] at *
  omega

@[simp] theorem rebuild_id (r : SubscriptionRecord) (extra : List TransitionEvent) (now : Instant) :
    (rebuild r extra now).id = r.id := rfl

@[simp] theorem rebuild_category (r : SubscriptionRecord) (extra : List TransitionEvent)
    (now : Instant) : (rebuild r extra now).category = r.category := rfl

end Subscription

end SubscriptionBundles
