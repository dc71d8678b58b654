import SubscriptionBundles.Error
import SubscriptionBundles.Timeline.Subscription

/-!
# Phase schedules and the events they give

A plan's phases are laid out end to end from an alignment date, as far as their lengths are known.
Creating a subscription or changing its plan takes the phase in force at the effective date and
schedules the later ones.

* `phaseSchedule`                      the start of each phase;
* `phaseAt?`, `upcoming`               the phase in force, and those still to come;
* `NewSubscription.record`             the record of a subscription that does not exist yet;
* `Subscription.changePlanEvents`      the events of moving to another plan;
* `Subscription.cancelEvent`, `Subscription.billCycleDayEvent`  the one event of the other changes.
-/

namespace SubscriptionBundles

/-! ## schedules -/

def phaseSchedule (start : Instant) : List PlanPhase → List (PhaseType × Instant)
  | [] => []
  | p :: rest =>
    (p.phaseType, start) ::
      match p.duration.addTo? start with
      | some next => phaseSchedule next rest
      | none => []

/-- the last phase that starts by the date before any starts after it, or else the first phase -/
def phaseAt? (schedule : List (PhaseType × Instant)) (date : Instant) : Option PhaseType :=
  (((schedule.takeWhile fun p => decide (p.2 ≤ date)).getLast?).or schedule.head?).map (·.1)

def upcoming (schedule : List (PhaseType × Instant)) (date : Instant) : List (PhaseType × Instant) :=
  schedule.filter fun p => decide (date < p.2)

/-- the schedule of a plan from the phase asked for on -/
def Plan.scheduleFrom? (p : Plan) (phase : Option PhaseType) (start : Instant) :
    Option (List (PhaseType × Instant)) :=
  (p.phaseIndex? phase).map fun i => phaseSchedule start (p.phases.drop i)

/-- the phase in force at a date and the phases after it -/
def Plan.splitSchedule (p : Plan) (phase : Option PhaseType) (start date : Instant) :
    Except SubscriptionError (PhaseType × List (PhaseType × Instant)) :=
  match p.scheduleFrom? phase start with
  | none => .error (.catalog (.noInitialPhase p.name))
  | some schedule =>
    match phaseAt? schedule date with
    | none => .error (.catalog (.noInitialPhase p.name))
    | some current => .ok (current, upcoming schedule date)

/-- one event for each phase to come, numbered from `sequence` on -/
def phaseEvents (id : Uuid) (plan : String) (processed : Instant) :
    UInt32 → List (PhaseType × Instant) → List TransitionEvent
  | _, [] => []
  | sequence, (phase, start) :: rest =>
    ⟨id, sequence, start, processed, .phase plan phase⟩ ::
      phaseEvents id plan processed (sequence + 1) rest

/-! ## new subscriptions -/

structure NewSubscription where
  id : Uuid
  bundleId : Uuid
  bundleExternalKey : Option String
  plan : Plan
  initialPhase : Option PhaseType
  bundleStartDate : Instant
  alignStartDate : Instant
  effectiveDate : Instant
  processedDate : Instant
  migrated : Bool
deriving DecidableEq

namespace NewSubscription

/-- the date its phases are laid out from -/
def alignedOn (n : NewSubscription) : PlanAlignment → Instant
  | .startOfBundle => n.bundleStartDate
  | .startOfSubscription => n.alignStartDate

def creationEvents (c : Catalog) (n : NewSubscription) :
    Except SubscriptionError (List TransitionEvent) := do
  let (current, later) ←
    n.plan.splitSchedule n.initialPhase (n.alignedOn c.planAlignment) n.effectiveDate
  return ⟨n.id, 0, n.effectiveDate, n.processedDate,
      .create n.plan.name current n.plan.priceListName⟩ ::
    phaseEvents n.id n.plan.name n.processedDate 1 later

def record (c : Catalog) (n : NewSubscription) : Except SubscriptionError SubscriptionRecord := do
  let events ← n.creationEvents c
  return {
    id := n.id
    bundleId := n.bundleId
    bundleExternalKey := n.bundleExternalKey
    category := n.plan.category
    bundleStartDate := n.bundleStartDate
    alignStartDate := n.alignStartDate
    chargedThroughDate := none
    migrated := n.migrated
    createdUtc := n.processedDate
    events := events }

end NewSubscription

/-! ## changes -/

namespace Subscription

def alignedOn (s : Subscription) : PlanAlignment → Instant
  | .startOfBundle => s.bundleStartDate
  | .startOfSubscription => s.alignStartDate

def changePlanEvents (c : Catalog) (s : Subscription) (plan : Plan) (phase : Option PhaseType)
    (effective processed : Instant) : Except SubscriptionError (List TransitionEvent) := do
  let (current, later) ← plan.splitSchedule phase (s.alignedOn c.planAlignment) effective
  return ⟨s.id, s.nextSequence, effective, processed, .change plan.name current plan.priceListName⟩ ::
    phaseEvents s.id plan.name processed (s.nextSequence + 1) later

def cancelEvent (s : Subscription) (effective processed : Instant) : TransitionEvent :=
  ⟨s.id, s.nextSequence, effective, processed, .cancel⟩

def billCycleDayEvent (s : Subscription) (day : UInt32) (effective processed : Instant) :
    TransitionEvent :=
  ⟨s.id, s.nextSequence, effective, processed, .billCycleDayChange day⟩

end Subscription

end SubscriptionBundles
