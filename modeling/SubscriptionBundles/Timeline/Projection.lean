import SubscriptionBundles.Timeline.Subscription

/-!
# Projected events

The transitions of a subscription as callers outside see them: each with the subscription's
alignment date, which billing periods are counted from.

* `Subscription.project`         chosen transitions, in the order given;
* `Subscription.allTransitions`  every transition, past and future.
-/

namespace SubscriptionBundles

structure ProjectedEvent where
  subscriptionId : Uuid
  bundleId : Uuid
  eventType : String
  effectiveDate : Instant
  processedDate : Instant
  alignmentStartDate : Instant
  previous : Standing
  next : Standing
deriving DecidableEq

namespace Subscription

def projectOne (s : Subscription) (t : Transition) : ProjectedEvent where
  subscriptionId := s.id
  bundleId := s.bundleId
  eventType := t.event.kind.label
  effectiveDate := t.event.effectiveDate
  processedDate := t.event.processedDate
  alignmentStartDate := s.alignStartDate
  previous := t.previous
  next := t.next

def project (s : Subscription) (chosen : List Transition) : List ProjectedEvent :=
  chosen.map s.projectOne

def allTransitions (s : Subscription) : List ProjectedEvent := s.project s.transitions

end Subscription

end SubscriptionBundles
