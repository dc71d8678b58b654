import SubscriptionBundles.Catalog.Plan
import SubscriptionBundles.Order.StableSort
import SubscriptionBundles.Uuid.Basic

/-!
# Events

A subscription is its list of events, each effective at an instant.

* `EventKind`                 what an event changes;
* `TransitionEvent`           one event, numbered in the order it was appended;
* `TransitionEvent.precedes`  timeline order: effective date, then number.
-/

namespace SubscriptionBundles

inductive EventKind
  | create (plan : String) (phase : PhaseType) (priceList : String)
  | phase (plan : String) (phase : PhaseType)
  | change (plan : String) (phase : PhaseType) (priceList : String)
  | cancel
  | billCycleDayChange (day : UInt32)
deriving DecidableEq

def EventKind.label : EventKind → String
  | create _ _ _ => "create"
  | phase _ _ => "phase"
  | change _ _ _ => "change"
  | cancel => "cancel"
  | billCycleDayChange _ => "bcd_change"

structure TransitionEvent where
  subscriptionId : Uuid
  sequence : UInt32
  effectiveDate : Instant
  processedDate : Instant
  kind : EventKind
deriving DecidableEq

namespace TransitionEvent

def precedes (a b : TransitionEvent) : Bool :=
  decide (a.effectiveDate < b.effectiveDate) ||
    (decide (a.effectiveDate = b.effectiveDate) && decide (a.sequence.toNat ≤ b.sequence.toNat))

def isBillCycleDayChange (e : TransitionEvent) : Bool :=
  match e.kind with
  | .billCycleDayChange _ => true
  | _ => false

theorem precedes_iff {a b : TransitionEvent} :
    a.precedes b = true ↔ a.effectiveDate.place < b.effectiveDate.place ∨
      a.effectiveDate.place = b.effectiveDate.place ∧ a.sequence.toNat ≤ b.sequence.toNat := by
  simp [precedes, Instant.lt_def, Instant.place_inj]

theorem precedes_total (a b : TransitionEvent) : a.precedes b = true ∨ b.precedes a = true := by
  simp only [precedes_iff]
  omega

theorem precedes_trans (a b c : TransitionEvent) (hab : a.precedes b = true)
    (hbc : b.precedes c = true) : a.precedes c = true := by
  simp only [precedes_iff] at *
  omega

end TransitionEvent

/-- events in timeline order -/
def timeline (events : List TransitionEvent) : List TransitionEvent :=
  stableSort TransitionEvent.precedes events

theorem timeline_perm (events : List TransitionEvent) : (timeline events).Perm events :=
  stableSort_perm _ events

theorem timeline_sorted (events : List TransitionEvent) :
    (timeline events).Pairwise (TransitionEvent.precedes · · = true) :=
  stableSort_sorted TransitionEvent.precedes_total TransitionEvent.precedes_trans events

theorem timeline_concat {events : List TransitionEvent} {e : TransitionEvent}
    (last : ∀ f ∈ events, f.precedes e = true) : timeline (events ++ [e]) = timeline events ++ [e] :=
  stableSort_concat last

theorem filter_timeline (p : TransitionEvent → Bool) (events : List TransitionEvent) :
    (timeline events).filter p = timeline (events.filter p) :=
  filter_stableSort TransitionEvent.precedes_total TransitionEvent.precedes_trans p events

end SubscriptionBundles
