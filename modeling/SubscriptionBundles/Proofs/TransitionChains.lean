import Mathlib.Data.List.Chain
import SubscriptionBundles.Proofs.DueEvents
import SubscriptionBundles.Proofs.HeededEvents

/-!
# Chains of transitions

Each step of a timeline starts from the standing that the step before it leaves, since an event that
is ignored changes nothing.

* `transitions_isChain`             from where one step leads, the next one starts;
* `dropLast_transitions`            none is taken after a cancellation;
* `Subscription.Chained`            what is known of the steps of a subscription;
* `Subscription.rebuild_chained`    whatever its events are.
-/

namespace SubscriptionBundles

/-! ## steps that follow each other -/

section
variable (s : Standing) (events : List TransitionEvent)

theorem previous_head_transitions : ∀ t ∈ (transitions s events).head?, t.previous = s := by
  induction events with
  | nil => exact fun t ht => nomatch ht
  | cons e rest ih =>
    cases step : s.after? e.kind with
    | none =>
      rw [transitions_cons_none step]
      exact ih
    | some next =>
      intro t ht
      unfold transitions at ht
      rw [step] at ht
      cases ht
      rfl

theorem transitions_isChain : (transitions s events).IsChain fun a b => b.previous = a.next := by
  induction events generalizing s with
  | nil => exact .nil
  | cons e rest ih =>
    by_cases cancels : e.kind = .cancel
    · rw [transitions_cons_cancel cancels]
      exact .singleton _
    · cases step : s.after? e.kind with
      | none =>
        rw [transitions_cons_none step]
        exact ih s
      | some next =>
        rw [transitions_cons_some step cancels, List.isChain_cons]
        exact ⟨previous_head_transitions next rest, ih next⟩

theorem after?_of_mem_transitions :
    ∀ t ∈ transitions s events, t.previous.after? t.event.kind = some t.next := by
  induction events generalizing s with
  | nil => exact fun t ht => nomatch ht
  | cons e rest ih =>
    cases step : s.after? e.kind with
    | none =>
      rw [transitions_cons_none step]
      exact ih s
    | some next =>
      intro t ht
      unfold transitions at ht
      rw [step] at ht
      rcases List.mem_cons.1 ht with rfl | ht
      · exact step
      · by_cases cancels : e.kind = .cancel
        · rw [if_pos cancels] at ht
          cases ht
        · rw [if_neg cancels] at ht
          exact ih next t ht

/-- no step is taken after a cancellation -/
theorem dropLast_transitions : ∀ t ∈ (transitions s events).dropLast, t.event.kind ≠ .cancel := by
  induction events generalizing s with
  | nil => exact fun t ht => nomatch ht
  | cons e rest ih =>
    by_cases cancels : e.kind = .cancel
    · rw [transitions_cons_cancel cancels]
      exact fun t ht => nomatch ht
    · cases step : s.after? e.kind with
      | none =>
        rw [transitions_cons_none step]
        exact ih s
      | some next =>
        rw [transitions_cons_some step cancels]
        intro t ht
        cases steps : transitions next rest with
        | nil =>
          rw [steps] at ht
          cases ht
        | cons u us =>
          rw [steps, List.dropLast_cons_cons] at ht
          rcases List.mem_cons.1 ht with rfl | ht
          · exact cancels
          · apply ih next t
            rw [steps]
            exact ht

end

/-! ## rebuilt subscriptions -/

namespace Subscription

/-- the steps of a subscription are taken for its heeded events, in the order of these, the first
from nothing and each of the others from where the one before it leads -/
structure Chained (s : Subscription) : Prop where
  ordered : s.transitions.Pairwise fun a b => a.event.precedes b.event = true
  first : ∀ t ∈ s.transitions.head?, t.previous = .initial
  linked : s.transitions.IsChain fun a b => b.previous = a.next
  steps : ∀ t ∈ s.transitions, t.previous.after? t.event.kind = some t.next
  last : ∀ t ∈ s.transitions.dropLast, t.event.kind ≠ .cancel
  heeded : s.transitions.map (·.event) = heededAfter [] s.events

variable (r : SubscriptionRecord) (extra : List TransitionEvent) (now : Instant)

theorem events_perm : (rebuild r extra now).events.Perm (r.eventsWith extra) := timeline_perm _

theorem transitions_ordered :
    (rebuild r extra now).transitions.Pairwise fun a b => a.event.precedes b.event = true := by
  have sorted := timeline_sorted (r.eventsWith extra)
  rw [rebuild_transitions, rebuild_events]
  exact List.pairwise_map.1 (sorted.sublist (transitions_sublist .initial _))

/-- The transitions of a subscription form an unbroken chain, and the events that it has no
transition for come after a cancellation or are phases of a plan that is not in force. -/
theorem rebuild_chained (r : SubscriptionRecord) (extra : List TransitionEvent) (now : Instant) :
    (rebuild r extra now).Chained ∧
      (rebuild r extra now).events.Perm (r.eventsWith extra) := by
  refine ⟨?_, events_perm r extra now⟩
  constructor
  case ordered => exact transitions_ordered r extra now
  case first => exact previous_head_transitions .initial _
  case linked => exact transitions_isChain .initial _
  case steps => exact after?_of_mem_transitions .initial _
  case last => exact dropLast_transitions .initial _
  case heeded => exact @transitions_heededAfter [] (fun _ h => nomatch h) _

end Subscription

end SubscriptionBundles
