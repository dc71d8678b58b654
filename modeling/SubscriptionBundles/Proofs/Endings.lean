import SubscriptionBundles.Proofs.DueEvents
import SubscriptionBundles.Proofs.Runs

/-!
# Endings

The earliest cancellation ends a subscription, wherever it stands among the events, and nothing that
is added later brings the subscription back.

* `Subscription.endDate_eq_some_iff`    the end date is that one;
* `Subscription.state_eq_cancelled_iff` cancelled means that it is reached;
* `Subscription.cancellation_final`     so all tests of liveness agree, now and ever after.
-/

namespace SubscriptionBundles

namespace Subscription
variable (r : SubscriptionRecord) (extra : List TransitionEvent) (now : Instant)

theorem mem_events_iff {e : TransitionEvent} :
    e ∈ (rebuild r extra now).events ↔ e ∈ r.eventsWith extra := mem_timeline

theorem endsFirst_events {date : Instant} :
    EndsFirst (rebuild r extra now).events date ↔ EndsFirst (r.eventsWith extra) date := by
  unfold EndsFirst
  simp only [mem_events_iff]

theorem never_ends_iff :
    (rebuild r extra now).endDate = none ↔ ∀ e ∈ r.eventsWith extra, e.kind ≠ .cancel := by
  rw [endDate_eq_none_iff]
  simp only [mem_events_iff]

theorem endDate_eq_some_iff {date : Instant} :
    (rebuild r extra now).endDate = some date ↔ EndsFirst (r.eventsWith extra) date := by
  rw [← endsFirst_events r extra now]
  refine ⟨endsFirst_endDate r extra now, fun first => ?_⟩
  cases ends : (rebuild r extra now).endDate with
  | none =>
    obtain ⟨e, he, cancels, _⟩ := first.1
    exact absurd cancels ((endDate_eq_none_iff r extra now).1 ends e he)
  | some other => exact congrArg some ((endsFirst_endDate r extra now ends).unique first)

theorem state_eq_cancelled_iff :
    (rebuild r extra now).state = .cancelled ↔
      ∃ date, (rebuild r extra now).endDate = some date ∧ date ≤ now := by
  rw [state_rebuild_eq_cancelled_iff]
  constructor
  · rintro ⟨e, he, cancels, due⟩
    cases ends : (rebuild r extra now).endDate with
    | none => exact absurd cancels ((endDate_eq_none_iff r extra now).1 ends e he)
    | some date =>
      have first := (endsFirst_endDate r extra now ends).2 e he cancels
      refine ⟨date, rfl, ?_⟩
      rw [Instant.le_def] at *
      omega
  · rintro ⟨date, ends, due⟩
    obtain ⟨⟨e, he, cancels, rfl⟩, _⟩ := endsFirst_endDate r extra now ends
    exact ⟨e, he, cancels, due⟩

/-- a cancellation that is effective stays so, whatever other events there are -/
theorem cancelled_of_more {r' : SubscriptionRecord} {extra' : List TransitionEvent} {later : Instant}
    (ended : (rebuild r extra now).state = .cancelled)
    (more : r.eventsWith extra ⊆ r'.eventsWith extra') (le : now ≤ later) :
    (rebuild r' extra' later).state = .cancelled := by
  obtain ⟨e, he, cancels, due⟩ := (state_rebuild_eq_cancelled_iff r extra now).1 ended
  rw [mem_events_iff] at he
  refine (state_rebuild_eq_cancelled_iff r' extra' later).2 ⟨e, ?_, cancels, ?_⟩
  · exact (mem_events_iff r' extra' later).2 (more he)
  · rw [Instant.le_def] at *
    omega

/-- The earliest cancellation ends a subscription, which is cancelled once that is reached, by every
test, and at every later instant, whatever events come in addition. -/
theorem cancellation_final (r : SubscriptionRecord) (extra : List TransitionEvent) (now : Instant) :
    let s := rebuild r extra now
    (∀ date, s.endDate = some date ↔ EndsFirst (r.eventsWith extra) date) ∧
      (s.endDate = none ↔ ∀ e ∈ r.eventsWith extra, e.kind ≠ .cancel) ∧
      (s.state = .cancelled ↔ ∃ date, s.endDate = some date ∧ date ≤ now) ∧
      s.isActiveOrPending = (s.state != .cancelled) ∧
      s.isLiveAfter now = (s.state != .cancelled) ∧
      (s.state = .cancelled → ∀ (r' : SubscriptionRecord) (extra' : List TransitionEvent)
        (later : Instant), r.eventsWith extra ⊆ r'.eventsWith extra' → now ≤ later →
          (rebuild r' extra' later).state = .cancelled) := by
  intro s
  refine ⟨fun date => endDate_eq_some_iff r extra now, never_ends_iff r extra now,
    state_eq_cancelled_iff r extra now, rfl, ?_, ?_⟩
  · exact (isActiveOrPending_rebuild r extra now).symm
  · intro ended r' extra' later more le
    exact cancelled_of_more r extra now ended more le

end Subscription

/-- cancelled as of one day, and then again as of an earlier one -/
def Shop.recancelled : SubscriptionRecord where
  id := .ofNat 1
  bundleId := .ofNat 2
  bundleExternalKey := none
  category := .base
  bundleStartDate := Shop.midnight 20000
  alignStartDate := Shop.midnight 20000
  chargedThroughDate := none
  migrated := false
  createdUtc := Shop.midnight 20000
  events :=
    [⟨.ofNat 1, 0, Shop.midnight 20000, Shop.midnight 20000,
        .create "pistol-monthly" .evergreen Catalog.defaultPriceList⟩,
      ⟨.ofNat 1, 1, Shop.midnight 20030, Shop.midnight 20003, .cancel⟩,
      ⟨.ofNat 1, 2, Shop.midnight 20010, Shop.midnight 20004, .cancel⟩]

/-- and started anew after that -/
def Shop.restarted : SubscriptionRecord :=
  { Shop.recancelled with
    events := Shop.recancelled.events ++
      [⟨.ofNat 1, 3, Shop.midnight 20020, Shop.midnight 20015,
        .create "pistol-monthly" .evergreen Catalog.defaultPriceList⟩] }

theorem Subscription.cancellation_final_restarted :
    (rebuild Shop.recancelled [] (Shop.midnight 20012)).endDate = some (Shop.midnight 20010) ∧
      (rebuild Shop.recancelled [] (Shop.midnight 20012)).state = .cancelled ∧
      (rebuild Shop.restarted [] (Shop.midnight 20021)).state = .cancelled := by
  obtain ⟨ends, _, ended, _, _, final⟩ :=
    cancellation_final Shop.recancelled [] (Shop.midnight 20012)
  have date := (ends (Shop.midnight 20010)).2 (by decide)
  have cancelled := ended.2 ⟨Shop.midnight 20010, date, by decide⟩
  refine ⟨date, cancelled, final cancelled Shop.restarted [] (Shop.midnight 20021) ?_ (by decide)⟩
  exact List.subset_append_left _ _

end SubscriptionBundles
