import SubscriptionBundles.Proofs.DueEvents

/-!
# When a subscription is active

A stored subscription is active from its alignment date until a cancellation is effective.

* `EventKind.establishes`                 the events that make a subscription active;
* `Standing.settle_active`                what follows one of them is active;
* `state_standingAt_active`               active means that one of them is effective;
* `SubscriptionRecord.Follows.active_iff` the same read off the record.
-/

namespace SubscriptionBundles

/-- it makes a subscription active -/
def EventKind.establishes : EventKind → Bool
  | .create _ _ _ | .change _ _ _ => true
  | _ => false

theorem EventKind.establishes_of_fits {name : String} {k : EventKind} (h : k.fits name = true) :
    k.establishes = false := by
  cases k with
  | create _ _ _ | change _ _ _ => cases h
  | phase _ _ | cancel | billCycleDayChange _ => rfl

theorem Standing.state_eq_active_iff {s : Standing} :
    s.state = .active ↔ s.state? = some .active := by
  unfold state
  cases s.state? with
  | none => simp
  | some state => simp

theorem Standing.after?_active {s next : Standing} {k : EventKind} (step : s.after? k = some next)
    (hk : k ≠ .cancel) : next.state = .active ↔ s.state = .active ∨ k.establishes = true := by
  cases k with
  | create _ _ _ | change _ _ _ =>
    cases step
    simp [EventKind.establishes, Standing.state]
  | phase plan phase =>
    obtain ⟨_, rfl⟩ := Standing.after?_phase_eq_some.1 step
    simp [EventKind.establishes, Standing.state]
  | cancel => exact absurd rfl hk
  | billCycleDayChange _ =>
    cases step
    simp [EventKind.establishes, Standing.state]

theorem Standing.establishes_of_after?_eq_none {s : Standing} {k : EventKind}
    (step : s.after? k = none) : k.establishes = false := by
  cases k with
  | create _ _ _ | change _ _ _ => cases step
  | phase _ _ | cancel | billCycleDayChange _ => rfl

/-- without a cancellation, one of the events that establish a plan is enough -/
theorem Standing.settle_active {events : List TransitionEvent}
    (open_ : ∀ e ∈ events, e.kind ≠ .cancel) (s : Standing) :
    (s.settle events).state = .active ↔
      s.state = .active ∨ ∃ e ∈ events, e.kind.establishes = true := by
  induction events generalizing s with
  | nil => simp [settle]
  | cons e rest ih =>
    have ih := ih fun f hf => open_ f (List.mem_cons_of_mem e hf)
    have split : (∃ f ∈ e :: rest, f.kind.establishes = true) ↔
        e.kind.establishes = true ∨ ∃ f ∈ rest, f.kind.establishes = true := by simp
    rw [settle_cons, ih, split]
    cases step : s.after? e.kind with
    | none => simp [establishes_of_after?_eq_none step]
    | some next =>
      rw [Option.getD_some, after?_active step (open_ e List.mem_cons_self), or_assoc]

theorem state_standingAt_active {now : Instant} {events : List TransitionEvent}
    (sorted : events.Pairwise fun a b => a.effectiveDate ≤ b.effectiveDate)
    (open_ : ∀ e ∈ events, e.kind = .cancel → now < e.effectiveDate) (s : Standing) :
    (standingAt now s (transitions s events)).state = .active ↔
      s.state = .active ∨ ∃ e ∈ events, e.kind.establishes = true ∧ e.effectiveDate ≤ now := by
  rw [standingAt_eq_settle open_ sorted, Standing.settle_active]
  · refine or_congr_right (exists_congr fun e => ?_)
    rw [List.mem_filter, TransitionEvent.isDue_iff, and_assoc, and_comm (a := _ ≤ _)]
  · intro e he
    exact not_cancel_of_due open_ he

namespace SubscriptionRecord
variable {r : SubscriptionRecord}

theorem state_eq_active_iff (r : SubscriptionRecord) (now : Instant) :
    (Subscription.rebuild r [] now).state = .active ↔
      r.isLiveAt now = true ∧
        ∃ e ∈ r.events, e.kind.establishes = true ∧ e.effectiveDate ≤ now := by
  by_cases live : r.isLiveAt now = true
  · have open_ : ∀ e ∈ (Subscription.rebuild r [] now).events, e.kind = .cancel →
        now < e.effectiveDate := fun e he => isLiveAt_iff.1 live e (mem_events_rebuild.1 he)
    have active := state_standingAt_active (timeline_dates _) open_ .initial
    refine active.trans ?_
    simp only [Standing.state, Standing.initial, live, true_and]
    refine (or_iff_right (by simp)).trans ?_
    exact exists_congr fun e => and_congr_left fun _ => @mem_events_rebuild r now e
  · rw [← state_ne_cancelled, bne_iff_ne, ne_eq, Decidable.not_not] at live
    rw [live]
    constructor
    · intro active
      cases active
    · intro given
      have running := given.1
      rw [← state_ne_cancelled, live] at running
      cases running

theorem Follows.active_iff {name : String} (h : r.Follows name) (now : Instant) :
    (Subscription.rebuild r [] now).state = .active ↔
      r.alignStartDate ≤ now ∧ r.isLiveAt now = true := by
  rw [state_eq_active_iff, and_comm, and_congr_left]
  intro _
  obtain ⟨phase, priceList, later, events, fit⟩ := h
  rw [events]
  constructor
  · intro given
    obtain ⟨e, he, establishes, due⟩ := given
    rcases List.mem_cons.1 he with rfl | he
    · exact due
    · rw [EventKind.establishes_of_fits (fit e he).2.1] at establishes
      cases establishes
  · intro due
    exact ⟨_, List.mem_cons_self, rfl, due⟩

end SubscriptionRecord

end SubscriptionBundles
