import SubscriptionBundles.Timeline.Subscription

/-!
# The lifetime of a subscription

A subscription ends with its first cancellation, and every test of liveness reads that one date.

* `EndsFirst`                                     the date of the earliest cancellation of events;
* `Subscription.endsFirst_endDate`                a subscription ends then;
* `Subscription.state_rebuild_eq_cancelled_iff`   cancelled means that a cancellation is effective;
* `SubscriptionRecord.isLiveAt`                   liveness read off the stored events;
* `SubscriptionRecord.isLiveAt_mono`              who is live was live before.
-/

namespace SubscriptionBundles

/-! ## the end of a timeline -/

theorem endOf?_transitions (s : Standing) (events : List TransitionEvent) :
    endOf? (transitions s events) =
      (events.find? fun e => decide (e.kind = .cancel)).map (·.effectiveDate) := by
  induction events generalizing s with
  | nil => rfl
  | cons e rest ih =>
    by_cases hc : e.kind = .cancel
    · rw [transitions_cons_cancel hc]
      simp [endOf?, hc]
    · rw [List.find?_cons_of_neg (by simpa using hc)]
      cases step : s.after? e.kind with
      | none =>
        rw [transitions_cons_none step]
        exact ih s
      | some next =>
        rw [transitions_cons_some step hc, ← ih next]
        simp [endOf?, hc]

theorem timeline_dates (events : List TransitionEvent) :
    (timeline events).Pairwise fun a b => a.effectiveDate ≤ b.effectiveDate := by
  refine (timeline_sorted events).imp ?_
  intro a b h
  have := TransitionEvent.precedes_iff.1 h
  rw [Instant.le_def]
  omega

theorem mem_timeline {e : TransitionEvent} {events : List TransitionEvent} :
    e ∈ timeline events ↔ e ∈ events :=
  mem_stableSort _

theorem Standing.after?_state {s next : Standing} {k : EventKind} (step : s.after? k = some next)
    (hk : k ≠ .cancel) (h : s.state ≠ .cancelled) : next.state ≠ .cancelled := by
  cases k with
  | create _ _ _ | change _ _ _ =>
    cases step
    simp [Standing.state]
  | phase plan phase =>
    obtain ⟨_, rfl⟩ := Standing.after?_phase_eq_some.1 step
    exact h
  | cancel => exact absurd rfl hk
  | billCycleDayChange _ =>
    cases step
    exact h

/-- `s` is in force so far, `t` is where the timeline stands; neither has ended -/
theorem state_standingAt {events : List TransitionEvent}
    (sorted : events.Pairwise fun a b => a.effectiveDate ≤ b.effectiveDate) (now : Instant)
    {s t : Standing} (hs : s.state ≠ .cancelled) (ht : t.state ≠ .cancelled) :
    (standingAt now s (transitions t events)).state = .cancelled ↔
      ∃ e ∈ events, e.kind = .cancel ∧ e.effectiveDate ≤ now := by
  induction events generalizing s t with
  | nil => simpa [standingAt] using hs
  | cons e rest ih =>
    obtain ⟨before, sorted⟩ := List.pairwise_cons.1 sorted
    by_cases hc : e.kind = .cancel
    · rw [transitions_cons_cancel hc]
      show (if e.effectiveDate ≤ now then _ else s).state = _ ↔ _
      by_cases hn : e.effectiveDate ≤ now
      · rw [if_pos hn]
        exact ⟨fun _ => ⟨e, List.mem_cons_self, hc, hn⟩, fun _ => rfl⟩
      · rw [if_neg hn]
        refine ⟨fun h => absurd h hs, ?_⟩
        -- the others come later still
        intro given
        obtain ⟨f, hf, _, hfn⟩ := given
        rcases List.mem_cons.1 hf with rfl | hf
        · exact absurd hfn hn
        · have := before f hf
          simp only [Instant.le_def] at *
          omega
    · have skip : (∃ f ∈ e :: rest, f.kind = .cancel ∧ f.effectiveDate ≤ now) ↔
          ∃ f ∈ rest, f.kind = .cancel ∧ f.effectiveDate ≤ now := by
        simp [hc]
      rw [skip]
      cases step : t.after? e.kind with
      | none =>
        rw [transitions_cons_none step]
        exact ih sorted hs ht
      | some next =>
        have hnext := Standing.after?_state step hc ht
        rw [transitions_cons_some step hc]
        show (standingAt now (if e.effectiveDate ≤ now then next else s) _).state = _ ↔ _
        split
        · exact ih sorted hnext hnext
        · exact ih sorted hs hnext

/-- a cancellation is effective at the date, and none earlier -/
def EndsFirst (events : List TransitionEvent) (date : Instant) : Prop :=
  (∃ e ∈ events, e.kind = .cancel ∧ e.effectiveDate = date) ∧
    ∀ e ∈ events, e.kind = .cancel → date ≤ e.effectiveDate

instance (events : List TransitionEvent) (date : Instant) : Decidable (EndsFirst events date) :=
  inferInstanceAs (Decidable (_ ∧ _))

theorem EndsFirst.unique {events : List TransitionEvent} {a b : Instant} (ha : EndsFirst events a)
    (hb : EndsFirst events b) : a = b := by
  obtain ⟨⟨e, he, cancels, rfl⟩, least⟩ := ha
  obtain ⟨⟨f, hf, cancels', rfl⟩, least'⟩ := hb
  have le := least f hf cancels'
  have ge := least' e he cancels
  rw [Instant.le_def] at le ge
  exact Instant.place_inj.1 (by omega)

/-! ## rebuilt subscriptions -/

namespace Subscription
variable (r : SubscriptionRecord) (extra : List TransitionEvent) (now : Instant)

theorem mem_rebuild_events {e : TransitionEvent} :
    e ∈ (rebuild r extra now).events ↔ e ∈ r.events ∨ e ∈ extra ∧ e.subscriptionId = r.id := by
  show e ∈ timeline _ ↔ _
  simp [mem_timeline]

theorem endDate_rebuild :
    (rebuild r extra now).endDate =
      ((rebuild r extra now).events.find? fun e => decide (e.kind = .cancel)).map
        (·.effectiveDate) :=
  endOf?_transitions _ _

theorem state_rebuild_eq_cancelled_iff :
    (rebuild r extra now).state = .cancelled ↔
      ∃ e ∈ (rebuild r extra now).events, e.kind = .cancel ∧ e.effectiveDate ≤ now :=
  state_standingAt (timeline_dates _) now (by decide) (by decide)

theorem endDate_eq_none_iff : (rebuild r extra now).endDate = none ↔
    ∀ e ∈ (rebuild r extra now).events, e.kind ≠ .cancel := by
  rw [endDate_rebuild, Option.map_eq_none_iff, List.find?_eq_none]
  simp

/-- the first cancellation of the timeline is the earliest -/
theorem endsFirst_endDate {date : Instant} (ends : (rebuild r extra now).endDate = some date) :
    EndsFirst (rebuild r extra now).events date := by
  have dates : (rebuild r extra now).events.Pairwise fun a b => a.effectiveDate ≤ b.effectiveDate :=
    timeline_dates _
  rw [endDate_rebuild] at ends
  obtain ⟨e, first, rfl⟩ := Option.map_eq_some_iff.1 ends
  obtain ⟨cancels, before, after, cut, running⟩ := List.find?_eq_some_iff_append.1 first
  refine ⟨⟨e, List.mem_of_find?_eq_some first, by simpa using cancels, rfl⟩, ?_⟩
  intro f hf ends
  rw [cut] at hf dates
  rcases List.mem_append.1 hf with hf | hf
  · exact absurd ends (by simpa using running f hf)
  · rcases List.mem_cons.1 hf with rfl | hf
    · exact Instant.le_refl _
    · exact (List.pairwise_cons.1 (List.pairwise_append.1 dates).2.1).1 f hf

theorem isLiveAfter_rebuild_iff :
    (rebuild r extra now).isLiveAfter now = true ↔
      ∀ e ∈ (rebuild r extra now).events, e.kind = .cancel → now < e.effectiveDate := by
  unfold isLiveAfter
  cases ends : (rebuild r extra now).endDate with
  | none =>
    have lasting := (endDate_eq_none_iff r extra now).1 ends
    exact ⟨fun _ e he hc => absurd hc (lasting e he), fun _ => rfl⟩
  | some date =>
    obtain ⟨⟨e, he, cancels, rfl⟩, least⟩ := endsFirst_endDate r extra now ends
    show decide (now < e.effectiveDate) = true ↔ _
    rw [decide_eq_true_eq]
    constructor
    · intro live f hf hc
      have later := least f hf hc
      simp only [Instant.le_def, Instant.lt_def] at *
      omega
    · intro later
      exact later e he cancels

theorem isActiveOrPending_rebuild :
    (rebuild r extra now).isActiveOrPending = (rebuild r extra now).isLiveAfter now := by
  rw [Bool.eq_iff_iff, isLiveAfter_rebuild_iff]
  unfold isActiveOrPending
  rw [bne_iff_ne, ne_eq, state_rebuild_eq_cancelled_iff]
  constructor
  · intro h e he hc
    rw [Instant.lt_def]
    have : ¬e.effectiveDate ≤ now := fun hn => h ⟨e, he, hc, hn⟩
    rw [Instant.le_def] at this
    omega
  · intro h given
    obtain ⟨e, he, hc, hn⟩ := given
    have := h e he hc
    simp only [Instant.le_def, Instant.lt_def] at *
    omega

end Subscription

/-! ## records -/

namespace SubscriptionRecord
variable {r : SubscriptionRecord}

/-- a record is rebuilt from its own events -/
theorem mem_events_rebuild {now : Instant} {e : TransitionEvent} :
    e ∈ (Subscription.rebuild r [] now).events ↔ e ∈ r.events := by
  rw [Subscription.mem_rebuild_events]
  exact or_iff_left fun extra => List.not_mem_nil extra.1

/-- no cancellation is effective by the instant -/
def isLiveAt (r : SubscriptionRecord) (now : Instant) : Bool :=
  r.events.all fun e => e.kind != .cancel || decide (now < e.effectiveDate)

theorem isLiveAt_iff {now : Instant} :
    r.isLiveAt now = true ↔ ∀ e ∈ r.events, e.kind = .cancel → now < e.effectiveDate := by
  unfold isLiveAt
  simp [← Decidable.imp_iff_not_or]

theorem isLiveAfter_eq (r : SubscriptionRecord) (now : Instant) :
    (Subscription.rebuild r [] now).isLiveAfter now = r.isLiveAt now := by
  rw [Bool.eq_iff_iff, Subscription.isLiveAfter_rebuild_iff, isLiveAt_iff]
  exact forall_congr' fun e => by rw [mem_events_rebuild]

theorem isActiveOrPending_eq (r : SubscriptionRecord) (now : Instant) :
    (Subscription.rebuild r [] now).isActiveOrPending = r.isLiveAt now := by
  rw [Subscription.isActiveOrPending_rebuild, isLiveAfter_eq]

theorem state_ne_cancelled (r : SubscriptionRecord) (now : Instant) :
    ((Subscription.rebuild r [] now).state != .cancelled) = r.isLiveAt now :=
  isActiveOrPending_eq r now

/-- more events or a later instant only end subscriptions -/
theorem isLiveAt_mono {r' : SubscriptionRecord} {now later : Instant}
    (grown : ∀ e ∈ r.events, e ∈ r'.events) (hn : now ≤ later) (live : r'.isLiveAt later = true) :
    r.isLiveAt now = true := by
  rw [isLiveAt_iff] at *
  intro e he hc
  have := live e (grown e he) hc
  simp only [Instant.le_def, Instant.lt_def] at *
  omega

end SubscriptionRecord

end SubscriptionBundles
