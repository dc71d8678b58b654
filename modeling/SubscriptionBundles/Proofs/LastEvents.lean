import SubscriptionBundles.Proofs.NumberedEvents

/-!
# The last event that is due

An event that a turn appends bears a number that no stored one exceeds.  So among the events that are
effective by its date it is the last, and its date is when it takes effect, unless the subscription
has ended by then.

* `transitions_append_of_ended`    nothing comes after a cancellation;
* `standingAt_concat`              what one more event that is due leaves in force;
* `Subscription.current_withLast`  what the last one by its date leaves;
* `SubscriptionRecord.CountsOn`    no event bears a number beyond the next one;
* `Service.run_countsOn`           so it is throughout a run, however long.
-/

namespace SubscriptionBundles

open Service (Turn)

/-! ## what is in force -/

/-- nothing comes after a cancellation -/
theorem transitions_append_of_ended {a : List TransitionEvent} (ended : ∃ e ∈ a, e.kind = .cancel)
    (b : List TransitionEvent) (s : Standing) : transitions s (a ++ b) = transitions s a := by
  induction a generalizing s with
  | nil =>
    obtain ⟨_, here, _⟩ := ended
    cases here
  | cons e a ih =>
    rw [List.cons_append]
    by_cases cancels : e.kind = .cancel
    · rw [transitions_cons_cancel cancels, transitions_cons_cancel cancels]
    · have ended : ∃ f ∈ a, f.kind = .cancel := by
        obtain ⟨f, hf, kind⟩ := ended
        rcases List.mem_cons.1 hf with rfl | hf
        · exact absurd kind cancels
        · exact ⟨f, hf, kind⟩
      cases step : s.after? e.kind with
      | none =>
        rw [transitions_cons_none step, transitions_cons_none step]
        exact ih ended s
      | some next =>
        rw [transitions_cons_some step cancels, transitions_cons_some step cancels, ih ended next]

/-- what one event that is due leaves in force -/
theorem standingAt_single {now : Instant} {e : TransitionEvent} (due : e.effectiveDate ≤ now)
    (s : Standing) : standingAt now s (transitions s [e]) = (s.after? e.kind).getD s := by
  cases step : s.after? e.kind with
  | none =>
    rw [transitions_cons_none step]
    rfl
  | some next =>
    by_cases cancels : e.kind = .cancel
    · rw [cancels] at step
      cases step
      rw [transitions_cons_cancel cancels]
      exact if_pos due
    · rw [transitions_cons_some step cancels]
      exact if_pos due

/-- what one more event leaves in force after others that are due, if none of them is a cancellation -/
theorem standingAt_concat {now : Instant} {events : List TransitionEvent} {e : TransitionEvent}
    (all : ∀ f ∈ events, f.effectiveDate ≤ now) (last : e.effectiveDate ≤ now) (s : Standing) :
    standingAt now s (transitions s (events ++ [e])) =
      let before := standingAt now s (transitions s events)
      if ∃ f ∈ events, f.kind = .cancel then before else (before.after? e.kind).getD before := by
  dsimp only
  by_cases ended : ∃ f ∈ events, f.kind = .cancel
  · rw [if_pos ended, transitions_append_of_ended ended]
  · have open_ : ∀ f ∈ events, f.kind ≠ .cancel := fun f hf cancels => ended ⟨f, hf, cancels⟩
    have settled := standingAt_of_due (fun f hf => ⟨all f hf, open_ f hf⟩) s
    rw [if_neg ended, transitions_append s open_, standingAt_append, settled, standingAt_single last]

namespace Subscription
variable {r : SubscriptionRecord} {e : TransitionEvent}

/-- what is in force is read off the events that are due, in timeline order -/
theorem current_eq_due (r : SubscriptionRecord) (now : Instant) :
    (rebuild r [] now).current =
      standingAt now .initial (SubscriptionBundles.transitions .initial
        (timeline (r.events.filter (·.isDue now)))) := by
  rw [← current_due r [] now, rebuild_current, rebuild_transitions, rebuild_events]
  unfold SubscriptionRecord.eventsWith SubscriptionRecord.dueBy
  rw [List.filter_nil, List.filter_nil, List.append_nil]

theorem state_eq_cancelled_iff_due (r : SubscriptionRecord) (now : Instant) :
    (rebuild r [] now).state = .cancelled ↔
      ∃ f ∈ timeline (r.events.filter (·.isDue now)), f.kind = .cancel := by
  rw [state_rebuild_eq_cancelled_iff]
  refine exists_congr fun f => ?_
  rw [SubscriptionRecord.mem_events_rebuild, mem_timeline, List.mem_filter,
    TransitionEvent.isDue_iff, and_assoc, and_comm (a := f.kind = .cancel)]

/-- An event of its own that is the last one by its date takes effect on that date, unless the
subscription has ended by then. -/
theorem current_withLast (own : e.subscriptionId = r.id)
    (last : ∀ f ∈ r.events, f.effectiveDate ≤ e.effectiveDate → f.precedes e = true) :
    (rebuild (r.withEvents [e]) [] e.effectiveDate).current =
      let before := rebuild r [] e.effectiveDate
      if before.state = .cancelled then before.current
      else (before.current.after? e.kind).getD before.current := by
  let due := r.events.filter (·.isDue e.effectiveDate)
  have here : e.isDue e.effectiveDate = true := TransitionEvent.isDue_iff.2 (Instant.le_refl _)
  have events : (r.withEvents [e]).events.filter (·.isDue e.effectiveDate) = due ++ [e] := by
    show (r.events ++ [e].filter fun f => f.subscriptionId == r.id).filter _ = _
    rw [List.filter_cons_of_pos (by rw [own]; exact beq_self_eq_true _), List.filter_nil,
      List.filter_append, List.filter_cons_of_pos here, List.filter_nil]
  have reached : ∀ f ∈ due, f.effectiveDate ≤ e.effectiveDate := fun f hf =>
    TransitionEvent.isDue_iff.1 (List.mem_filter.1 hf).2
  -- what is due sorts apart from what is to come, and the new event last of it
  have placed : timeline (due ++ [e]) = timeline due ++ [e] :=
    timeline_concat fun f hf => last f (List.mem_filter.1 hf).1 (reached f hf)
  rw [current_eq_due, events, placed, standingAt_concat
    (fun f hf => reached f (mem_timeline.1 hf)) (Instant.le_refl _)]
  simp only [state_eq_cancelled_iff_due, current_eq_due r]
  rfl

end Subscription

/-! ## numbers -/

namespace SubscriptionRecord
variable {r r' : SubscriptionRecord} {now : Instant}

/-- no event bears a number beyond the next one -/
def CountsOn (r : SubscriptionRecord) : Prop :=
  ∀ now, ∀ e ∈ r.events, e.sequence.toNat ≤ (Subscription.rebuild r [] now).nextSequence.toNat

theorem succ_le_next {e : TransitionEvent} (he : e ∈ r.events) (now : Instant) :
    (e.sequence + 1).toNat ≤ (Subscription.rebuild r [] now).nextSequence.toNat := by
  rw [Subscription.nextSequence_toNat]
  exact (foldl_max_bounds (fun e : TransitionEvent => (e.sequence + 1).toNat) _ 0).2.1 e
    (mem_events_rebuild.2 he)

/-- events that are counted one after the other -/
theorem countsOn_of_chain (chain : ∀ e ∈ r.events, e.sequence = 0 ∨
    ∃ f ∈ r.events, e.sequence = f.sequence + 1) : r.CountsOn := by
  intro now e he
  rcases chain e he with zero | ⟨f, hf, next⟩
  · rw [zero]
    exact Nat.zero_le _
  · rw [next]
    exact succ_le_next hf now

/-- more events, a later number -/
theorem next_mono (more : ∀ e ∈ r.events, e ∈ r'.events) (now now' : Instant) :
    (Subscription.rebuild r [] now).nextSequence.toNat ≤
      (Subscription.rebuild r' [] now').nextSequence.toNat := by
  rw [Subscription.nextSequence_toNat]
  refine (foldl_max_bounds (fun e : TransitionEvent => (e.sequence + 1).toNat) _ 0).2.2 _
    (Nat.zero_le _) ?_
  intro e he
  exact succ_le_next (more e (mem_events_rebuild.1 he)) now'

theorem Next.countsOn (h : r.Next r' now) (counts : r.CountsOn) : r'.CountsOn := by
  intro present e he
  have kept := h.toGrew.mem_events
  have old (he : e ∈ r.events) :
      e.sequence.toNat ≤ (Subscription.rebuild r' [] present).nextSequence.toNat :=
    Nat.le_trans (counts present e he) (next_mono kept present present)
  rcases h.next with same | ⟨last, more, extends_⟩
  · rw [same] at he
    exact old he
  · rw [more] at he
    rcases List.mem_append.1 he with he | he
    · exact old he
    · -- the new event has the number that was the next one
      rw [List.mem_singleton] at he
      rw [he, extends_.next]
      exact next_mono kept now present

end SubscriptionRecord

/-- a new record is counted on from its creation -/
theorem NewSubscription.record_countsOn {c : Catalog} {n : NewSubscription} {r : SubscriptionRecord}
    (h : n.record c = .ok r) : r.CountsOn := by
  obtain ⟨current, later, _, rfl⟩ := record_eq_ok h
  refine SubscriptionRecord.countsOn_of_chain ?_
  intro e he
  rcases List.mem_cons.1 he with rfl | he
  · exact .inl rfl
  · right
    obtain ⟨i, q, entry, rfl⟩ := mem_phaseEvents.1 he
    cases i with
    | zero => exact ⟨_, List.mem_cons_self, rfl⟩
    | succ i =>
      obtain ⟨inside, _⟩ := List.getElem?_eq_some_iff.1 entry
      have before : later[i]? = some later[i] := List.getElem?_eq_getElem (by omega)
      refine ⟨_, List.mem_cons_of_mem _ (mem_phaseEvents.2 ⟨i, later[i], before, rfl⟩), ?_⟩
      show 1 + UInt32.ofNat (i + 1) = 1 + UInt32.ofNat i + 1
      rw [UInt32.ofNat_add, ← UInt32.add_assoc]
      rfl

namespace Service
variable (c : Catalog) (max : Nat) (cached : Bool) {turns : List Turn}

theorem run_countsOn (distinct : DistinctIds turns) :
    ∀ r ∈ ((new c max cached).after turns).store.records, r.CountsOn := by
  refine after_induction (P := fun _ s => ∀ r ∈ s.store.records, r.CountsOn) ?_ ?_
  · intro r hr
    cases hr
  · intro earlier t part before r' hr'
    obtain ⟨serves, sound, fresh⟩ := reached c max cached distinct part
    rcases turn_next serves sound fresh r' hr' with ⟨n, made⟩ | ⟨r, hr, next⟩
    · exact n.record_countsOn made
    · exact next.countsOn (before r hr)

end Service

end SubscriptionBundles
