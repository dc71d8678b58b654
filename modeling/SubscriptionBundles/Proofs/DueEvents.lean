import SubscriptionBundles.Proofs.PlanInForce

/-!
# Events that are due

What is in force at an instant is settled by the events that are effective by then.  The later ones
are steps of the timeline and nothing else.

* `SubscriptionRecord.eventsWith`   the events that a subscription is rebuilt from;
* `TransitionEvent.isDue`           effective by an instant;
* `SubscriptionRecord.dueBy`        a record without its later events;
* `standingAt_filter`               steps that are not due change nothing;
* `transitions_filter`              the due part of a timeline takes the due steps;
* `standingAt_eq_settle`            and settles what is in force, if it does not end;
* `Subscription.rebuild_due`        so the later events may be left out.
-/

namespace SubscriptionBundles

/-! ## the events of a subscription -/

/-- the stored events, and those of the extra ones that are about the subscription -/
def SubscriptionRecord.eventsWith (r : SubscriptionRecord) (extra : List TransitionEvent) :
    List TransitionEvent :=
  r.events ++ extra.filter (·.subscriptionId = r.id)

namespace Subscription
variable (r : SubscriptionRecord) (extra : List TransitionEvent) (now : Instant)

theorem rebuild_events : (rebuild r extra now).events = timeline (r.eventsWith extra) := rfl

theorem rebuild_transitions : (rebuild r extra now).transitions =
    SubscriptionBundles.transitions .initial (rebuild r extra now).events := rfl

theorem rebuild_current : (rebuild r extra now).current =
    standingAt now .initial (rebuild r extra now).transitions := rfl

end Subscription

def TransitionEvent.isDue (now : Instant) (e : TransitionEvent) : Bool :=
  decide (e.effectiveDate ≤ now)

theorem TransitionEvent.isDue_iff {now : Instant} {e : TransitionEvent} :
    e.isDue now = true ↔ e.effectiveDate ≤ now := decide_eq_true_iff

theorem TransitionEvent.not_isDue_iff {now : Instant} {e : TransitionEvent} :
    ¬e.isDue now = true ↔ now < e.effectiveDate := by
  rw [isDue_iff, Instant.le_def, Instant.lt_def]
  exact Int.not_le

def SubscriptionRecord.dueBy (r : SubscriptionRecord) (now : Instant) : SubscriptionRecord :=
  { r with events := r.events.filter (·.isDue now) }

theorem SubscriptionRecord.eventsWith_dueBy (r : SubscriptionRecord) (extra : List TransitionEvent)
    (now : Instant) :
    (r.dueBy now).eventsWith (extra.filter (·.isDue now)) =
      (r.eventsWith extra).filter (·.isDue now) := by
  unfold eventsWith dueBy
  simp only [List.filter_append, List.filter_filter, Bool.and_comm]

/-! ## steps that are due -/

/-- what is not due is passed over -/
theorem standingAt_filter (now : Instant) (s : Standing) (steps : List Transition) :
    standingAt now s (steps.filter fun t => t.event.isDue now) = standingAt now s steps := by
  induction steps generalizing s with
  | nil => rfl
  | cons t rest ih =>
    rw [List.filter_cons]
    show _ = standingAt now (if t.event.effectiveDate ≤ now then t.next else s) rest
    by_cases due : t.event.effectiveDate ≤ now
    · rw [if_pos due, if_pos (TransitionEvent.isDue_iff.2 due)]
      show standingAt now (if t.event.effectiveDate ≤ now then t.next else s) _ = _
      rw [if_pos due]
      exact ih t.next
    · rw [if_neg due, if_neg (mt TransitionEvent.isDue_iff.1 due)]
      exact ih s

/-- in the order of the dates, an event that is not due has none after it that is -/
theorem not_isDue_of_sorted {e : TransitionEvent} {rest : List TransitionEvent} {now : Instant}
    (before : ∀ f ∈ rest, e.effectiveDate ≤ f.effectiveDate) (later : ¬e.isDue now = true) :
    ∀ f ∈ e :: rest, ¬f.isDue now = true := by
  intro f hf
  rw [TransitionEvent.not_isDue_iff, Instant.lt_def] at later ⊢
  rcases List.mem_cons.1 hf with rfl | hf
  · exact later
  · have after := before f hf
    rw [Instant.le_def] at after
    omega

theorem transitions_filter {events : List TransitionEvent}
    (sorted : events.Pairwise fun a b => a.effectiveDate ≤ b.effectiveDate) (now : Instant)
    (s : Standing) :
    transitions s (events.filter fun e => e.isDue now) =
      (transitions s events).filter fun t => t.event.isDue now := by
  induction events generalizing s with
  | nil => rfl
  | cons e rest ih =>
    obtain ⟨before, sorted⟩ := List.pairwise_cons.1 sorted
    by_cases due : e.isDue now = true
    · rw [List.filter_cons, if_pos due]
      by_cases cancels : e.kind = .cancel
      · rw [transitions_cons_cancel cancels, transitions_cons_cancel cancels, List.filter_cons,
          if_pos due]
        rfl
      · cases step : s.after? e.kind with
        | none =>
          rw [transitions_cons_none step, transitions_cons_none step]
          exact ih sorted s
        | some next =>
          rw [transitions_cons_some step cancels, transitions_cons_some step cancels,
            List.filter_cons, if_pos due, ih sorted next]
    · -- none of the others is due, so both sides are empty
      have later := not_isDue_of_sorted before due
      rw [List.filter_eq_nil_iff.2 later]
      symm
      apply List.filter_eq_nil_iff.2
      intro t ht
      exact later _ ((transitions_sublist s (e :: rest)).subset (List.mem_map_of_mem ht))

/-- what is still to come changes nothing yet -/
theorem standingAt_of_later {now : Instant} {events : List TransitionEvent}
    (later : ∀ e ∈ events, now < e.effectiveDate) (s t : Standing) :
    standingAt now s (transitions t events) = s := by
  rw [← standingAt_filter, List.filter_eq_nil_iff.2]
  · rfl
  · intro step hs
    apply TransitionEvent.not_isDue_iff.2
    exact later _ ((transitions_sublist t events).subset (List.mem_map_of_mem hs))

/-! ## what due events settle to -/

/-- events that are all due, none of them a cancellation, settle what is in force -/
theorem standingAt_of_due {now : Instant} {due : List TransitionEvent}
    (all : ∀ e ∈ due, e.effectiveDate ≤ now ∧ e.kind ≠ .cancel) (s : Standing) :
    standingAt now s (transitions s due) = s.settle due := by
  induction due generalizing s with
  | nil => rfl
  | cons e rest ih =>
    have ih := fun s => ih (fun f hf => all f (List.mem_cons_of_mem e hf)) s
    obtain ⟨here, running⟩ := all e List.mem_cons_self
    rw [Standing.settle_cons]
    cases step : s.after? e.kind with
    | none =>
      rw [transitions_cons_none step]
      exact ih s
    | some next =>
      rw [transitions_cons_some step running]
      show standingAt now (if e.effectiveDate ≤ now then next else s) _ = _
      rw [if_pos here]
      exact ih next

section
variable {now : Instant} {events : List TransitionEvent}
  (open_ : ∀ e ∈ events, e.kind = .cancel → now < e.effectiveDate)
include open_

theorem not_cancel_of_due {e : TransitionEvent} (he : e ∈ events.filter (·.isDue now)) :
    e.kind ≠ .cancel := by
  obtain ⟨he, due⟩ := List.mem_filter.1 he
  intro cancels
  exact TransitionEvent.not_isDue_iff.2 (open_ e he cancels) due

/-- as long as no cancellation is due, the due events settle what is in force -/
theorem standingAt_eq_settle
    (sorted : events.Pairwise fun a b => a.effectiveDate ≤ b.effectiveDate) (s : Standing) :
    standingAt now s (transitions s events) = s.settle (events.filter (·.isDue now)) := by
  have all : ∀ e ∈ events.filter (·.isDue now), e.effectiveDate ≤ now ∧ e.kind ≠ .cancel :=
    fun e he => ⟨TransitionEvent.isDue_iff.1 (List.mem_filter.1 he).2, not_cancel_of_due open_ he⟩
  rw [← standingAt_filter, ← transitions_filter sorted, standingAt_of_due all]

end

/-! ## rebuilt subscriptions -/

namespace Subscription
variable (r : SubscriptionRecord) (extra : List TransitionEvent) (now : Instant)

theorem events_due : (rebuild (r.dueBy now) (extra.filter (·.isDue now)) now).events =
    (rebuild r extra now).events.filter fun e => e.isDue now := by
  rw [rebuild_events, rebuild_events, SubscriptionRecord.eventsWith_dueBy, filter_timeline]

theorem transitions_due : (rebuild (r.dueBy now) (extra.filter (·.isDue now)) now).transitions =
    (rebuild r extra now).transitions.filter fun t => t.event.isDue now := by
  rw [rebuild_transitions, rebuild_transitions, events_due, rebuild_events]
  exact transitions_filter (timeline_dates _) now .initial

theorem current_due : (rebuild (r.dueBy now) (extra.filter (·.isDue now)) now).current =
    (rebuild r extra now).current := by
  rw [rebuild_current, rebuild_current, transitions_due, standingAt_filter]

/-- What is in force is the same without the events to come, whose steps are the only ones that are
missing then; of all that is read off the events, the rest does not depend on the present. -/
theorem rebuild_due (r : SubscriptionRecord) (extra : List TransitionEvent) (now : Instant) :
    let whole := rebuild r extra now
    let due := rebuild (r.dueBy now) (extra.filter (·.isDue now)) now
    due.current = whole.current ∧ due.state = whole.state ∧
      due.events = (whole.events.filter fun e => e.isDue now) ∧
      due.transitions = (whole.transitions.filter fun t => t.event.isDue now) ∧
      ∀ later, let s := rebuild r extra later
        s.transitions = whole.transitions ∧ s.events = whole.events ∧
          s.startDate = whole.startDate ∧ s.endDate = whole.endDate := by
  refine ⟨current_due r extra now, ?_, events_due r extra now, transitions_due r extra now, ?_⟩
  · exact congrArg Standing.state (current_due r extra now)
  · intro later
    exact ⟨rfl, rfl, rfl, rfl⟩

end Subscription

end SubscriptionBundles
