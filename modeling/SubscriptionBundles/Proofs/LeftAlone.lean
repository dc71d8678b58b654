import SubscriptionBundles.Proofs.StopPreviews

/-!
# What a simulation leaves alone

A simulation is about one subscription, from one date on.  Every event that it makes is that
subscription's and is effective no earlier, so all other subscriptions look as they are stored, and
so does that one until then.

* `Simulation.AimsAt`               whom a simulation is about, and from when on;
* `BeginOn`                         events of one subscription, from one date on;
* `simulate_aimsAt`                 those of a simulation are;
* `Subscription.rebuild_of_others`  the events of others change nothing;
* `Subscription.current_of_later`   and later ones change nothing yet;
* `SimulatedSubscription.Shows`     a stored subscription as it would look;
* `simulate_leaves_alone`           the subscriptions of a snapshot as they would look.
-/

namespace SubscriptionBundles

/-! ## whom a simulation is about -/

section
variable {ctx : Context} {c : Catalog} {snapshot : Snapshot} {args : DryRunArguments}
  {sim : Simulation}

/-- the subscription that a simulation is about, and the date on which it takes effect: one that is
started, or one of the snapshot that is changed or stopped -/
inductive Simulation.AimsAt (sim : Simulation) (ctx : Context) (c : Catalog) (snapshot : Snapshot)
    (args : DryRunArguments) : Uuid → Instant → Prop
  | start {new : SubscriptionRecord} (action : args.action = .startBilling)
      (synthetic : sim.synthetic = some new) :
      sim.AimsAt ctx c snapshot args new.id (args.requested ctx)
  | change {id : Uuid} {s : Subscription} {date : Instant} (action : args.action = .change)
      (synthetic : sim.synthetic = none) (target : args.subscriptionId = some id)
      (found : snapshot.find? id = some s)
      (dated : changeEffectiveDate ctx c s args.effectiveDate args.policy .unknown = .ok date) :
      sim.AimsAt ctx c snapshot args id date
  | stop {id : Uuid} {s : Subscription} {date : Instant} (action : args.action = .stopBilling)
      (synthetic : sim.synthetic = none) (target : args.subscriptionId = some id)
      (found : snapshot.find? id = some s) (dated : stopEffectiveDate ctx c s args = .ok date) :
      sim.AimsAt ctx c snapshot args id date

theorem Snapshot.of_find? {id : Uuid} {s : Subscription} (found : snapshot.find? id = some s) :
    s ∈ snapshot.subscriptions ∧ s.id = id :=
  ⟨List.mem_of_find?_eq_some found, by simpa using List.find?_some found⟩

theorem requiredSubscription_target {s : Subscription}
    (h : requiredSubscription snapshot args = .ok s) :
    ∃ id, args.subscriptionId = some id ∧ snapshot.find? id = some s ∧ s.id = id := by
  cases target : args.subscriptionId with
  | none =>
    unfold requiredSubscription at h
    rw [target] at h
    cases h
  | some id =>
    have found := requiredSubscription_eq_ok target h
    exact ⟨id, rfl, found, (Snapshot.of_find? found).2⟩

/-- the phases after a date are those to come of a schedule -/
theorem Plan.upcoming_of_splitSchedule {plan : Plan} {phase : Option PhaseType}
    {start date : Instant} {split : PhaseType × List (PhaseType × Instant)}
    (h : plan.splitSchedule phase start date = .ok split) :
    ∃ schedule, split.2 = upcoming schedule date := by
  cases index : plan.phaseIndex? phase with
  | none =>
    rw [splitSchedule_none index] at h
    cases h
  | some k =>
    obtain ⟨_, _, whole⟩ := splitSchedule_some index start date
    rw [whole] at h
    cases h
    exact ⟨_, rfl⟩

/-- events of one subscription, the first of them on a date and none before it -/
structure BeginOn (events : List TransitionEvent) (id : Uuid) (date : Instant) : Prop where
  own : ∀ e ∈ events, e.subscriptionId = id
  first : ∃ e ∈ events.head?, e.effectiveDate = date
  notBefore : ∀ e ∈ events, date ≤ e.effectiveDate

theorem BeginOn.cons {e : TransitionEvent} {later : List TransitionEvent}
    (within : ∀ f ∈ later, f.subscriptionId = e.subscriptionId ∧ e.effectiveDate < f.effectiveDate) :
    BeginOn (e :: later) e.subscriptionId e.effectiveDate := by
  refine ⟨?_, ⟨e, rfl, rfl⟩, ?_⟩
  · intro f hf
    rcases List.mem_cons.1 hf with rfl | hf
    · rfl
    · exact (within f hf).1
  · intro f hf
    rcases List.mem_cons.1 hf with rfl | hf
    · exact Instant.le_refl _
    · exact Int.le_of_lt (within f hf).2

theorem phaseEvents_upcoming {id : Uuid} {plan : String} {processed : Instant} {number : UInt32}
    {schedule : List (PhaseType × Instant)} {date : Instant} :
    ∀ e ∈ phaseEvents id plan processed number (upcoming schedule date),
      e.subscriptionId = id ∧ date < e.effectiveDate :=
  fun e he => ⟨(phaseEvents_fit e he).1, lt_of_mem_upcoming he⟩

/-- a simulation that is given is about one subscription, from one date on -/
theorem simulate_aimsAt (h : simulate ctx c snapshot args = .ok sim) :
    ∃ id date, sim.AimsAt ctx c snapshot args id date ∧ BeginOn sim.events id date := by
  unfold simulate at h
  cases action : args.action with
  | startBilling =>
    rw [action] at h
    obtain ⟨specifier, _, h⟩ := bind_eq_ok.1 h
    obtain ⟨r, started, h⟩ := bind_eq_ok.1 h
    cases h
    obtain ⟨plan, _, _, _, _, made⟩ := startRecord_eq_ok.1 started
    obtain ⟨phase, later, split, rfl⟩ := NewSubscription.record_eq_ok made
    obtain ⟨schedule, rfl⟩ := Plan.upcoming_of_splitSchedule split
    exact ⟨_, _, .start action rfl, .cons phaseEvents_upcoming⟩
  | change =>
    rw [action] at h
    obtain ⟨specifier, _, h⟩ := bind_eq_ok.1 h
    obtain ⟨s, required, h⟩ := bind_eq_ok.1 h
    obtain ⟨plan, _, h⟩ := bind_eq_ok.1 h
    obtain ⟨_, _, h⟩ := bind_eq_ok.1 h
    obtain ⟨date, dated, h⟩ := bind_eq_ok.1 h
    obtain ⟨events, made, h⟩ := bind_eq_ok.1 h
    cases h
    obtain ⟨_, _, _, _, rfl⟩ := Subscription.changePlanEvents_eq_ok made
    obtain ⟨_, target, found, rfl⟩ := requiredSubscription_target required
    exact ⟨_, _, .change action rfl target found dated, .cons phaseEvents_upcoming⟩
  | stopBilling =>
    rw [action] at h
    obtain ⟨s, required, h⟩ := bind_eq_ok.1 h
    obtain ⟨date, dated, h⟩ := bind_eq_ok.1 h
    cases h
    obtain ⟨_, target, found, rfl⟩ := requiredSubscription_target required
    exact ⟨_, _, .stop action rfl target found dated, .cons nofun⟩

end

/-! ## who is left alone -/

namespace Subscription
variable {r : SubscriptionRecord} {extra : List TransitionEvent}

theorem rebuild_of_others (others : ∀ e ∈ extra, e.subscriptionId ≠ r.id) (now : Instant) :
    rebuild r extra now = rebuild r [] now := by
  rw [← rebuild_withEvents, withEvents_of_other others]

theorem current_of_later {now : Instant} (later : ∀ e ∈ extra, now < e.effectiveDate) :
    (rebuild r extra now).current = (rebuild r [] now).current := by
  have none : extra.filter (·.isDue now) = [] := by
    rw [List.filter_eq_nil_iff]
    intro e he
    exact TransitionEvent.not_isDue_iff.2 (later e he)
  rw [← current_due r extra now, ← current_due r [] now, none, List.filter_nil]

end Subscription

/-- a view of a stored subscription: the stored one itself, unless it is the one that a simulation is
about, and for that one what is in force until the date of the simulation -/
structure SimulatedSubscription.Shows (v : SimulatedSubscription) (r : SubscriptionRecord) (id : Uuid)
    (date t : Instant) : Prop where
  view : ∃ extra, v = ⟨.rebuild r extra t, false⟩
  other : r.id ≠ id → v = ⟨.rebuild r [] t, false⟩
  before : t < date → v.subscription.current = (Subscription.rebuild r [] t).current

/-- beside a record, events that begin on a date change neither others nor the time before -/
theorem BeginOn.shows {events : List TransitionEvent} {id : Uuid} {date : Instant}
    (h : BeginOn events id date) (r : SubscriptionRecord) (t : Instant) :
    SimulatedSubscription.Shows ⟨.rebuild r events t, false⟩ r id date t := by
  refine ⟨⟨events, rfl⟩, ?_, ?_⟩
  · intro other
    have others : ∀ e ∈ events, e.subscriptionId ≠ r.id := fun e he same =>
      other (same.symm.trans (h.own e he))
    rw [Subscription.rebuild_of_others others]
  · intro early
    apply Subscription.current_of_later
    intro e he
    have after := h.notBefore e he
    rw [Instant.le_def] at after
    rw [Instant.lt_def] at early ⊢
    omega

/-- The bundle as it would look has one view for each stored subscription, in order, and the one that
is started comes last.  Those that the simulation is not about look as they are stored, and what is in
force of the one that it is about is the same until the simulation takes effect. -/
theorem simulate_leaves_alone {ctx : Context} {c : Catalog} {bundleId : Uuid} {key : Option String}
    {records : List SubscriptionRecord} {now : Instant} {args : DryRunArguments} {sim : Simulation}
    (simulated : simulate ctx c (.take bundleId key records now) args = .ok sim) :
    ∃ id date, sim.AimsAt ctx c (.take bundleId key records now) args id date ∧
      BeginOn sim.events id date ∧
      ∀ t, ∃ views, sim.materialize (.take bundleId key records now) t =
          views ++ sim.synthetic.toList.map (fun new => ⟨.rebuild new [] t, true⟩) ∧
        List.Forall₂ (fun r v => v.Shows r id date t) records views := by
  obtain ⟨id, date, aims, begins⟩ := simulate_aimsAt simulated
  refine ⟨id, date, aims, begins, ?_⟩
  intro t
  refine ⟨records.map fun r => ⟨.rebuild r sim.events t, false⟩, ?_, ?_⟩
  · unfold Simulation.materialize
    rw [Snapshot.records_take]
  · rw [List.forall₂_map_right_iff]
    exact List.forall₂_same.2 fun r _ => begins.shows r t

/-- the pistol is stopped when it is paid up, and its laser goes on -/
theorem simulate_leaves_alone_paid :
    let records := ((Service.new Shop.catalog 255 true).after Shop.paid).store.records
    let snapshot := Snapshot.take (.ofNat 1000) none records Shop.fourthDay.now
    records.length = 2 ∧ ∃ sim, simulate Shop.fourthDay Shop.catalog snapshot Shop.stopPistol = .ok sim ∧
      ∃ id date, sim.AimsAt Shop.fourthDay Shop.catalog snapshot Shop.stopPistol id date ∧
        BeginOn sim.events id date ∧
        ∀ t, ∃ views, sim.materialize snapshot t =
            views ++ sim.synthetic.toList.map (fun new => ⟨.rebuild new [] t, true⟩) ∧
          List.Forall₂ (fun r v => v.Shows r id date t) records views := by
  intro records snapshot
  have held : records.length = 2 ∧
      (simulate Shop.fourthDay Shop.catalog snapshot Shop.stopPistol).isOk = true := by
    decide +kernel
  obtain ⟨both, answered⟩ := held
  obtain ⟨sim, simulated⟩ := exists_of_isOk answered
  exact ⟨both, sim, simulated, simulate_leaves_alone simulated⟩

end SubscriptionBundles
