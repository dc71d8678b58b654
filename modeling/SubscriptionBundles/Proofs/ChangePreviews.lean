import SubscriptionBundles.Proofs.PlanChanges
import SubscriptionBundles.Proofs.StartPreviews

/-!
# Previews of a change

A dry run of a change shows the subscription on the new plan.  It shows the plan's own phases,
except where the change enters the plan that the subscription is on already, at another phase: phase
events of that plan that were stored before then count as well.

* `DryRunArguments.Asks`                 the change that is asked for;
* `simulate_change_eq_ok`                what a previewed change has gone through;
* `Simulation.view?`                     a subscription as it would look;
* `PlanChange.moves`                     its events beside those of the record;
* `Service.change_preview_iff`           when a preview keeps to the plan's own phases.
-/

namespace SubscriptionBundles

open Service (Turn)

/-! ## the change asked for -/

/-- what a change moves a subscription to, and when -/
structure DryRunArguments.Asks (args : DryRunArguments) (ctx : Context) (c : Catalog)
    (s : Subscription) (m : PlanChange) : Prop where
  plan : ∃ specifier, args.plan = some specifier ∧
    c.resolvePlan specifier args.overrides = .ok m.plan ∧
    m.plan.phaseIndex? specifier.phaseType = some m.place
  start : m.start = s.alignedOn c.planAlignment
  effective : changeEffectiveDate ctx c s args.effectiveDate args.policy .unknown = .ok m.effective

/-- a subscription of a bundle as it would look -/
def Simulation.view? (sim : Simulation) (snapshot : Snapshot) (now : Instant) (id : Uuid) :
    Option Subscription :=
  ((sim.materialize snapshot now).find? fun v => v.subscription.id == id).map (·.subscription)

theorem Subscription.changePlanEvents_eq_ok {c : Catalog} {s : Subscription} {plan : Plan}
    {phase : Option PhaseType} {effective processed : Instant} {events : List TransitionEvent}
    (h : s.changePlanEvents c plan phase effective processed = .ok events) :
    ∃ k current, plan.phaseIndex? phase = some k ∧
      plan.phaseInForce? k (s.alignedOn c.planAlignment) effective = some current ∧
      events = ⟨s.id, s.nextSequence, effective, processed,
          .change plan.name current plan.priceListName⟩ ::
        phaseEvents s.id plan.name processed (s.nextSequence + 1)
          (upcoming (phaseSchedule (s.alignedOn c.planAlignment) (plan.phases.drop k)) effective) := by
  obtain ⟨⟨current, later⟩, split, made⟩ := bind_eq_ok.1 h
  cases made
  cases index : plan.phaseIndex? phase with
  | none =>
    rw [Plan.splitSchedule_none index] at split
    cases split
  | some k =>
    obtain ⟨_, force, whole⟩ := Plan.splitSchedule_some index (s.alignedOn c.planAlignment) effective
    rw [whole] at split
    cases split
    exact ⟨k, current, rfl, force, rfl⟩

section
variable {ctx : Context} {c : Catalog} {snapshot : Snapshot} {args : DryRunArguments}
  {sim : Simulation}

theorem requiredPlan_eq_ok {specifier : PlanSpecifier} (h : requiredPlan args = .ok specifier) :
    args.plan = some specifier := by
  unfold requiredPlan at h
  cases given : args.plan with
  | none =>
    rw [given] at h
    cases h
  | some other =>
    rw [given] at h
    cases h
    rfl

theorem requiredSubscription_eq_ok {id : Uuid} (target : args.subscriptionId = some id)
    {s : Subscription} (h : requiredSubscription snapshot args = .ok s) :
    snapshot.find? id = some s := by
  unfold requiredSubscription at h
  rw [target] at h
  cases found : snapshot.find? id with
  | none =>
    simp only [found] at h
    cases h
  | some other =>
    simp only [found] at h
    exact congrArg some (Except.ok.inj (refuse_eq_ok.1 h).2)

theorem simulate_change_eq_ok (changes : args.action = .change) {id : Uuid}
    (target : args.subscriptionId = some id) (h : simulate ctx c snapshot args = .ok sim) :
    ∃ s, snapshot.find? id = some s ∧ ∃ m, args.Asks ctx c s m ∧
      ∃ current, m.phaseAt? m.effective = some current ∧
        sim.events = ⟨s.id, s.nextSequence, m.effective, ctx.now,
            .change m.plan.name current m.plan.priceListName⟩ ::
          phaseEvents s.id m.plan.name ctx.now (s.nextSequence + 1) m.toCome := by
  unfold simulate at h
  rw [changes] at h
  obtain ⟨specifier, given, h⟩ := bind_eq_ok.1 h
  obtain ⟨s, found, h⟩ := bind_eq_ok.1 h
  obtain ⟨plan, resolved, h⟩ := bind_eq_ok.1 h
  obtain ⟨_, _, h⟩ := bind_eq_ok.1 h
  obtain ⟨effective, dated, h⟩ := bind_eq_ok.1 h
  obtain ⟨events, made, h⟩ := bind_eq_ok.1 h
  cases h
  obtain ⟨k, current, index, force, rfl⟩ := Subscription.changePlanEvents_eq_ok made
  have asks : args.Asks ctx c s ⟨plan, k, s.alignedOn c.planAlignment, effective⟩ :=
    ⟨⟨specifier, requiredPlan_eq_ok given, liftM_eq_ok.1 resolved, index⟩, rfl, dated⟩
  exact ⟨s, requiredSubscription_eq_ok target found, _, asks, current, force, rfl⟩

end

/-! ## a stored subscription -/

section
variable {s : Store} {b : Bundle} {r : SubscriptionRecord}

/-- the subscription of an identifier in a bundle -/
theorem Store.find?_snapshotOf (sound : s.Sound) (hr : r ∈ s.records) {now : Instant}
    {found : Subscription} (h : (s.snapshotOf b now).find? r.id = some found) :
    r ∈ s.recordsForBundle b.id ∧ found = .rebuild r [] now := by
  unfold Snapshot.find? snapshotOf at h
  rw [Snapshot.subscriptions_take] at h
  obtain ⟨q, hq, rfl⟩ := List.mem_map.1 (List.mem_of_find?_eq_some h)
  have same : q.id = r.id := by simpa using List.find?_some h
  obtain rfl : q = r := sound.record_eq (List.mem_filter.1 hq).1 hr same
  exact ⟨hq, rfl⟩

theorem Simulation.view?_eq (sound : s.Sound) (hr : r ∈ s.recordsForBundle b.id) (sim : Simulation)
    (now t : Instant) :
    sim.view? (s.snapshotOf b now) t r.id = some (.rebuild r sim.events t) := by
  unfold view? materialize Store.snapshotOf
  rw [Snapshot.records_take, List.find?_append, List.find?_map]
  show ((((s.recordsForBundle b.id).find? fun q => q.id == r.id).map _).or _).map _ = _
  rw [sound.find?_recordsForBundle hr]
  rfl

/-- the events of a change that is previewed, beside those of the record -/
theorem PlanChange.moves {m : PlanChange} {name : String} (follows : r.Follows name)
    (numbered : Numbered r.events) (lasting : r.neverEnds = true)
    (late : r.alignStartDate ≤ m.effective) {current : PhaseType}
    (force : m.phaseAt? m.effective = some current)
    (fits : r.events.length + (m.toCome.length + 1) < 2 ^ 32) (now : Instant) :
    m.Moves r ⟨r.id, (Subscription.rebuild r [] now).nextSequence, m.effective, now,
        .change m.plan.name current m.plan.priceListName⟩
      (phaseEvents r.id m.plan.name now ((Subscription.rebuild r [] now).nextSequence + 1)
        m.toCome) := by
  have number := nextSequence_of_numbered numbered (by omega) now
  have next : ((Subscription.rebuild r [] now).nextSequence + 1).toNat = r.events.length + 1 := by
    rw [← number]
    exact toNat_add_ofNat (i := 1) (by omega)
  have room : ((Subscription.rebuild r [] now).nextSequence + 1).toNat + m.toCome.length
      ≤ 2 ^ 32 := by omega
  refine ⟨⟨name, follows⟩, lasting, late, numbered.append ?_, ⟨_, _, current, force, rfl⟩,
    ⟨_, _, room, rfl⟩⟩
  intro i e here
  cases i with
  | zero =>
    cases here
    exact number
  | succ i =>
    rw [List.getElem?_cons_succ] at here
    rw [phaseEvents_numbers room here]
    omega

end

/-! ## every run -/

namespace Service
variable (c : Catalog) (max : Nat) (cached : Bool) {turns : List Turn} {b : Bundle}
  {r : SubscriptionRecord} {ctx : Context} {args : DryRunArguments} {sim : Simulation}

/-- a previewed change of a subscription that nothing ends: from the change on the subscription is in
the plan's own phases, if and only if no stored event disturbs them -/
theorem change_preview_iff (distinct : DistinctIds turns)
    (stored : r ∈ ((new c max cached).after turns).store.records) (lasting : r.neverEnds = true)
    (changes : args.action = .change) (target : args.subscriptionId = some r.id)
    (simulated : SubscriptionBundles.simulate ctx c
      (((new c max cached).after turns).store.snapshotOf b ctx.now) args = .ok sim)
    (fits : r.events.length + sim.events.length < 2 ^ 32) :
    ∃ m, args.Asks ctx c (.rebuild r [] ctx.now) m ∧
      ((Subscription.rebuild r [] ctx.now).startDate ≤ m.effective →
        ((∀ t, m.effective ≤ t → ∃ v,
            sim.view? (((new c max cached).after turns).store.snapshotOf b ctx.now) t r.id = some v ∧
              v.state = .active ∧ v.current.plan? = some m.plan.name ∧
              v.current.phase? = m.phaseAt? t) ↔
          ∀ e, ¬m.DisturbedBy r e)) := by
  obtain ⟨_, sound, _⟩ := run_sound c max cached distinct
  obtain ⟨found, here, m, asks, current, force, events⟩ :=
    simulate_change_eq_ok changes target simulated
  obtain ⟨member, rfl⟩ := Store.find?_snapshotOf sound stored here
  refine ⟨m, asks, ?_⟩
  intro late
  obtain ⟨_, _, _, follows⟩ := run_onPlans c max cached distinct r stored
  rw [follows.startDate_eq] at late
  obtain ⟨numbered, _⟩ := run_orderly c max cached distinct r stored (by omega)
  rw [events, List.length_cons, phaseEvents_length] at fits
  have moves := PlanChange.moves follows numbered lasting late force fits ctx.now
  have view := Simulation.view?_eq sound member sim ctx.now
  rw [events] at view
  rw [← moves.kept_iff]
  refine forall_congr' fun t => imp_congr_right fun _ => ?_
  constructor
  · intro shown
    obtain ⟨v, same, active, kept⟩ := shown
    cases (view t).symm.trans same
    exact ⟨Standing.state_eq_active_iff.1 active, kept⟩
  · intro given
    exact ⟨_, view t, Standing.state_eq_active_iff.2 given.1, given.2⟩

end Service

/-! ## a trial that is skipped -/

namespace Shop

def trials : Catalog := catalog.withPlan tried

def onTrial : List Turn := [turn 1 (.create [.new [.forPlan "pistol-trial"]] false)]

/-- the trial is to go over into its last phase at once -/
def skipTrial : DryRunArguments :=
  .change (.ofNat 1001) ((PlanSpecifier.forPlan "pistol-trial").withPhase .evergreen)

/-- a day after the trial has started -/
def nextDay : Context := .ofNow owner (midnight 20002)

def skipped : Simulation where
  action := .change
  events := [⟨.ofNat 1001, 3, midnight 20002, midnight 20002,
    .change "pistol-trial" .evergreen Catalog.defaultPriceList⟩]
  synthetic := none

/-- the last phase of the plan from then on -/
def evergreen : PlanChange := ⟨tried, 2, midnight 20001, midnight 20002⟩

end Shop

theorem change_preview_iff_skipTrial :
    let s := (Service.new Shop.trials 255 true).after Shop.onTrial
    DistinctIds Shop.onTrial ∧ Shop.holster ∈ s.store.bundles ∧
      ∃ r ∈ s.store.records, r.neverEnds = true ∧ Shop.skipTrial.subscriptionId = some r.id ∧
        ∃ m, Shop.skipTrial.Asks Shop.nextDay Shop.trials
            (.rebuild r [] Shop.nextDay.now) m ∧
          ((Subscription.rebuild r [] Shop.nextDay.now).startDate ≤ m.effective →
            ((∀ t, m.effective ≤ t → ∃ v, Shop.skipped.view?
                (s.store.snapshotOf Shop.holster Shop.nextDay.now) t r.id = some v ∧
                v.state = .active ∧ v.current.plan? = some m.plan.name ∧
                v.current.phase? = m.phaseAt? t) ↔
              ∀ e, ¬m.DisturbedBy r e)) := by
  have distinct : DistinctIds Shop.onTrial := by decide +kernel
  have held : let s := (Service.new Shop.trials 255 true).after Shop.onTrial
      Shop.holster ∈ s.store.bundles ∧ (∃ r ∈ s.store.records, r.neverEnds = true ∧
        Shop.skipTrial.subscriptionId = some r.id ∧ r.events.length = 3) ∧
      simulate Shop.nextDay Shop.trials (s.store.snapshotOf Shop.holster Shop.nextDay.now)
        Shop.skipTrial = .ok Shop.skipped := by decide +kernel
  obtain ⟨stored, ⟨r, hr, lasting, target, three⟩, simulated⟩ := held
  have fits : r.events.length + Shop.skipped.events.length < 2 ^ 32 := by
    rw [three]
    decide
  exact ⟨distinct, stored, r, hr, lasting, target, Service.change_preview_iff Shop.trials 255 true
    distinct hr lasting rfl target simulated fits⟩

/-- the stored discount comes back when the trial would have ended -/
theorem skipTrial_disturbed :
    let s := (Service.new Shop.trials 255 true).after Shop.onTrial
    let snapshot := s.store.snapshotOf Shop.holster Shop.nextDay.now
    DistinctIds Shop.onTrial ∧ Shop.holster ∈ s.store.bundles ∧
      simulate Shop.nextDay Shop.trials snapshot Shop.skipTrial = .ok Shop.skipped ∧
      ∃ r ∈ s.store.records, r.neverEnds = true ∧ Shop.skipTrial.subscriptionId = some r.id ∧
        Shop.skipTrial.Asks Shop.nextDay Shop.trials (.rebuild r [] Shop.nextDay.now)
          Shop.evergreen ∧
        (Subscription.rebuild r [] Shop.nextDay.now).startDate ≤ Shop.evergreen.effective ∧
        Shop.evergreen.effective ≤ Shop.midnight 20031 ∧
        Shop.evergreen.phaseAt? (Shop.midnight 20031) = some .evergreen ∧
        ((Shop.skipped.view? snapshot (Shop.midnight 20031) r.id).bind (·.current.phase?)) =
          some .discount := by
  intro s snapshot
  have held : (DistinctIds Shop.onTrial ∧ Shop.holster ∈ s.store.bundles ∧
      simulate Shop.nextDay Shop.trials snapshot Shop.skipTrial = .ok Shop.skipped ∧
      Shop.trials.resolvePlan ((PlanSpecifier.forPlan "pistol-trial").withPhase .evergreen) [] =
        .ok Shop.tried ∧
      Shop.evergreen.effective ≤ Shop.midnight 20031 ∧
      Shop.evergreen.phaseAt? (Shop.midnight 20031) = some .evergreen) ∧
    ∃ r ∈ s.store.records, r.neverEnds = true ∧
      Shop.skipTrial.subscriptionId = some r.id ∧
      Shop.evergreen.start = (Subscription.rebuild r [] Shop.nextDay.now).alignedOn .startOfBundle ∧
      changeEffectiveDate Shop.nextDay Shop.trials (.rebuild r [] Shop.nextDay.now)
        Shop.skipTrial.effectiveDate Shop.skipTrial.policy .unknown =
          .ok Shop.evergreen.effective ∧
      (Subscription.rebuild r [] Shop.nextDay.now).startDate ≤ Shop.evergreen.effective ∧
      ((Shop.skipped.view? snapshot (Shop.midnight 20031) r.id).bind (·.current.phase?)) =
        some .discount := by decide +kernel
  obtain ⟨⟨distinct, stored, simulated, resolved, later, force⟩, r, hr, lasting, target, start,
    effective, late, shown⟩ := held
  exact ⟨distinct, stored, simulated, r, hr, lasting, target,
    ⟨⟨_, rfl, resolved, by decide⟩, start, effective⟩, late, later, force, shown⟩

end SubscriptionBundles
