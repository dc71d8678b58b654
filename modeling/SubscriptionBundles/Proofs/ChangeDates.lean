import SubscriptionBundles.Proofs.StoredPreviews

/-!
# When a change takes effect

Two calls say when a plan change would take effect: the dry run of the change, which lays out the
phases of the new plan as well, and the question for the date alone, which knows the billing
alignment.  Where the dry run does not miss the alignment, both say the same.

* `ChangeTerms.arguments`           the dry run of a change;
* `changeEffectiveDate_anchor`      who does not miss the alignment does not use it;
* `Simulation.ChangesOn`            the date of the one change in a simulation;
* `changePlanEvents_of_resolved`    a plan that is resolved can be laid out;
* `simulate_change_opened`          the checks of a simulated change, one after another;
* `simulateChange_matching`         the same for both calls;
* `Service.change_date_matching`    what the calls answer.
-/

namespace SubscriptionBundles

open Service (Turn)

/-- the dry run of a change -/
def ChangeTerms.arguments (terms : ChangeTerms) (id : Uuid) : DryRunArguments :=
  ⟨.change, some terms.target, terms.overrides, some id, terms.requested, terms.policy⟩

/-! ## the date -/

theorem changeEffectiveDate_anchor {ctx : Context} {c : Catalog} {s : Subscription}
    {requested : Option Date} {policy : Option BillingPolicy}
    (known : changeEffectiveDate ctx c s requested policy .unknown ≠
      .error .billingAlignmentUnavailable) (anchor : BillingAnchor) :
    changeEffectiveDate ctx c s requested policy anchor =
      changeEffectiveDate ctx c s requested policy .unknown := by
  unfold changeEffectiveDate at known ⊢
  cases requested with
  | some d => rfl
  | none =>
    cases chosen : changePolicy c s policy with
    | error e => rfl
    | ok p =>
      refine effectiveDate_anchor ctx s ?_ anchor .unknown
      rintro rfl
      rw [chosen] at known
      exact known rfl

/-! ## the events -/

def TransitionEvent.isChange (e : TransitionEvent) : Bool :=
  match e.kind with
  | .change _ _ _ => true
  | _ => false

/-- one of the events is a change of plan, and this is its date -/
def Simulation.ChangesOn (sim : Simulation) (date : Instant) : Prop :=
  ∃ e, sim.events.filter (·.isChange) = [e] ∧ e.effectiveDate = date

theorem changePlanEvents_of_resolved {c : Catalog} {specifier : PlanSpecifier}
    {overrides : List PriceOverride} {plan : Plan}
    (resolved : c.resolvePlan specifier overrides = .ok plan) (s : Subscription)
    (effective processed : Instant) :
    ∃ e later, s.changePlanEvents c plan specifier.phaseType effective processed =
        .ok (e :: later) ∧
      e.isChange = true ∧ e.effectiveDate = effective ∧ ∀ f ∈ later, f.isChange = false := by
  obtain ⟨_, k, index⟩ := Catalog.resolvePlan_of_ok resolved
  obtain ⟨current, _, split⟩ :=
    Plan.splitSchedule_some index (s.alignedOn c.planAlignment) effective
  unfold Subscription.changePlanEvents
  rw [split]
  refine ⟨_, _, rfl, rfl, rfl, ?_⟩
  intro f hf
  obtain ⟨_, phase, kind⟩ := phaseEvents_fit f hf
  unfold TransitionEvent.isChange
  rw [kind]

/-! ## one check after another -/

section
variable {ctx : Context} {c : Catalog} {snapshot : Snapshot} {terms : ChangeTerms} {id : Uuid}
  {found : Subscription}

/-- the checks of a simulated change, one after another -/
theorem simulate_change_opened
    (required : requiredSubscription snapshot (terms.arguments id) = .ok found) :
    simulate ctx c snapshot (terms.arguments id) = (do
      let plan ← c.resolvePlan terms.target terms.overrides
      checkAddOnLimit plan snapshot.subscriptions [plan]
      let effective ← changeEffectiveDate ctx c found terms.requested terms.policy .unknown
      let events ← found.changePlanEvents c plan terms.target.phaseType effective ctx.now
      return ⟨.change, events, none⟩) := by
  show simulateChange ctx c snapshot (terms.arguments id) = _
  unfold simulateChange requiredPlan
  rw [required]
  rfl

/-- neither call asks for something that the other one does not -/
theorem simulateChange_matching
    (required : requiredSubscription snapshot (terms.arguments id) = .ok found)
    (known : simulate ctx c snapshot (terms.arguments id) ≠ .error .billingAlignmentUnavailable)
    {found? : Except SubscriptionError BillingAnchor} {anchor : BillingAnchor}
    (anchored : found? = .ok anchor) :
    Matching Simulation.ChangesOn (simulate ctx c snapshot (terms.arguments id)) (do
      let plan ← c.resolvePlan terms.target terms.overrides
      checkAddOnLimit plan snapshot.subscriptions [plan]
      let anchor ← found?
      changeEffectiveDate ctx c found terms.requested terms.policy anchor) := by
  rw [simulate_change_opened required] at known ⊢
  refine .bind _ fun plan resolved => ?_
  rw [resolved] at known
  refine .bind _ fun _ within => ?_
  change (checkAddOnLimit plan snapshot.subscriptions [plan] >>= _) ≠ _ at known
  rw [within] at known
  rw [anchored]
  show Matching _ _ (changeEffectiveDate ctx c found terms.requested terms.policy anchor)
  cases dated : changeEffectiveDate ctx c found terms.requested terms.policy .unknown with
  | error e =>
    have met : e ≠ .billingAlignmentUnavailable := by
      rintro rfl
      change (changeEffectiveDate ctx c found terms.requested terms.policy .unknown >>= _) ≠ _
        at known
      rw [dated] at known
      exact known rfl
    rw [changeEffectiveDate_anchor (by rw [dated]; simpa using met), dated]
    exact .refused e
  | ok date =>
    rw [changeEffectiveDate_anchor (by rw [dated]; nofun), dated]
    obtain ⟨e, later, made, change, on, phases⟩ :=
      changePlanEvents_of_resolved (liftM_eq_ok.1 resolved) found date ctx.now
    show Matching _ (found.changePlanEvents c plan terms.target.phaseType date ctx.now >>= _) _
    rw [made]
    refine .answered ⟨e, ?_, on⟩
    show (e :: later).filter (·.isChange) = [e]
    rw [List.filter_cons_of_pos change, List.filter_eq_nil_iff.2]
    intro f hf
    rw [phases f hf]
    exact Bool.false_ne_true

end

/-! ## every run -/

namespace Service
variable (c : Catalog) (max : Nat) (cached : Bool) {turns : List Turn} {r : SubscriptionRecord}
  {ctx : Context} {terms : ChangeTerms}

/-- unless its dry run misses the billing alignment, a change of a subscription that is not
cancelled is refused for one reason by both calls, or the date is that of the simulated change -/
theorem change_date_matching (distinct : DistinctIds turns)
    (stored : r ∈ ((new c max cached).after turns).store.records)
    (running : (Subscription.rebuild r [] ctx.now).state ≠ .cancelled)
    (aligned : (((new c max cached).after turns).simulate ctx r.bundleId
      (terms.arguments r.id)).1 ≠ .error .billingAlignmentUnavailable) :
    let s := (new c max cached).after turns
    Matching (fun preview date => ∃ b sim,
        s.Shows c ctx (terms.arguments r.id) b sim preview ∧ sim.ChangesOn date)
      (s.simulate ctx r.bundleId (terms.arguments r.id)).1 (s.changeDate ctx r.id terms).1 := by
  obtain ⟨serves, sound, _⟩ := run_sound c max cached distinct
  have on := run_onPlans c max cached distinct
  generalize (new c max cached).after turns = s at *
  refine simulate_matching (fun _ => Simulation.ChangesOn) serves sound stored ?_
  intro b hb home
  have within := Store.mem_recordsForBundle stored home
  have required : requiredSubscription (s.store.snapshotOf b ctx.now) (terms.arguments r.id) =
      .ok (.rebuild r [] ctx.now) := requiredSubscription_stored sound within rfl running
  have known : SubscriptionBundles.simulate ctx c (s.store.snapshotOf b ctx.now)
      (terms.arguments r.id) ≠ .error .billingAlignmentUnavailable := by
    intro missed
    rw [home, simulate_answer serves sound hb, missed] at aligned
    exact aligned rfl
  let around := Snapshot.take r.bundleId none (s.store.recordsForBundle r.bundleId) ctx.now
  obtain ⟨anchor, anchored⟩ := billingAnchor_stored on stored ctx around.base? terms.accountDay
  have same : (s.store.snapshotOf b ctx.now).subscriptions = around.subscriptions := by
    unfold Store.snapshotOf
    rw [Snapshot.subscriptions_take, Snapshot.subscriptions_take, home]
  have asked : (s.changeDate ctx r.id terms).1 = (do
      let plan ← c.resolvePlan terms.target terms.overrides
      checkAddOnLimit plan (s.store.snapshotOf b ctx.now).subscriptions [plan]
      let anchor ← billingAnchor ctx c (.rebuild r [] ctx.now) around.base? terms.accountDay
      changeEffectiveDate ctx c (.rebuild r [] ctx.now) terms.requested terms.policy anchor) := by
    rw [same]
    unfold changeDate
    rw [snapshotAround_stored serves.inOrder sound stored, serves.catalog_eq]
    show (around.require r.id >>= _) = _
    rw [Snapshot.require_stored sound stored]
    rfl
  rw [asked]
  exact simulateChange_matching required known anchored

end Service

/-! ## a pistol on trial -/

namespace Shop

/-- the trial is to go over into its last phase at once -/
def skipTerms : ChangeTerms where
  target := (PlanSpecifier.forPlan "pistol-trial").withPhase .evergreen
  overrides := []
  requested := none
  policy := none
  accountDay := none

end Shop

theorem change_date_matching_skipTrial :
    let s := (Service.new Shop.trials 255 true).after Shop.onTrial
    DistinctIds Shop.onTrial ∧ ∃ r ∈ s.store.records,
      (Subscription.rebuild r [] Shop.nextDay.now).state ≠ .cancelled ∧
        (s.simulate Shop.nextDay r.bundleId (Shop.skipTerms.arguments r.id)).1 ≠
          .error .billingAlignmentUnavailable ∧
        Matching (fun preview date => ∃ b sim,
            s.Shows Shop.trials Shop.nextDay (Shop.skipTerms.arguments r.id) b sim preview ∧
              sim.ChangesOn date)
          (s.simulate Shop.nextDay r.bundleId (Shop.skipTerms.arguments r.id)).1
          (s.changeDate Shop.nextDay r.id Shop.skipTerms).1 := by
  have distinct : DistinctIds Shop.onTrial := by decide +kernel
  have held : let s := (Service.new Shop.trials 255 true).after Shop.onTrial
      ∃ r ∈ s.store.records, (Subscription.rebuild r [] Shop.nextDay.now).state ≠ .cancelled ∧
        (s.simulate Shop.nextDay r.bundleId (Shop.skipTerms.arguments r.id)).1 ≠
          .error .billingAlignmentUnavailable := by
    decide +kernel
  obtain ⟨r, hr, running, aligned⟩ := held
  exact ⟨distinct, r, hr, running, aligned,
    Service.change_date_matching Shop.trials 255 true distinct hr running aligned⟩

end SubscriptionBundles
