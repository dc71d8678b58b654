import SubscriptionBundles.Proofs.AnsweredCancellations
import SubscriptionBundles.Proofs.ChangeDates

/-!
# Lookups that succeed

A stored subscription names a plan that a caller once described.  The catalog finds it under that
name, and whatever is worked out from the plan is worked out without an error.

* `Catalog.Describes.phases_ne_nil`  a plan that can be described has phases;
* `Plan.CarriedOutFrom`              from a phase of the plan, records and changes can be laid out;
* `Catalog.carriedOut_of_resolved`   so it is from the phase that a specifier names;
* `SubscriptionRecord.Found`         the plan of a subscription is found by its name;
* `Service.plan_lookups_succeed`     what holds after every run.
-/

namespace SubscriptionBundles

open Service (Turn)

/-! ## described plans -/

section
variable {c : Catalog} {plan : Plan}

theorem Catalog.Describes.phases_ne_nil (h : c.Describes plan) : plan.phases ≠ [] := by
  obtain ⟨specifier, _, resolved⟩ := h
  obtain ⟨_, k, index⟩ := resolvePlan_of_ok resolved
  exact List.ne_nil_of_length_pos (Nat.zero_lt_of_lt (Plan.lt_of_phaseIndex? index))

/-- new subscriptions and changes to the plan that start it from a phase are laid out on all dates -/
structure Plan.CarriedOutFrom (plan : Plan) (c : Catalog) (phase : Option PhaseType) : Prop where
  new : ∀ n : NewSubscription, n.plan = plan → n.initialPhase = phase → ∃ r, n.record c = .ok r
  change : ∀ (s : Subscription) (effective processed : Instant),
    ∃ events, s.changePlanEvents c plan phase effective processed = .ok events

theorem Catalog.carriedOut_of_resolved {specifier : PlanSpecifier} {overrides : List PriceOverride}
    (resolved : c.resolvePlan specifier overrides = .ok plan) :
    plan.CarriedOutFrom c specifier.phaseType := by
  obtain ⟨_, k, index⟩ := resolvePlan_of_ok resolved
  refine ⟨?_, ?_⟩
  · rintro n rfl phase
    have phased := n.record_in_phase c
    rw [phase, index] at phased
    obtain ⟨r, made, _⟩ := phased
    exact ⟨r, made⟩
  · intro s effective processed
    obtain ⟨e, later, made, _⟩ := changePlanEvents_of_resolved resolved s effective processed
    exact ⟨e :: later, made⟩

/-! ## stored subscriptions -/

/-- at every instant it names the plan, which the catalog finds under that name -/
structure SubscriptionRecord.Found (r : SubscriptionRecord) (c : Catalog) (plan : Plan) : Prop where
  filed : plan ∈ c.plans
  phased : plan.phases ≠ []
  named : ∀ now, (Subscription.rebuild r [] now).planName? = some plan.name
  found : c.findPlan plan.name = .ok plan

theorem Store.OnDescribed.found {s : Store} (on : s.OnDescribed c) :
    ∀ r ∈ s.records, ∃ plan, r.Found c plan := by
  intro r hr
  obtain ⟨plan, described, on⟩ := on r hr
  exact ⟨plan, described.mem_plans, described.phases_ne_nil, on.2.planName?_eq,
    Catalog.findPlan_name_of_mem described.mem_plans⟩

end

/-! ## every run -/

namespace Service
variable (c : Catalog) (max : Nat) (cached : Bool) {turns : List Turn}

/-- The plan of a stored subscription is found, so a cancellation that reckons with no term is
answered, and from the phase that a specifier names its plan is carried out. -/
theorem plan_lookups_succeed (distinct : DistinctIds turns) :
    let s := (new c max cached).after turns
    (∀ r ∈ s.store.records, ∃ plan, r.Found c plan) ∧
      (∀ ctx ids terms, (∀ id ∈ ids, id ∈ s.store.recordIds) →
        terms.policy = .immediate ∨ terms.policy = .endOfTerm →
        ∃ shown, (s.cancel ctx ids terms).1 = .ok shown) ∧
      ∀ specifier overrides plan, c.resolvePlan specifier overrides = .ok plan →
        plan.CarriedOutFrom c specifier.phaseType := by
  intro s
  obtain ⟨serves, sound, _⟩ := run_sound c max cached distinct
  have described := run_onDescribed c max cached distinct
  refine ⟨described.found, ?_, fun _ _ _ => Catalog.carriedOut_of_resolved⟩
  intro ctx ids terms stored plain
  refine (cancel_answered_iff serves sound stored).2 ?_
  intro r hr _ _
  exact ownEnd_of_plain described.onPlans hr ctx plain

end Service

/-! ## a pistol with its laser -/

theorem plan_lookups_succeed_paidPair :
    let s := (Service.new Shop.catalog 255 true).after Shop.paidPair
    let asked := (PlanSpecifier.forPlan "LASER-monthly").withPhase .evergreen
    DistinctIds Shop.paidPair ∧
      (∀ r ∈ s.store.records, ∃ plan, r.Found Shop.catalog plan) ∧
      (∃ shown, (s.cancel (.ofNow Shop.owner (Shop.midnight 20004)) Shop.pairListed
        ⟨.endOfTerm, none⟩).1 = .ok shown) ∧
      Shop.catalog.resolvePlan asked [] = .ok Shop.laser ∧
      Shop.laser.CarriedOutFrom Shop.catalog asked.phaseType := by
  have distinct : DistinctIds Shop.paidPair := by decide
  have stored : let s := (Service.new Shop.catalog 255 true).after Shop.paidPair
      ∀ id ∈ Shop.pairListed, id ∈ s.store.recordIds := by decide +kernel
  have resolved : let asked := (PlanSpecifier.forPlan "LASER-monthly").withPhase .evergreen
      Shop.catalog.resolvePlan asked [] = .ok Shop.laser := by decide +kernel
  obtain ⟨found, cancelled, carried⟩ :=
    Service.plan_lookups_succeed Shop.catalog 255 true distinct
  exact ⟨distinct, found, cancelled _ _ _ stored (.inr rfl), resolved, carried _ _ _ resolved⟩

end SubscriptionBundles
