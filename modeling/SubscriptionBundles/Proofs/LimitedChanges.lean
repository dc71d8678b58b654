import SubscriptionBundles.Proofs.AddOnCap
import SubscriptionBundles.Proofs.AnchoredAddOns
import SubscriptionBundles.Proofs.ChangeDates

/-!
# Changes and the add-on cap

A change is checked as if its plan were added to the bundle, by its dry run and by the question for
its date alike.  The subscription that is to change keeps its place in the count until then, so it is
counted twice if the plan is the one that it is on.

* `countP_eq_others`                an entry of its own key, and the others;
* `Store.othersOn`                  the other add-ons of a bundle on a plan;
* `Store.addOnsHeld_eq`             what is held, the subscription itself apart;
* `changeEffectiveDate_not_limited` nothing but the limit refuses for the limit;
* `Service.changeDate_answer`       the checks of the question for the date;
* `Service.change_limited_iff`      when a change is refused for the limit.
-/

namespace SubscriptionBundles

open Service (Turn)

/-! ## counting the others -/

theorem countP_eq_others {α β : Type} [DecidableEq β] {key : α → β} {l : List α} {a : α}
    (distinct : (l.map key).Nodup) (mem : a ∈ l) (p : α → Bool) :
    l.countP p = (l.countP fun x => key x != key a && p x) + if p a = true then 1 else 0 := by
  induction l with
  | nil => cases mem
  | cons x l ih =>
    rw [List.map_cons, List.nodup_cons] at distinct
    obtain ⟨apart, distinct⟩ := distinct
    rw [List.countP_cons, List.countP_cons]
    rcases List.mem_cons.1 mem with rfl | later
    · have rest : (l.countP fun x => key x != key a && p x) = l.countP p := by
        refine List.countP_congr fun x hx => ?_
        have other : key x ≠ key a := fun same => apart (same ▸ List.mem_map_of_mem hx)
        simp [other]
      rw [rest]
      simp
    · have other : key x ≠ key a := fun same => apart (same ▸ List.mem_map_of_mem later)
      rw [ih distinct later]
      simp only [bne_iff_ne.2 other, Bool.true_and]
      omega

namespace Store
variable {s : Store} {c : Catalog} {r : SubscriptionRecord} {plan : Plan}

/-- the add-ons of a bundle that are on a plan and not cancelled, but for one -/
def othersOn (s : Store) (now : Instant) (plan : String) (r : SubscriptionRecord) : Nat :=
  (s.recordsForBundle r.bundleId).countP fun q => q.id != r.id &&
    (q.category == .addOn && (Subscription.rebuild q [] now).state != .cancelled &&
      (Subscription.rebuild q [] now).planName? == some plan)

/-- plans of the catalog that differ in the case of letters alone are one -/
theorem sameAscii_planName (on : s.OnPlans c) (known : plan ∈ c.plans) (hr : r ∈ s.records)
    (now : Instant) :
    (Subscription.rebuild r [] now).planName?.any (Text.sameAscii · plan.name) =
      ((Subscription.rebuild r [] now).planName? == some plan.name) := by
  obtain ⟨own, held, here⟩ := on r hr
  rw [here.2.planName?_eq, Option.any_some, Bool.eq_iff_iff, beq_iff_eq, Option.some_inj]
  constructor
  · intro same
    rw [Catalog.eq_of_sameAscii held known same]
  · intro same
    rw [same]
    exact Text.sameAscii_refl _

theorem addOnsHeld_eq (sound : s.Sound) (on : s.OnPlans c) (known : plan ∈ c.plans)
    (hr : r ∈ s.records) {now : Instant} (addOn : r.category = .addOn)
    (live : (Subscription.rebuild r [] now).state ≠ .cancelled) :
    addOnsHeld plan.name ((s.recordsForBundle r.bundleId).map (.rebuild · [] now)) =
      s.othersOn now plan.name r +
        if (Subscription.rebuild r [] now).planName? = some plan.name then 1 else 0 := by
  have within : r ∈ s.recordsForBundle r.bundleId := mem_recordsForBundle hr rfl
  have distinct : ((s.recordsForBundle r.bundleId).map (·.id)).Nodup :=
    sound.records.sublist (List.filter_sublist.map _)
  have alike : addOnsHeld plan.name ((s.recordsForBundle r.bundleId).map (.rebuild · [] now)) =
      (s.recordsForBundle r.bundleId).countP fun q =>
        q.category == .addOn && (Subscription.rebuild q [] now).state != .cancelled &&
          (Subscription.rebuild q [] now).planName? == some plan.name := by
    unfold addOnsHeld
    rw [List.countP_map]
    refine List.countP_congr fun q hq => ?_
    rw [Function.comp_apply, sameAscii_planName on known (List.mem_filter.1 hq).1]
    rfl
  rw [alike, countP_eq_others distinct within]
  unfold othersOn
  congr 2
  simp [addOn, live]

end Store

/-! ## who refuses for the limit -/

section
variable (ctx : Context) (c : Catalog) (s : Subscription) (name : String)

theorem currentPlan_not_limited : currentPlan c s ≠ .error (.addOnLimitExceeded name) := by
  unfold currentPlan
  cases s.planName? with
  | none => nofun
  | some held =>
    show (liftM (c.findPlan held) : Except SubscriptionError Plan) ≠ _
    cases c.findPlan held <;> nofun

theorem billingAnchor_not_limited (base : Option Subscription) (accountDay : Option UInt32) :
    billingAnchor ctx c s base accountDay ≠ .error (.addOnLimitExceeded name) :=
  map_eq_error_iff.not.2 (currentPlan_not_limited c s name)

theorem changePolicy_not_limited (policy : Option BillingPolicy) :
    changePolicy c s policy ≠ .error (.addOnLimitExceeded name) := by
  cases policy with
  | some p => nofun
  | none => exact map_eq_error_iff.not.2 (currentPlan_not_limited c s name)

theorem effectiveDate_not_limited (policy : BillingPolicy) (anchor : BillingAnchor) :
    effectiveDate ctx s policy anchor ≠ .error (.addOnLimitExceeded name) := by
  cases policy with
  | immediate | endOfTerm | illegal => nofun
  | startOfTerm =>
    obtain ⟨alignment, day⟩ := anchor
    cases alignment with
    | none => nofun
    | some _ =>
      cases day with
      | none => nofun
      | some day =>
        unfold effectiveDate
        dsimp only
        split <;> nofun

theorem changeEffectiveDate_not_limited (requested : Option Date) (policy : Option BillingPolicy)
    (anchor : BillingAnchor) :
    changeEffectiveDate ctx c s requested policy anchor ≠ .error (.addOnLimitExceeded name) := by
  cases requested with
  | some d => nofun
  | none =>
    show (changePolicy c s policy >>= _) ≠ _
    rw [ne_eq, bind_eq_error_iff fun p => effectiveDate_not_limited ctx s name p anchor]
    exact changePolicy_not_limited c s name policy

end

theorem checkAddOnLimit_eq_error_iff {plan : Plan} {limit : UInt32}
    (addOn : plan.category = .addOn) (limited : plan.plansAllowedInBundle = .atMost limit)
    {existing : List Subscription} {name : String} :
    checkAddOnLimit plan existing [plan] = .error (.addOnLimitExceeded name) ↔
      name = plan.name ∧ limit.toNat < addOnsHeld plan.name existing + 1 := by
  have itself : addOnsJoining plan.name [plan] = 1 := by
    unfold addOnsJoining
    simp [addOn, Text.sameAscii_refl]
  unfold checkAddOnLimit
  rw [addOn, limited]
  simp only [itself]
  split
  · next beyond =>
    rw [and_iff_left beyond, Except.error.injEq, SubscriptionError.addOnLimitExceeded.injEq]
    exact eq_comm
  · next within => exact iff_of_false nofun fun given => within given.2

/-! ## the two calls -/

/-- a simulated change is refused for the limit by the check of the limit alone -/
theorem simulate_change_limited_iff {ctx : Context} {c : Catalog} {snapshot : Snapshot}
    {terms : ChangeTerms} {id : Uuid} {found : Subscription} {plan : Plan}
    (resolved : c.resolvePlan terms.target terms.overrides = .ok plan) (name : String)
    (required : requiredSubscription snapshot (terms.arguments id) = .ok found) :
    simulate ctx c snapshot (terms.arguments id) = .error (.addOnLimitExceeded name) ↔
      checkAddOnLimit plan snapshot.subscriptions [plan] = .error (.addOnLimitExceeded name) := by
  rw [simulate_change_opened required, resolved]
  show (checkAddOnLimit plan snapshot.subscriptions [plan] >>= _) = _ ↔ _
  refine bind_eq_error_iff fun _ => ?_
  rw [ne_eq, bind_eq_error_iff]
  · exact changeEffectiveDate_not_limited ctx c found name _ _ _
  · intro effective
    obtain ⟨e, later, made, _⟩ := changePlanEvents_of_resolved resolved found effective ctx.now
    rw [made]
    nofun

namespace Service
variable {s : Service} {c : Catalog} {max : Nat} {ctx : Context} {r : SubscriptionRecord}
  {terms : ChangeTerms}

/-- the checks of the question for the date, one after another -/
theorem changeDate_answer (serves : s.Serves c max) (sound : s.store.Sound)
    (stored : r ∈ s.store.records) :
    let around := Snapshot.take r.bundleId none (s.store.recordsForBundle r.bundleId) ctx.now
    (s.changeDate ctx r.id terms).1 = (do
      let plan ← c.resolvePlan terms.target terms.overrides
      checkAddOnLimit plan around.subscriptions [plan]
      let anchor ← billingAnchor ctx c (.rebuild r [] ctx.now) around.base? terms.accountDay
      changeEffectiveDate ctx c (.rebuild r [] ctx.now) terms.requested terms.policy anchor) := by
  intro around
  unfold changeDate
  rw [snapshotAround_stored serves.inOrder sound stored, serves.catalog_eq]
  show (around.require r.id >>= _) = _
  rw [Snapshot.require_stored sound stored]
  rfl

theorem changeDate_limited_iff (serves : s.Serves c max) (sound : s.store.Sound)
    (stored : r ∈ s.store.records) {plan : Plan}
    (resolved : c.resolvePlan terms.target terms.overrides = .ok plan) (name : String) :
    (s.changeDate ctx r.id terms).1 = .error (.addOnLimitExceeded name) ↔
      checkAddOnLimit plan ((s.store.recordsForBundle r.bundleId).map (.rebuild · [] ctx.now))
        [plan] = .error (.addOnLimitExceeded name) := by
  rw [changeDate_answer serves sound stored, resolved, Snapshot.subscriptions_take]
  show (checkAddOnLimit plan _ [plan] >>= _) = _ ↔ _
  refine bind_eq_error_iff fun _ => ?_
  rw [ne_eq, bind_eq_error_iff]
  · exact billingAnchor_not_limited ctx c _ name _ _
  · intro anchor
    exact changeEffectiveDate_not_limited ctx c _ name _ _ anchor

theorem previewed_change_limited_iff (serves : s.Serves c max) (sound : s.store.Sound)
    (stored : r ∈ s.store.records) (live : (Subscription.rebuild r [] ctx.now).state ≠ .cancelled)
    {plan : Plan} (resolved : c.resolvePlan terms.target terms.overrides = .ok plan)
    (name : String) :
    (s.simulate ctx r.bundleId (terms.arguments r.id)).1 = .error (.addOnLimitExceeded name) ↔
      checkAddOnLimit plan ((s.store.recordsForBundle r.bundleId).map (.rebuild · [] ctx.now))
        [plan] = .error (.addOnLimitExceeded name) := by
  obtain ⟨b, held, home⟩ := List.mem_map.1 (sound.homes r stored)
  have within := Store.mem_recordsForBundle stored home.symm
  have required : requiredSubscription (s.store.snapshotOf b ctx.now) (terms.arguments r.id) =
      .ok (.rebuild r [] ctx.now) := requiredSubscription_stored sound within rfl live
  rw [← home, simulate_answer serves sound held, map_eq_error_iff,
    simulate_change_limited_iff resolved name required]
  unfold Store.snapshotOf
  rw [Snapshot.subscriptions_take]

variable (c max) (cached : Bool) {turns : List Turn}

/-- A change of an add-on that is not cancelled is refused for the limit exactly if the limit is below
what is counted: the others on the plan, the one that comes, and the subscription itself if it is on
the plan now. -/
theorem change_limited_iff (distinct : DistinctIds turns)
    (stored : r ∈ ((new c max cached).after turns).store.records) (addOn : r.category = .addOn)
    (live : (Subscription.rebuild r [] ctx.now).state ≠ .cancelled) {plan : Plan}
    (resolved : c.resolvePlan terms.target terms.overrides = .ok plan)
    (kind : plan.category = .addOn) {limit : UInt32}
    (limited : plan.plansAllowedInBundle = .atMost limit) (name : String) :
    let s := (new c max cached).after turns
    let passed := name = plan.name ∧ limit.toNat < s.store.othersOn ctx.now plan.name r + 1 +
      if (Subscription.rebuild r [] ctx.now).planName? = some plan.name then 1 else 0
    ((s.simulate ctx r.bundleId (terms.arguments r.id)).1 = .error (.addOnLimitExceeded name) ↔
      passed) ∧
    ((s.changeDate ctx r.id terms).1 = .error (.addOnLimitExceeded name) ↔ passed) := by
  obtain ⟨serves, sound, _⟩ := run_sound c max cached distinct
  have on := run_onPlans c max cached distinct
  generalize (new c max cached).after turns = s at *
  intro s passed
  have known := Catalog.mem_of_resolvePlan resolved
  have held := Store.addOnsHeld_eq sound on known stored addOn live
  have refused : checkAddOnLimit plan
      ((s.store.recordsForBundle r.bundleId).map (.rebuild · [] ctx.now)) [plan] =
        .error (.addOnLimitExceeded name) ↔ passed := by
    rw [checkAddOnLimit_eq_error_iff kind limited, held, Nat.add_right_comm]
  exact ⟨(previewed_change_limited_iff serves sound stored live resolved name).trans refused,
    (changeDate_limited_iff serves sound stored resolved name).trans refused⟩

end Service

/-! ## a laser that stays a laser -/

namespace Shop

/-- to the plan that the laser is on -/
def sameLaser : ChangeTerms where
  target := .forPlan "laser-monthly"
  overrides := []
  requested := none
  policy := none
  accountDay := none

end Shop

theorem change_limited_iff_laser :
    let turns := [Shop.turn 1 (.create [Shop.pair] false)]
    let s := (Service.new Shop.catalog 255 true).after turns
    let ctx := Context.ofNow Shop.owner (Shop.midnight 20002)
    DistinctIds turns ∧
      Shop.catalog.resolvePlan Shop.sameLaser.target Shop.sameLaser.overrides = .ok Shop.laser ∧
      ∃ r ∈ s.store.records, r.category = .addOn ∧
        (Subscription.rebuild r [] ctx.now).state ≠ .cancelled ∧
        ∀ name, let passed := name = "laser-monthly" ∧
            1 < s.store.othersOn ctx.now "laser-monthly" r + 1 +
              if (Subscription.rebuild r [] ctx.now).planName? = some "laser-monthly" then 1 else 0
          ((s.simulate ctx r.bundleId (Shop.sameLaser.arguments r.id)).1 =
            .error (.addOnLimitExceeded name) ↔ passed) ∧
          ((s.changeDate ctx r.id Shop.sameLaser).1 = .error (.addOnLimitExceeded name) ↔
            passed) := by
  intro turns s ctx
  have distinct : DistinctIds turns := by decide +kernel
  have resolved : Shop.catalog.resolvePlan Shop.sameLaser.target Shop.sameLaser.overrides =
      .ok Shop.laser := by decide +kernel
  have held : ∃ r ∈ s.store.records, r.category = .addOn ∧
      (Subscription.rebuild r [] ctx.now).state ≠ .cancelled := by decide +kernel
  obtain ⟨r, stored, addOn, live⟩ := held
  exact ⟨distinct, resolved, r, stored, addOn, live, fun name =>
    Service.change_limited_iff Shop.catalog 255 true distinct stored addOn live resolved rfl rfl
      name⟩

/-- no other laser is in the bundle, yet the only one may not be changed to its own plan -/
theorem sole_laser_refused :
    let turns := [Shop.turn 1 (.create [Shop.pair] false)]
    let s := (Service.new Shop.catalog 255 true).after turns
    let ctx := Context.ofNow Shop.owner (Shop.midnight 20002)
    DistinctIds turns ∧ Shop.laser.plansAllowedInBundle = .atMost 1 ∧
      Shop.catalog.resolvePlan Shop.sameLaser.target Shop.sameLaser.overrides = .ok Shop.laser ∧
      ∃ r ∈ s.store.records, r.category = .addOn ∧
        (Subscription.rebuild r [] ctx.now).state ≠ .cancelled ∧
        ¬1 < s.store.othersOn ctx.now Shop.laser.name r + 1 ∧
        (s.simulate ctx r.bundleId (Shop.sameLaser.arguments r.id)).1 =
          .error (.addOnLimitExceeded Shop.laser.name) ∧
        (s.changeDate ctx r.id Shop.sameLaser).1 =
          .error (.addOnLimitExceeded Shop.laser.name) := by
  decide +kernel

end SubscriptionBundles
