import SubscriptionBundles.Proofs.StoredPreviews

/-!
# Previews of a stop

A dry run of a stop shows what the cancellation would leave.  Under any policy but the start of a
term both give a subscription that nothing ends the same cancellation, or refuse it for one reason.
The cancellation of a base reaches add-ons as well, but none of what they are given is the base's.

* `Subscription.rebuild_withEvents`  events beside a record, and the same events stored in it;
* `DryRunArguments.Stops`            the dry run of a stop under a policy;
* `Sweep.withEvents_cancelAddOns`    the add-ons of a base take no event from it;
* `simulateStop_matching`            the dry run and the sweep, check after check;
* `cancel_matching`                  what the cancellation leaves of one subscription;
* `Service.stop_preview_matching`    a preview of a stop is what the cancellation leaves.
-/

namespace SubscriptionBundles

open Service (Turn)

/-! ## events beside a record -/

theorem Subscription.rebuild_withEvents (r : SubscriptionRecord) (es : List TransitionEvent)
    (now : Instant) : rebuild (r.withEvents es) [] now = rebuild r es now := by
  have own : es.filter (fun e => e.subscriptionId == r.id) =
      es.filter fun e => decide (e.subscriptionId = r.id) :=
    List.filter_congr fun e _ => (Bool.beq_eq_decide_eq _ _)
  unfold rebuild SubscriptionRecord.withEvents
  rw [List.filter_nil, List.append_nil, own]

/-- the dry run of a stop under a policy, no date asked for -/
structure DryRunArguments.Stops (args : DryRunArguments) (id : Uuid) (policy : BillingPolicy) :
    Prop where
  action : args.action = .stopBilling
  target : args.subscriptionId = some id
  undated : args.effectiveDate = none
  policy : args.policy = some policy

/-! ## one check after another -/

section
variable {s : Store} (sound : s.Sound) {r : SubscriptionRecord} (hr : r ∈ s.records)
include sound hr

theorem Sweep.withEvents_cancelAddOns (base : r.category = .base) (w : Sweep) (id : Uuid)
    (baseEnd processed now : Instant) :
    r.withEvents (w.cancelAddOns baseEnd processed
      ((s.recordsForBundle id).map (.rebuild · [] now))).events = r.withEvents w.events := by
  obtain ⟨more, eq, addOns⟩ := @Sweep.cancelAddOns_events baseEnd processed w
    ((s.recordsForBundle id).map (.rebuild · [] now))
  rw [eq, withEvents_append]
  refine withEvents_of_other ?_
  intro e he own
  obtain ⟨_, ht, addOn, name⟩ := addOns e he
  obtain ⟨q, hq, rfl⟩ := List.mem_map.1 ht
  obtain rfl : q = r := sound.record_eq (List.mem_filter.1 hq).1 hr (name.symm.trans own)
  change q.category = .addOn at addOn
  rw [base] at addOn
  cases addOn

end

section
variable {s : Service} {c : Catalog} {max : Nat} (serves : s.Serves c max) (sound : s.store.Sound)
  {r : SubscriptionRecord} (hr : r ∈ s.store.records) {ctx : Context} {terms : CancelTerms}
include serves sound hr

/-- the simulation has the one event that the sweep has for the subscription -/
theorem simulateStop_matching (on : s.store.OnPlans c) (lasting : r.neverEnds = true)
    (plain : terms.policy ≠ .startOfTerm) {args : DryRunArguments}
    (stops : args.Stops r.id terms.policy) {b : Bundle} (home : r.bundleId = b.id) :
    Matching (fun sim w => r.withEvents w.events = r.withEvents sim.events)
      (simulate ctx c (s.store.snapshotOf b ctx.now) args)
      (sweepSubscription s.storage ctx c terms .start r.id) := by
  have within := Store.mem_recordsForBundle hr home
  have running : (Subscription.rebuild r [] ctx.now).state ≠ .cancelled := by
    rw [← bne_iff_ne, r.state_ne_cancelled]
    exact SubscriptionRecord.isLiveAt_of_neverEnds lasting ctx.now
  have simulated : simulate ctx c (s.store.snapshotOf b ctx.now) args =
      effectiveDate ctx (.rebuild r [] ctx.now) terms.policy .unknown >>= fun date =>
        pure ⟨args.action, [(Subscription.rebuild r [] ctx.now).cancelEvent date ctx.now], none⟩ := by
    unfold simulate simulateStop
    rw [stops.action, requiredSubscription_stored sound within stops.target running]
    show (stopEffectiveDate ctx c (.rebuild r [] ctx.now) args >>= _) = _
    unfold stopEffectiveDate stopPolicy
    rw [stops.undated, stops.policy]
    rfl
  let around := Snapshot.take r.bundleId none (s.store.recordsForBundle r.bundleId) ctx.now
  obtain ⟨anchor, anchored⟩ := billingAnchor_stored on hr ctx around.base? terms.accountDay
  have free : Sweep.start.isOpen (.rebuild r [] ctx.now) = true :=
    (Sweep.isOpen_rebuild_iff _ _ _).2 ⟨lasting, List.not_mem_nil⟩
  have swept : sweepSubscription s.storage ctx c terms .start r.id =
      effectiveDate ctx (.rebuild r [] ctx.now) terms.policy .unknown >>= fun date =>
        let w := Sweep.start.cancel (.rebuild r [] ctx.now) date ctx.now
        if r.category == .base then pure (w.cancelAddOns date ctx.now around.subscriptions)
        else pure w := by
    unfold sweepSubscription
    rw [snapshotAround_stored serves.inOrder sound hr]
    show (around.require r.id >>= _) = _
    rw [Snapshot.require_stored sound hr]
    show (if !Sweep.start.isOpen (.rebuild r [] ctx.now) then _ else _) = _
    rw [free]
    show (billingAnchor ctx c (.rebuild r [] ctx.now) around.base? terms.accountDay >>= _) = _
    rw [anchored, effectiveDate_anchor ctx _ plain .unknown anchor]
    rfl
  rw [simulated, swept]
  refine .bind _ fun date _ => ?_
  by_cases base : r.category = .base
  · rw [if_pos (by simpa using base), Snapshot.subscriptions_take]
    exact .answered (Sweep.withEvents_cancelAddOns sound hr base _ _ _ _ _)
  · rw [if_neg (by simpa using base)]
    exact .answered rfl

/-- what a cancellation leaves of the subscription, from what its sweep comes to -/
theorem cancel_matching {α : Type} {events : α → List TransitionEvent}
    {x : Except SubscriptionError α}
    (h : Matching (fun a w => r.withEvents w.events = r.withEvents (events a)) x
      (sweepSubscription s.storage ctx c terms .start r.id)) :
    Matching (fun a answered =>
        (s.cancel ctx [r.id] terms).2.store.record? r.id = some (r.withEvents (events a)) ∧
          answered = [.rebuild (r.withEvents (events a)) [] ctx.now])
      x (s.cancel ctx [r.id] terms).1 := by
  have one : [r.id].foldlM (sweepSubscription s.storage ctx c terms) .start =
      sweepSubscription s.storage ctx c terms .start r.id := by
    rw [List.foldlM_cons]
    exact bind_pure _
  generalize sweepSubscription s.storage ctx c terms .start r.id = swept at h one
  cases h with
  | refused e =>
    have refused : (s.cancel ctx [r.id] terms).1 = .error e := by
      unfold Service.cancel
      rw [serves.catalog_eq]
      show (s.carryOut _ ([r.id].foldlM _ _ >>= _)).1 = _
      rw [one]
      rfl
    rw [refused]
    exact .refused e
  | @answered a w same =>
    obtain ⟨left, serves', answer⟩ := Service.cancel_of_swept serves sound one
    have found : (s.cancel ctx [r.id] terms).2.store.record? r.id =
        some (r.withEvents (events a)) := by
      rw [left, ← same]
      exact (sound.append w.events).record?_eq (List.mem_map_of_mem hr)
    rw [answer]
    unfold Storage.subscriptions
    rw [List.mapM_cons, (requireRecord_eq_ok serves'.inOrder).2 found]
    exact .answered ⟨found, rfl⟩

end

/-! ## every run -/

namespace Service
variable (c : Catalog) (max : Nat) (cached : Bool) {turns : List Turn} {r : SubscriptionRecord}
  {ctx : Context} {terms : CancelTerms} {args : DryRunArguments}

/-- a stop and its dry run are refused for one reason, or the dry run shows the subscription at every
instant as the stop leaves it -/
theorem stop_preview_matching (distinct : DistinctIds turns)
    (stored : r ∈ ((new c max cached).after turns).store.records) (lasting : r.neverEnds = true)
    (plain : terms.policy ≠ .startOfTerm) (stops : args.Stops r.id terms.policy) :
    let s := (new c max cached).after turns
    Matching (fun preview answered => ∃ b sim, s.Shows c ctx args b sim preview ∧
        ∃ left, (s.cancel ctx [r.id] terms).2.store.record? r.id = some left ∧
          answered = [.rebuild left [] ctx.now] ∧
          ∀ t, sim.view? (s.store.snapshotOf b ctx.now) t r.id = some (.rebuild left [] t))
      (s.simulate ctx r.bundleId args).1 (s.cancel ctx [r.id] terms).1 := by
  obtain ⟨serves, sound, _⟩ := run_sound c max cached distinct
  have on := run_onPlans c max cached distinct
  generalize (new c max cached).after turns = s at *
  refine simulate_matching (fun b sim answered => ∃ left, _ ∧ answered = _ ∧ _) serves sound stored ?_
  intro b _ home
  refine (cancel_matching serves sound stored
    (simulateStop_matching serves sound stored on lasting plain stops home)).mono ?_
  intro sim answered held
  obtain ⟨found, rfl⟩ := held
  refine ⟨_, found, rfl, ?_⟩
  intro t
  rw [Simulation.view?_eq sound (Store.mem_recordsForBundle stored home),
    Subscription.rebuild_withEvents]

end Service

/-! ## a pistol that is paid ahead -/

namespace Shop

/-- a pistol with its laser, paid up to a date -/
def paid : List Turn :=
  armed none ++ [lasered, turn 3 (.setChargedThrough (.ofNat 1001) (midnight 20030))]

def stopPistol : DryRunArguments :=
  (DryRunArguments.stopBilling (.ofNat 1001)).withPolicy .endOfTerm

def endOfTerm : CancelTerms := ⟨.endOfTerm, none⟩

/-- a day after the last turn -/
def fourthDay : Context := .ofNow owner (midnight 20004)

end Shop

theorem stop_preview_matching_paid :
    let s := (Service.new Shop.catalog 255 true).after Shop.paid
    DistinctIds Shop.paid ∧ ∃ r ∈ s.store.records, r.neverEnds = true ∧
      Shop.endOfTerm.policy ≠ .startOfTerm ∧ Shop.stopPistol.Stops r.id Shop.endOfTerm.policy ∧
      (s.simulate Shop.fourthDay r.bundleId Shop.stopPistol).1.isOk = true ∧
      Matching (fun preview answered => ∃ b sim,
          s.Shows Shop.catalog Shop.fourthDay Shop.stopPistol b sim preview ∧
          ∃ left, (s.cancel Shop.fourthDay [r.id] Shop.endOfTerm).2.store.record? r.id = some left ∧
            answered = [.rebuild left [] Shop.fourthDay.now] ∧
            ∀ t, sim.view? (s.store.snapshotOf b Shop.fourthDay.now) t r.id =
              some (.rebuild left [] t))
        (s.simulate Shop.fourthDay r.bundleId Shop.stopPistol).1
        (s.cancel Shop.fourthDay [r.id] Shop.endOfTerm).1 := by
  have distinct : DistinctIds Shop.paid := by decide +kernel
  have held : let s := (Service.new Shop.catalog 255 true).after Shop.paid
      ∃ r ∈ s.store.records, r.neverEnds = true ∧ Shop.stopPistol.subscriptionId = some r.id ∧
        (s.simulate Shop.fourthDay r.bundleId Shop.stopPistol).1.isOk = true := by decide +kernel
  obtain ⟨r, hr, lasting, target, shown⟩ := held
  have plain : Shop.endOfTerm.policy ≠ .startOfTerm := by decide
  have stops : Shop.stopPistol.Stops r.id Shop.endOfTerm.policy := ⟨rfl, target, rfl, rfl⟩
  exact ⟨distinct, r, hr, lasting, plain, stops, shown,
    Service.stop_preview_matching Shop.catalog 255 true distinct hr lasting plain stops⟩

end SubscriptionBundles
