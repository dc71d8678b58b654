import SubscriptionBundles.Proofs.ChangePreviews

/-!
# Previews of stored subscriptions

A dry run and the call that it previews make the same decision from different ends.  The dry run
finds the subscription in a bundle that it is told, the call finds the bundle of the subscription;
the dry run knows no billing day, the call looks one up.

* `Matching`                     two results that end alike;
* `effectiveDate_anchor`         only the start of a term asks for the billing day;
* `billingAnchor_stored`         the billing day of a stored subscription is always found;
* `requiredSubscription_stored`  both ends find the same subscription;
* `Service.Shows`                a preview, and the simulation that it shows;
* `Service.simulate_matching`    a dry run ends as its simulation does.
-/

namespace SubscriptionBundles

/-! ## results that end alike -/

/-- both are refused for one reason, or both are answered and the answers are related -/
inductive Matching {ε α β : Type} (related : α → β → Prop) : Except ε α → Except ε β → Prop
  | refused (e : ε) : Matching related (.error e) (.error e)
  | answered {a : α} {b : β} (answers : related a b) : Matching related (.ok a) (.ok b)

namespace Matching
variable {ε α β γ : Type} {related : α → β → Prop}

/-- what both have to go through first decides nothing -/
theorem bind (x : Except ε γ) {f : γ → Except ε α} {g : γ → Except ε β}
    (later : ∀ v, x = .ok v → Matching related (f v) (g v)) :
    Matching related (x >>= f) (x >>= g) := by
  cases x with
  | error e => exact .refused e
  | ok v => exact later v rfl

theorem mono {other : α → β → Prop} {x : Except ε α} {y : Except ε β} (h : Matching related x y)
    (kept : ∀ a b, related a b → other a b) : Matching other x y := by
  cases h with
  | refused e => exact .refused e
  | answered answers => exact .answered (kept _ _ answers)

theorem map {δ : Type} {other : δ → β → Prop} {x : Except ε α} {y : Except ε β}
    (h : Matching related x y) (f : α → δ)
    (kept : ∀ a b, x = .ok a → related a b → other (f a) b) : Matching other (x.map f) y := by
  cases h with
  | refused e => exact .refused e
  | answered answers => exact .answered (kept _ _ rfl answers)

end Matching

/-! ## dates and billing days -/

theorem effectiveDate_anchor (ctx : Context) (s : Subscription) {policy : BillingPolicy}
    (plain : policy ≠ .startOfTerm) (a b : BillingAnchor) :
    effectiveDate ctx s policy a = effectiveDate ctx s policy b := by
  cases policy with
  | startOfTerm => exact absurd rfl plain
  | immediate | endOfTerm | illegal => rfl

theorem SubscriptionRecord.OnPlan.currentPlan_eq {r : SubscriptionRecord} {c : Catalog} {plan : Plan}
    (on : r.OnPlan plan) (known : plan ∈ c.plans) (now : Instant) :
    currentPlan c (.rebuild r [] now) = .ok plan := by
  unfold currentPlan
  rw [on.2.planName?_eq]
  exact liftM_eq_ok.2 (Catalog.findPlan_name_of_mem known)

theorem billingAnchor_eq {s : Store} {c : Catalog} (on : s.OnPlans c) {r : SubscriptionRecord}
    (hr : r ∈ s.records) (ctx : Context) (base : Option Subscription) (accountDay : Option UInt32) :
    billingAnchor ctx c (.rebuild r [] ctx.now) base accountDay = .ok ⟨some c.billingAlignment,
      some (billCycleDayUnder ctx (.rebuild r [] ctx.now) base accountDay c.billingAlignment)⟩ := by
  obtain ⟨plan, known, on⟩ := on r hr
  unfold billingAnchor
  rw [on.currentPlan_eq known]
  rfl

theorem billingAnchor_stored {s : Store} {c : Catalog} (on : s.OnPlans c) {r : SubscriptionRecord}
    (hr : r ∈ s.records) (ctx : Context) (base : Option Subscription) (accountDay : Option UInt32) :
    ∃ anchor, billingAnchor ctx c (.rebuild r [] ctx.now) base accountDay = .ok anchor :=
  ⟨_, billingAnchor_eq on hr ctx base accountDay⟩

/-! ## the subscription -/

section
variable {s : Store} (sound : s.Sound) {r : SubscriptionRecord}
include sound

theorem requiredSubscription_stored {b : Bundle} (within : r ∈ s.recordsForBundle b.id)
    {args : DryRunArguments} (target : args.subscriptionId = some r.id) {now : Instant}
    (running : (Subscription.rebuild r [] now).state ≠ .cancelled) :
    requiredSubscription (s.snapshotOf b now) args = .ok (.rebuild r [] now) := by
  unfold requiredSubscription Store.snapshotOf
  rw [target]
  simp only [Snapshot.find?_take sound within]
  exact if_neg running

end

/-! ## the call -/

namespace Service

/-- a preview of an action on a stored bundle shows what the action comes to -/
structure Shows (s : Service) (c : Catalog) (ctx : Context) (args : DryRunArguments) (b : Bundle)
    (sim : Simulation) (preview : DryRunBundle) : Prop where
  stored : b ∈ s.store.bundles
  simulated : SubscriptionBundles.simulate ctx c (s.store.snapshotOf b ctx.now) args = .ok sim
  shown : preview = sim.toBundle b (s.store.snapshotOf b ctx.now) ctx.now

/-- a dry run ends as its simulation does -/
theorem simulate_matching {β : Type} (related : Bundle → Simulation → β → Prop) {s : Service}
    {c : Catalog} {max : Nat} (h : s.Serves c max) (sound : s.store.Sound) {r : SubscriptionRecord}
    (hr : r ∈ s.store.records) {ctx : Context} {args : DryRunArguments}
    {answer : Except SubscriptionError β}
    (alike : ∀ b ∈ s.store.bundles, r.bundleId = b.id → Matching (related b)
      (SubscriptionBundles.simulate ctx c (s.store.snapshotOf b ctx.now) args) answer) :
    Matching (fun preview answered => ∃ b sim, s.Shows c ctx args b sim preview ∧
      related b sim answered) (s.simulate ctx r.bundleId args).1 answer := by
  obtain ⟨b, stored, home⟩ := List.mem_map.1 (sound.homes r hr)
  rw [← home, simulate_answer h sound stored]
  refine (alike b stored home.symm).map _ ?_
  intro sim answered simulated held
  exact ⟨b, sim, ⟨stored, simulated, rfl⟩, held⟩

end Service

end SubscriptionBundles
