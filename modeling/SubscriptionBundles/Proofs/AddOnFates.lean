import SubscriptionBundles.Proofs.AnchoredAddOns
import SubscriptionBundles.Proofs.ListedBases
import SubscriptionBundles.Service.DryRuns

/-!
# The fates of add-ons

What would become of a bundle's add-ons is told by the rule that lets an add-on into a bundle.  It is
told of every subscription beside the base that is not cancelled, so of a base that replaced the one
in question, too.

* `changeReason_agrees`       a fate is what the check of the product says;
* `AddOnStatus.Tells`         what is told of a subscription;
* `addOnStatuses_tells`       of whom it is told, one after another;
* `isLiveAddOn_of_ids_eq`     the live add-ons are told by their names;
* `changePlanStatus_tells`    who is told of, and when these are the live add-ons.
-/

namespace SubscriptionBundles

/-! ## one add-on -/

/-- a fate agrees with the check that lets an add-on in on a product -/
structure ChangeReason.Agrees (reason : ChangeReason) (c : Catalog) (product : String)
    (addOn : Plan) : Prop where
  available : reason = .addOnAvailable ↔ checkAddOnForProduct c product addOn = .ok ()
  included : reason = .addOnIncluded ↔
    checkAddOnForProduct c product addOn = .error (.addOnAlreadyIncluded addOn.name product)
  notAvailable : reason = .addOnNotAvailable ↔
    checkAddOnForProduct c product addOn = .error (.addOnNotAvailable addOn.name product)

theorem changeReason_agrees (c : Catalog) (product : String) (addOn : Plan) :
    (changeReason c (some product) addOn).Agrees c product addOn := by
  unfold changeReason
  cases included : c.includes product addOn with
  | true => constructor <;> simp [checkAddOnForProduct, included]
  | false =>
    cases offered : c.offers product addOn with
    | true => constructor <;> simp [checkAddOnForProduct, included, offered]
    | false => constructor <;> simp [checkAddOnForProduct, included, offered]

/-- a status names a subscription and the plan that it is on, and tells its fate on a product -/
structure AddOnStatus.Tells (status : AddOnStatus) (c : Catalog) (product : Option String)
    (s : Subscription) : Prop where
  subscription : status.subscriptionId = s.id
  fate : ∃ plan, currentPlan c s = .ok plan ∧ status.productName = plan.product.name ∧
    status.planName = plan.name ∧ match product with
      | some name => status.reason.Agrees c name plan
      | none => status.reason = .addOnNotAvailable

theorem AddOnStatus.tells_of_plan {c : Catalog} {product : Option String} {s : Subscription}
    {plan : Plan} (on : currentPlan c s = .ok plan) :
    Tells ⟨s.id, plan.product.name, plan.name, changeReason c product plan⟩ c product s := by
  refine ⟨rfl, plan, on, rfl, rfl, ?_⟩
  cases product with
  | none => rfl
  | some name => exact changeReason_agrees c name plan

/-! ## all of a bundle -/

/-- who is told of: the subscriptions beside the base that are not cancelled -/
def Subscription.isBeside (base s : Subscription) : Bool := s.id != base.id && s.state != .cancelled

def Subscription.isLiveAddOn (s : Subscription) : Bool :=
  s.category == .addOn && s.state != .cancelled

section
variable {c : Catalog} {base : Subscription} {product : Option String}
  {subscriptions : List Subscription} {statuses : List AddOnStatus}

theorem addOnStatuses_tells (h : addOnStatuses c base product subscriptions = .ok statuses) :
    List.Forall₂ (fun s status => AddOnStatus.Tells status c product s)
      (subscriptions.filter base.isBeside) statuses := by
  induction subscriptions generalizing statuses with
  | nil =>
    cases h
    exact .nil
  | cons s rest ih =>
    unfold addOnStatuses at h
    split at h
    · next skipped =>
      have apart : ¬base.isBeside s = true := by
        unfold Subscription.isBeside
        rw [Bool.and_eq_true, bne_iff_ne, bne_iff_ne, ← not_or, not_not]
        exact skipped
      rw [List.filter_cons_of_neg apart]
      exact ih h
    · next beside =>
      have told : base.isBeside s = true := by
        unfold Subscription.isBeside
        rw [Bool.and_eq_true, bne_iff_ne, bne_iff_ne, ← not_or]
        exact beside
      obtain ⟨plan, on, h⟩ := bind_eq_ok.1 h
      obtain ⟨later, tail, h⟩ := bind_eq_ok.1 h
      cases h
      rw [List.filter_cons_of_pos told]
      exact .cons (AddOnStatus.tells_of_plan on) (ih tail)

theorem AddOnStatus.ids_of_tells {told : List Subscription}
    (h : List.Forall₂ (fun s status => AddOnStatus.Tells status c product s) told statuses) :
    told.map (·.id) = statuses.map (·.subscriptionId) := by
  induction h with
  | nil => rfl
  | cons first _ ih => rw [List.map_cons, List.map_cons, ih, first.subscription]

/-- if the live add-ons have the names of those beside the base, they are those -/
theorem isLiveAddOn_of_ids_eq (same : (subscriptions.filter (·.isLiveAddOn)).map (·.id) =
      (subscriptions.filter base.isBeside).map (·.id)) :
    ∀ s ∈ subscriptions, s.isLiveAddOn = base.isBeside s := by
  have apart : ∀ s ∈ subscriptions, s.isLiveAddOn = true → base.isBeside s = true := by
    intro s hs addOn
    have named : s.id ∈ (subscriptions.filter base.isBeside).map (·.id) := by
      rw [← same]
      exact List.mem_map_of_mem (List.mem_filter.2 ⟨hs, addOn⟩)
    obtain ⟨other, ho, eq⟩ := List.mem_map.1 named
    have beside := (Bool.and_eq_true_iff.1 (List.mem_filter.1 ho).2).1
    rw [eq] at beside
    exact Bool.and_eq_true_iff.2 ⟨beside, (Bool.and_eq_true_iff.1 addOn).2⟩
  have twice : (subscriptions.filter base.isBeside).filter (·.isLiveAddOn) =
      subscriptions.filter (·.isLiveAddOn) := by
    rw [List.filter_filter]
    refine List.filter_congr fun s hs => ?_
    cases addOn : s.isLiveAddOn with
    | false => rfl
    | true => rw [apart s hs addOn]; rfl
  -- a part of a list that is as long as the list is all of it
  have whole : (subscriptions.filter base.isBeside).filter (·.isLiveAddOn) =
      subscriptions.filter base.isBeside := by
    refine List.filter_sublist.eq_of_length ?_
    have long := congrArg List.length same
    rwa [List.length_map, List.length_map, ← twice] at long
  intro s hs
  rw [Bool.eq_iff_iff]
  refine ⟨apart s hs, fun beside => ?_⟩
  exact List.filter_eq_self.1 whole s (List.mem_filter.2 ⟨hs, beside⟩)

theorem isLiveAddOn_eq_iff {s : Subscription} : s.isLiveAddOn = base.isBeside s ↔
    (s.state ≠ .cancelled → (s.category = .addOn ↔ s.id ≠ base.id)) := by
  unfold Subscription.isLiveAddOn Subscription.isBeside
  rw [Bool.eq_iff_iff, Bool.and_eq_true, Bool.and_eq_true, beq_iff_eq, bne_iff_ne, bne_iff_ne]
  exact and_congr_left_iff

/-- The fates are those of the subscriptions beside the base that are not cancelled, as the check of
the product has it.  They are those of the live add-ons exactly if no other base or standalone of the
list is live. -/
theorem changePlanStatus_tells
    (h : changePlanStatus c base subscriptions product = .ok statuses) :
    let tells := fun s status => AddOnStatus.Tells status c product s
    List.Forall₂ tells (subscriptions.filter base.isBeside) statuses ∧
      (List.Forall₂ tells (subscriptions.filter (·.isLiveAddOn)) statuses ↔
        ∀ s ∈ subscriptions, s.state ≠ .cancelled → (s.category = .addOn ↔ s.id ≠ base.id)) := by
  intro tells
  have listed : addOnStatuses c base product subscriptions = .ok statuses := by
    unfold changePlanStatus at h
    split at h
    · exact h
    · cases h
  have told := addOnStatuses_tells listed
  refine ⟨told, ?_⟩
  constructor
  · intro addOns s hs
    have same := (AddOnStatus.ids_of_tells addOns).trans (AddOnStatus.ids_of_tells told).symm
    exact isLiveAddOn_eq_iff.1 (isLiveAddOn_of_ids_eq same s hs)
  · intro given
    have same : subscriptions.filter (·.isLiveAddOn) = subscriptions.filter base.isBeside :=
      List.filter_congr fun s hs => isLiveAddOn_eq_iff.2 (given s hs)
    rw [same]
    exact told

end

/-! ## a laser, and a pistol that replaced another -/

theorem changePlanStatus_tells_pair :
    let s := (Service.new Shop.catalog 255 true).after [Shop.turn 1 (.create [Shop.pair] false)]
    let subscriptions := s.store.records.map (Subscription.rebuild · [] (Shop.midnight 20002))
    let tells := fun s status => AddOnStatus.Tells status Shop.catalog (some "Pistol") s
    ∃ base ∈ subscriptions, ∃ status,
      changePlanStatus Shop.catalog base subscriptions (some "Pistol") = .ok [status] ∧
        List.Forall₂ tells (subscriptions.filter base.isBeside) [status] ∧
        (List.Forall₂ tells (subscriptions.filter (·.isLiveAddOn)) [status] ↔
          ∀ s ∈ subscriptions, s.state ≠ .cancelled → (s.category = .addOn ↔ s.id ≠ base.id)) := by
  intro s subscriptions tells
  have held : ∃ base ∈ subscriptions,
      changePlanStatus Shop.catalog base subscriptions (some "Pistol") =
        .ok [⟨.ofNat 1002, "Laser", "laser-monthly", .addOnAvailable⟩] := by decide +kernel
  obtain ⟨base, stored, listed⟩ := held
  exact ⟨base, stored, _, listed, changePlanStatus_tells listed⟩

/-- a pistol is told the fate of the pistol that replaced it, where there is no add-on -/
theorem replacing_pistol_told :
    let s := (Service.new Shop.catalog 255 true).after Shop.replaced
    let ctx := Context.ofNow Shop.owner (Shop.midnight 20004)
    let subscriptions := s.store.records.map (Subscription.rebuild · [] ctx.now)
    (∀ s ∈ subscriptions, s.category ≠ .addOn) ∧
      (∃ base ∈ subscriptions,
        changePlanStatus Shop.catalog base subscriptions (some "Pistol") =
          .ok [⟨.ofNat 3000, "Pistol", "pistol-monthly", .addOnNotAvailable⟩]) ∧
      (s.changeStatus ctx (.ofNat 1001) (some "Pistol")).1 =
        .ok [⟨.ofNat 3000, "Pistol", "pistol-monthly", .addOnNotAvailable⟩] := by
  decide +kernel

end SubscriptionBundles
