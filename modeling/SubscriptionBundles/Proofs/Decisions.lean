import SubscriptionBundles.Proofs.Outcomes
import SubscriptionBundles.Service.Request

/-!
# Decisions

How every request is handled.  Most are answered from the store alone and some by lookups; the others
decide on effects, and these are all the effects there are.

* `Request.method`           the method that a request is counted under;
* `Service.Decides`          effects that a request may be decided with;
* `Service.Handled`          how a request is handled, case by case;
* `Service.handle_handled`   and every request is.
-/

namespace SubscriptionBundles

namespace Request

def method : Request → Method
  | create _ _ => .createBaseSubscriptionsWithAddOns
  | createBundle _ _ _ => .createBundleForAccount
  | updateExternalKey _ _ => .updateExternalKey
  | activeBundleForKey _ => .getActiveBundleForKey
  | bundlesForKey _ => .getBundlesForKey
  | bundlesForAccount => .getBundlesForAccount
  | bundlesForAccountAndKey _ => .getBundlesForAccountAndKey
  | bundles _ _ => .getBundles
  | searchBundles _ _ _ => .searchBundles
  | nonAddOnIdsForKey _ => .getNonAddOnSubscriptionIdsForKey
  | subscription _ | transitions _ => .getSubscriptionFromId
  | subscriptionsForBundle _ => .getSubscriptionsForBundle
  | subscriptionsForAccount => .getSubscriptionsForAccount
  | baseSubscription _ => .getBaseSubscription
  | bundle _ => .getBundleFromId
  | accountOfBundle _ => .getAccountIdFromBundleId
  | bundleOfSubscription _ => .getBundleIdFromSubscriptionId
  | accountOfSubscription _ => .getAccountIdFromSubscriptionId
  | cancel _ _ => .cancelBaseSubscriptions
  | updateBillCycleDay _ _ _ => .updateBillCycleDay
  | setChargedThrough _ _ => .setChargedThroughDate
  | simulate _ _ => .simulateSubscriptionsForBundle
  | changeDate _ _ => .getDryRunChangePlanEffectiveDate
  | changeStatus _ _ => .getDryRunChangePlanStatus

/-- neither a lookup of an identity nor a simulation -/
def isPlain : Request → Bool
  | simulate _ _ | accountOfBundle _ | bundleOfSubscription _ | accountOfSubscription _ => false
  | _ => true

end Request

namespace Service
variable (s : Service) (ctx : Context) (ids : Nat → Uuid)

/-- effects that a request may be decided with -/
inductive Decides : Request → List Effect → Prop
  | create {specifiers : List BundleSpecifier} {rename : Bool} {c : Catalog}
      {bs : List PlannedBatch}
      (planned : planBatches s ctx c ids rename .start specifiers = .ok bs) :
      Decides (.create specifiers rename) (bs.flatMap (·.effects ctx.now))
  | createBundle {account : Uuid} {key : Option String} {rename : Bool} (p : PlannedBundle) :
      Decides (.createBundle account key rename) (p.effects ctx.now)
  | updateExternalKey (bundle : Uuid) (key : String) :
      Decides (.updateExternalKey bundle key)
        [.write (.updateKey bundle key ctx.now), .count (.operation .updateExternalKey)]
  | cancel {cancelled : List Uuid} {terms : CancelTerms} {c : Catalog} {w : Sweep}
      (swept : cancelled.foldlM (sweepSubscription s.storage ctx c terms) .start = .ok w) :
      Decides (.cancel cancelled terms) w.effects
  | updateBillCycleDay {id : Uuid} {day : UInt32} {start : Option Date} (t : Subscription)
      (date : Instant) :
      Decides (.updateBillCycleDay id day start)
        [.write (.appendEvents [t.billCycleDayEvent day date ctx.now]),
          .count (.operation .updateBillCycleDay)]
  | setChargedThrough (id : Uuid) (date : Instant) :
      Decides (.setChargedThrough id date)
        [.write (.setChargedThrough id date), .count (.operation .setChargedThroughDate)]

/-- how a request is handled -/
inductive Handled : Request → Outcome Answer → Prop
  | read {request : Request} {α : Type} (plain : request.isPlain = true)
      (answer : Except SubscriptionError α) (f : α → Answer) :
      Handled request ((s.ask request.method answer).map f)
  | accountOfBundle (id : Uuid) :
      Handled (.accountOfBundle id) ((s.accountOfBundle id).map .id)
  | bundleOfSubscription (id : Uuid) :
      Handled (.bundleOfSubscription id) ((s.bundleOfSubscription id).map .id)
  | accountOfSubscription (id : Uuid) :
      Handled (.accountOfSubscription id) ((s.accountOfSubscription id).map .id)
  | decided {request : Request} {α : Type} (plain : request.isPlain = true)
      {decision : Except SubscriptionError (Decision α)}
      (decides : ∀ d, decision = .ok d → Decides s ctx ids request d.effects) (f : α → Answer) :
      Handled request ((s.carryOut request.method decision).map f)
  | simulated {bundle : Uuid} {args : DryRunArguments}
      {decision : Except SubscriptionError (Decision DryRunBundle)}
      (counts : ∀ d, decision = .ok d →
        ∃ shown, d = ⟨[.count (.dryRun args.action)], fun _ => .ok shown⟩) :
      Handled (.simulate bundle args)
        ((s.carryOut .simulateSubscriptionsForBundle decision).map .dryRun)

theorem map_transitions (id : Uuid) :
    (s.transitions ctx id).map Answer.projected =
      (s.subscription ctx id).map fun t => Answer.projected t.allTransitions := by
  unfold transitions
  generalize s.subscription ctx id = o
  obtain ⟨found, after⟩ := o
  cases found <;> rfl

theorem handle_handled (request : Request) :
    s.Handled ctx ids request (s.handle ctx ids request) := by
  cases request with
  | create specifiers rename =>
    refine .decided rfl (fun d hd => ?_) _
    obtain ⟨c, _, hd⟩ := bind_eq_ok.1 hd
    obtain ⟨bs, planned, hd⟩ := bind_eq_ok.1 hd
    cases hd
    exact .create planned
  | createBundle account key rename =>
    refine .decided rfl (fun d hd => ?_) _
    obtain ⟨p, _, hd⟩ := bind_eq_ok.1 hd
    cases hd
    exact .createBundle p
  | updateExternalKey bundle key =>
    refine .decided rfl (fun d hd => ?_) _
    obtain ⟨_, _, hd⟩ := bind_eq_ok.1 hd
    obtain ⟨_, _, hd⟩ := bind_eq_ok.1 hd
    cases hd
    exact .updateExternalKey bundle key
  | cancel cancelled terms =>
    refine .decided rfl (fun d hd => ?_) _
    obtain ⟨_, _, hd⟩ := bind_eq_ok.1 hd
    obtain ⟨w, swept, hd⟩ := bind_eq_ok.1 hd
    cases hd
    exact .cancel swept
  | updateBillCycleDay id day start =>
    refine .decided rfl (fun d hd => ?_) _
    obtain ⟨_, _, hd⟩ := bind_eq_ok.1 hd
    obtain ⟨_, _, hd⟩ := bind_eq_ok.1 hd
    cases hd
    exact .updateBillCycleDay _ _
  | setChargedThrough id date =>
    refine .decided rfl (fun d hd => ?_) _
    obtain ⟨_, _, hd⟩ := bind_eq_ok.1 hd
    cases hd
    exact .setChargedThrough id date
  | simulate bundle args =>
    refine .simulated fun d hd => ?_
    obtain ⟨_, _, hd⟩ := bind_eq_ok.1 hd
    obtain ⟨_, _, hd⟩ := bind_eq_ok.1 hd
    obtain ⟨_, _, hd⟩ := bind_eq_ok.1 hd
    obtain ⟨_, _, hd⟩ := bind_eq_ok.1 hd
    cases hd
    exact ⟨_, rfl⟩
  | accountOfBundle id => exact .accountOfBundle id
  | bundleOfSubscription id => exact .bundleOfSubscription id
  | accountOfSubscription id => exact .accountOfSubscription id
  | transitions id =>
    show s.Handled ctx ids _ ((s.transitions ctx id).map Answer.projected)
    rw [map_transitions]
    exact .read rfl _ _
  | _ => exact .read rfl _ _

end Service

end SubscriptionBundles
