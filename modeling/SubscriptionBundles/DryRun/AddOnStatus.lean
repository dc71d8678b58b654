import SubscriptionBundles.DryRun.Simulation

/-!
# Add-ons under a change of base product

What would become of a bundle's live add-ons if its base moved to another product, or went away.

* `ChangeReason`      the three fates of an add-on;
* `changePlanStatus`  the fate of each live subscription beside the base.
-/

namespace SubscriptionBundles

inductive ChangeReason
  | addOnIncluded
  | addOnAvailable
  | addOnNotAvailable
deriving DecidableEq

def ChangeReason.label : ChangeReason → String
  | addOnIncluded => "add_on_included"
  | addOnAvailable => "add_on_available"
  | addOnNotAvailable => "add_on_not_available"

structure AddOnStatus where
  subscriptionId : Uuid
  productName : String
  planName : String
  reason : ChangeReason
deriving DecidableEq

def changeReason (c : Catalog) (baseProduct : Option String) (plan : Plan) : ChangeReason :=
  match baseProduct with
  | none => .addOnNotAvailable
  | some product =>
    if c.includes product plan then .addOnIncluded
    else if c.offers product plan then .addOnAvailable
    else .addOnNotAvailable

/-- one status for each subscription that is neither the base nor cancelled -/
def addOnStatuses (c : Catalog) (base : Subscription) (baseProduct : Option String) :
    List Subscription → Except SubscriptionError (List AddOnStatus)
  | [] => .ok []
  | s :: rest =>
    if s.id = base.id ∨ s.state = .cancelled then addOnStatuses c base baseProduct rest
    else do
      let plan ← currentPlan c s
      let later ← addOnStatuses c base baseProduct rest
      return ⟨s.id, plan.product.name, plan.name, changeReason c baseProduct plan⟩ :: later

def changePlanStatus (c : Catalog) (base : Subscription) (subscriptions : List Subscription)
    (baseProduct : Option String) : Except SubscriptionError (List AddOnStatus) :=
  if base.category = .base then addOnStatuses c base baseProduct subscriptions
  else .error .changeDryRunNotOnBasePlan

end SubscriptionBundles
