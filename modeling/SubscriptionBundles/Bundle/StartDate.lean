import SubscriptionBundles.Bundle.Basic
import SubscriptionBundles.Error

/-!
# Start dates of bundles

When the bundle of a new subscription starts, given the subscription it is checked against.

* `checkAddOnForProduct`  a base product must offer an add-on and not include it;
* `checkAddOnOnBase`      the base must be live, and its product must take the add-on;
* `bundleStartDate`       a base or standalone plan starts its bundle on the requested date, an
                          add-on takes over the start of its base.
-/

namespace SubscriptionBundles

def checkAddOnForProduct (c : Catalog) (baseProduct : String) (addOn : Plan) :
    Except SubscriptionError Unit :=
  if c.includes baseProduct addOn then .error (.addOnAlreadyIncluded addOn.name baseProduct)
  else if c.offers baseProduct addOn then .ok ()
  else .error (.addOnNotAvailable addOn.name baseProduct)

def checkAddOnOnBase (c : Catalog) (base : Subscription) (addOn : Plan) (date : Instant) :
    Except SubscriptionError Unit := do
  if base.state = .cancelled ∨ base.endDate.any (· ≤ date) then throw (.baseNotActive base.id)
  match base.planName? with
  | none => throw (.baseNotActive base.id)
  | some name =>
    let plan ← c.findPlan name
    checkAddOnForProduct c plan.product.name addOn

/-- `label` is what an error calls the bundle -/
def bundleStartDate (c : Catalog) (plan : Plan) (label : String) (anchor : Option Subscription)
    (requested : Instant) : Except SubscriptionError Instant := do
  match plan.category with
  | .addOn =>
    match anchor with
    | none => throw (.noBaseSubscription label)
    | some base =>
      if requested < base.startDate then throw (.invalidRequestedDate requested base.startDate)
      checkAddOnOnBase c base plan requested
      return base.startDate
  | _ =>
    if anchor.any (·.isActiveOrPending) then throw (.baseAlreadyExists label)
    return requested

end SubscriptionBundles
