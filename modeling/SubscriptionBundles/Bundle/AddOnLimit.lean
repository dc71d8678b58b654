import SubscriptionBundles.Bundle.Basic
import SubscriptionBundles.Error

/-!
# Add-on limits

A catalog may cap how many subscriptions of one add-on plan a bundle holds.  Plans are told apart
by their names, up to the case of ASCII letters.

* `addOnsHeld`        live add-ons of a plan in a bundle;
* `addOnsJoining`     plans of that name among those being added;
* `checkAddOnLimit`   refuses a plan whose count would pass its cap;
* `checkAddOnLimits`  the same for every plan of a batch.
-/

namespace SubscriptionBundles

def addOnsHeld (plan : String) (existing : List Subscription) : Nat :=
  existing.countP fun s =>
    s.category == .addOn && s.state != .cancelled && s.planName?.any (Text.sameAscii · plan)

def addOnsJoining (plan : String) (joining : List Plan) : Nat :=
  joining.countP fun p => p.category == .addOn && Text.sameAscii p.name plan

/-- `joining` holds every add-on plan being added, the plan itself among them -/
def checkAddOnLimit (plan : Plan) (existing : List Subscription) (joining : List Plan) :
    Except SubscriptionError Unit :=
  match plan.category, plan.plansAllowedInBundle with
  | .addOn, .atMost limit =>
    if addOnsHeld plan.name existing + addOnsJoining plan.name joining > limit.toNat then
      .error (.addOnLimitExceeded plan.name)
    else .ok ()
  | _, _ => .ok ()

def checkAddOnLimits (batch : List Plan) (existing : List Subscription) :
    Except SubscriptionError Unit :=
  batch.forM fun plan => checkAddOnLimit plan existing batch

end SubscriptionBundles
