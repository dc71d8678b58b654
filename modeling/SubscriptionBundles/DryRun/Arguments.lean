import SubscriptionBundles.Calendar.Date
import SubscriptionBundles.Catalog.Plan
import SubscriptionBundles.Uuid.Basic

/-!
# Simulated actions

* `DryRunAction`      what may be simulated, `DryRunAction.ofText?` in any case of letters;
* `DryRunArguments`   an action with its parameters: starting needs a plan, changing a plan and a
                      subscription, stopping a subscription.
-/

namespace SubscriptionBundles

inductive DryRunAction
  | startBilling
  | change
  | stopBilling
deriving DecidableEq

namespace DryRunAction

def label : DryRunAction → String
  | startBilling => "start_billing"
  | change => "change"
  | stopBilling => "stop_billing"

def all : List DryRunAction := [startBilling, change, stopBilling]

def ofText? (text : String) : Option DryRunAction :=
  all.find? fun a => Text.asciiUpper a.label == Text.asciiUpper text

/-- what is said of a text that names no action -/
def unsupportedMessage (text : String) : String := "unsupported dry-run action: " ++ text

end DryRunAction

structure DryRunArguments where
  action : DryRunAction
  plan : Option PlanSpecifier
  overrides : List PriceOverride
  subscriptionId : Option Uuid
  effectiveDate : Option Date
  policy : Option BillingPolicy
deriving DecidableEq

namespace DryRunArguments

def startBilling (plan : PlanSpecifier) : DryRunArguments :=
  ⟨.startBilling, some plan, [], none, none, none⟩

def change (id : Uuid) (plan : PlanSpecifier) : DryRunArguments :=
  ⟨.change, some plan, [], some id, none, none⟩

def stopBilling (id : Uuid) : DryRunArguments := ⟨.stopBilling, none, [], some id, none, none⟩

def withEffectiveDate (a : DryRunArguments) (d : Date) : DryRunArguments :=
  { a with effectiveDate := some d }

def withPolicy (a : DryRunArguments) (p : BillingPolicy) : DryRunArguments :=
  { a with policy := some p }

end DryRunArguments

end SubscriptionBundles
