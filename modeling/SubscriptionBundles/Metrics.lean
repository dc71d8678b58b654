import SubscriptionBundles.DryRun.Arguments
import SubscriptionBundles.Identity

/-!
# Counters

What a service counts, one sample at a time.

* `Method`          the calls that a service answers;
* `Sample`          one thing that happened;
* `Sample.series`   the counter it belongs to, as monitoring reads it;
* `Tally`           all that happened, `Tally.count` how often a sample did.
-/

namespace SubscriptionBundles

inductive Method
  | createBaseSubscriptionsWithAddOns
  | createBundleForAccount
  | updateExternalKey
  | getActiveBundleForKey
  | getBundlesForKey
  | getBundlesForAccount
  | getBundlesForAccountAndKey
  | getBundles
  | searchBundles
  | getNonAddOnSubscriptionIdsForKey
  | getSubscriptionFromId
  | getSubscriptionsForBundle
  | getSubscriptionsForAccount
  | getBaseSubscription
  | getBundleFromId
  | getAccountIdFromBundleId
  | getBundleIdFromSubscriptionId
  | getAccountIdFromSubscriptionId
  | cancelBaseSubscriptions
  | updateBillCycleDay
  | setChargedThroughDate
  | simulateSubscriptionsForBundle
  | getDryRunChangePlanEffectiveDate
  | getDryRunChangePlanStatus
deriving DecidableEq

namespace Method

def label : Method → String
  | createBaseSubscriptionsWithAddOns => "create_base_subscriptions_with_addons"
  | createBundleForAccount => "create_bundle_for_account"
  | updateExternalKey => "update_external_key"
  | getActiveBundleForKey => "get_active_bundle_for_key"
  | getBundlesForKey => "get_bundles_for_key"
  | getBundlesForAccount => "get_bundles_for_account"
  | getBundlesForAccountAndKey => "get_bundles_for_account_and_key"
  | getBundles => "get_bundles"
  | searchBundles => "search_bundles"
  | getNonAddOnSubscriptionIdsForKey => "get_non_addon_subscription_ids_for_key"
  | getSubscriptionFromId => "get_subscription_from_id"
  | getSubscriptionsForBundle => "get_subscriptions_for_bundle"
  | getSubscriptionsForAccount => "get_subscriptions_for_account"
  | getBaseSubscription => "get_base_subscription"
  | getBundleFromId => "get_bundle_from_id"
  | getAccountIdFromBundleId => "get_account_id_from_bundle_id"
  | getBundleIdFromSubscriptionId => "get_bundle_id_from_subscription_id"
  | getAccountIdFromSubscriptionId => "get_account_id_from_subscription_id"
  | cancelBaseSubscriptions => "cancel_base_subscriptions"
  | updateBillCycleDay => "update_bcd"
  | setChargedThroughDate => "set_charged_through_date"
  | simulateSubscriptionsForBundle => "simulate_subscriptions_for_bundle"
  | getDryRunChangePlanEffectiveDate => "get_dry_run_change_plan_effective_date"
  | getDryRunChangePlanStatus => "get_dry_run_change_plan_status"

end Method

/-- changes that are counted one by one -/
inductive Operation
  | create
  | createBundle
  | updateExternalKey
  | cancel
  | updateBillCycleDay
  | setChargedThroughDate
deriving DecidableEq

def Operation.label : Operation → String
  | create => "create"
  | createBundle => "create_bundle"
  | updateExternalKey => "update_external_key"
  | cancel => "cancel"
  | updateBillCycleDay => "update_bcd"
  | setChargedThroughDate => "set_charged_through_date"

inductive CallStatus
  | ok
  | error
deriving DecidableEq

def CallStatus.label : CallStatus → String
  | ok => "ok"
  | error => "error"

inductive Sample
  | operation (operation : Operation)
  | dryRun (action : DryRunAction)
  | request (method : Method) (status : CallStatus)
  /-- a call that failed with an error of some label -/
  | failure (error : String) (method : Method)
  | identityLookup (lookup : Lookup) (outcome : LookupOutcome)
  /-- a call whose duration was measured -/
  | duration (method : Method)
deriving DecidableEq

/-- a counter's name and its labels, ordered by their names -/
structure Series where
  name : String
  labels : List (String × String)
deriving DecidableEq

namespace Series

def writtenLabel (l : String × String) : String := l.1 ++ "=\"" ++ l.2 ++ "\""

def written (s : Series) : String :=
  s.name ++ "\x7b" ++ ",".intercalate (s.labels.map writtenLabel) ++ "\x7d"

end Series

def Sample.series : Sample → Series
  | operation o => ⟨"subscription_operations_total", [("operation", o.label)]⟩
  | dryRun a => ⟨"subscription_dry_runs_total", [("action", a.label)]⟩
  | request m s =>
    ⟨"subscription_api_requests_total", [("method", m.label), ("status", s.label)]⟩
  | failure e m => ⟨"subscription_errors_total", [("error_type", e), ("method", m.label)]⟩
  | identityLookup l o =>
    ⟨"subscription_identity_cache_lookups_total", [("lookup", l.label), ("outcome", o.label)]⟩
  | duration m => ⟨"subscription_api_request_duration_seconds_count", [("method", m.label)]⟩

/-- every sample so far, the latest first -/
abbrev Tally := List Sample

namespace Tally

def times (t : Tally) (s : Sample) : Nat := t.count s

/-- each sample that happened, with how often -/
def report (t : Tally) : List (Sample × Nat) := t.eraseDups.map fun s => (s, t.times s)

end Tally

end SubscriptionBundles
