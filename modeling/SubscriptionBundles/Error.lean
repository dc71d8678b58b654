import SubscriptionBundles.Calendar.Written
import SubscriptionBundles.Catalog.Basic
import SubscriptionBundles.Store.Error
import SubscriptionBundles.Uuid.Basic

/-!
# Errors

Why a request is refused.

* `SubscriptionError`          a broken rule, or a failure of the catalog or the store;
* `SubscriptionError.label`    its name in counters;
* `SubscriptionError.message`  its sentence;
* `ServiceError`               the class of failure that callers outside are told;
* `SubscriptionError.toServiceError`  the class of each error.

A computation that reads the catalog or the store wraps their errors (`MonadLift`).
-/

namespace SubscriptionBundles

inductive SubscriptionError
  | invalidSpecifierBatch (reason : String)
  | addOnLimitExceeded (plan : String)
  | baseAlreadyExists (bundle : String)
  | noBaseSubscription (bundle : String)
  | invalidRequestedDate (requested baseStart : Instant)
  | noSuchBaseSubscription (bundle : Uuid)
  | invalidSubscriptionId (id : Uuid)
  | invalidBundleId (id : Uuid)
  | noBundleForSubscription (id : Uuid)
  | externalKeyTooLong (length max : Nat)
  | activeBundleKeyConflict (key : String)
  | changeDryRunNotOnBasePlan
  | addOnNotAvailable (addOn base : String)
  | addOnAlreadyIncluded (addOn base : String)
  | baseNotActive (id : Uuid)
  | illegalPlanChange (plan : String)
  | billingAlignmentUnavailable
  | invalidBillCycleDay (day : UInt32)
  | invalidDryRunArguments (reason : String)
  | catalog (error : CatalogError)
  | store (error : StoreError)
deriving DecidableEq

namespace SubscriptionError

def label : SubscriptionError → String
  | invalidSpecifierBatch _ => "invalid_specifier_batch"
  | addOnLimitExceeded _ => "addon_limit_exceeded"
  | baseAlreadyExists _ => "base_already_exists"
  | noBaseSubscription _ => "no_base_subscription"
  | invalidRequestedDate _ _ => "invalid_requested_date"
  | noSuchBaseSubscription _ => "no_such_base_subscription"
  | invalidSubscriptionId _ => "invalid_subscription_id"
  | invalidBundleId _ => "invalid_bundle_id"
  | noBundleForSubscription _ => "no_bundle_for_subscription"
  | externalKeyTooLong _ _ => "external_key_too_long"
  | activeBundleKeyConflict _ => "active_bundle_key_conflict"
  | changeDryRunNotOnBasePlan => "change_dry_run_not_on_base_plan"
  | addOnNotAvailable _ _ => "addon_not_available"
  | addOnAlreadyIncluded _ _ => "addon_already_included"
  | baseNotActive _ => "base_not_active"
  | illegalPlanChange _ => "illegal_plan_change"
  | billingAlignmentUnavailable => "billing_alignment_unavailable"
  | invalidBillCycleDay _ => "invalid_bill_cycle_day"
  | invalidDryRunArguments _ => "invalid_dry_run_arguments"
  | catalog _ => "catalog"
  | store _ => "store"

def message : SubscriptionError → String
  | invalidSpecifierBatch reason => "Invalid specifier batch: " ++ reason
  | addOnLimitExceeded plan => "Add-on limit exceeded for plan " ++ plan
  | baseAlreadyExists bundle => "Bundle " ++ bundle ++ " already has a base subscription"
  | noBaseSubscription bundle => "No base subscription for bundle " ++ bundle
  | invalidRequestedDate requested baseStart =>
    "Requested date " ++ requested.writtenIn .sentence ++ " is before base subscription start "
      ++ baseStart.writtenIn .sentence
  | noSuchBaseSubscription bundle => "No such base subscription in bundle " ++ bundle.written
  | invalidSubscriptionId id => "Invalid subscription id " ++ id.written
  | invalidBundleId id => "Invalid bundle id " ++ id.written
  | noBundleForSubscription id => "No bundle for subscription " ++ id.written
  | externalKeyTooLong length max =>
    "External key length " ++ Text.number length ++ " exceeds " ++ Text.number max
  | activeBundleKeyConflict key => "Active bundle for key " ++ key ++ " belongs to another account"
  | changeDryRunNotOnBasePlan => "Change dry run is only supported on base plans"
  | addOnNotAvailable addOn base =>
    "Add-on " ++ addOn ++ " is not available for base product " ++ base
  | addOnAlreadyIncluded addOn base =>
    "Add-on " ++ addOn ++ " is already included in base product " ++ base
  | baseNotActive id => "Base subscription " ++ id.written ++ " is not active"
  | illegalPlanChange plan => "Plan change from " ++ plan ++ " is not allowed"
  | billingAlignmentUnavailable => "Start of term cannot be computed without a billing alignment"
  | invalidBillCycleDay day => "Invalid bill cycle day " ++ Text.number day.toNat
  | invalidDryRunArguments reason => "Invalid dry run arguments: " ++ reason
  | catalog error => "Catalog error: " ++ error.message
  | store error => "Store error: " ++ error.message

end SubscriptionError

/-! ## what callers outside are told -/

inductive ServiceError
  | badRequest (reason : String)
  | notFound (reason : String)
  | conflict (reason : String)
  | internal (reason : String)
  | unavailable
  | config (reason : String)
deriving DecidableEq

namespace ServiceError

def label : ServiceError → String
  | badRequest _ => "bad_request"
  | notFound _ => "not_found"
  | conflict _ => "conflict"
  | internal _ => "internal"
  | unavailable => "unavailable"
  | config _ => "config"

def message : ServiceError → String
  | badRequest reason => "Bad request: " ++ reason
  | notFound reason => "Not found: " ++ reason
  | conflict reason => "Conflict: " ++ reason
  | internal reason => "Internal server error: " ++ reason
  | unavailable => "Service Unavailable"
  | config reason => "Configuration error: " ++ reason

/-- the caller can mend the request and send it again -/
def isClientError : ServiceError → Bool
  | badRequest _ | notFound _ | conflict _ => true
  | _ => false

/-- a failure of input or output -/
def ofInputOutput (reason : String) : ServiceError := internal reason

end ServiceError

def SubscriptionError.toServiceError (e : SubscriptionError) : ServiceError :=
  match e with
  | invalidSubscriptionId _ | invalidBundleId _ | noBundleForSubscription _
  | noSuchBaseSubscription _ | store (.notFound _) | catalog (.planNotFound _) => .notFound e.message
  | baseAlreadyExists _ | activeBundleKeyConflict _ | addOnLimitExceeded _ | store (.conflict _) =>
    .conflict e.message
  | store (.unavailable _) | catalog (.unavailable _) => .unavailable
  | catalog (.noInitialPhase _) | catalog .emptySpecifier => .internal e.message
  | _ => .badRequest e.message

/-! ## wrapping -/

instance : MonadLift (Except CatalogError) (Except SubscriptionError) :=
  ⟨fun x => x.mapError .catalog⟩

instance : MonadLift (Except StoreError) (Except SubscriptionError) :=
  ⟨fun x => x.mapError .store⟩

end SubscriptionBundles
