import SubscriptionBundles.Service.Changes
import SubscriptionBundles.Service.Creation
import SubscriptionBundles.Service.DryRuns
import SubscriptionBundles.Service.Subscriptions

/-!
# Requests

Every call of the service as a value.

* `Request`          a call with its arguments, `Answer` what a call may answer;
* `Service.handle`   the answer to a request, and the service afterwards;
* `Service.run`      the answers to a row of requests, each with its context and the identifiers it
                     may draw.
-/

namespace SubscriptionBundles

inductive Request
  | create (specifiers : List BundleSpecifier) (rename : Bool)
  | createBundle (account : Uuid) (key : Option String) (rename : Bool)
  | updateExternalKey (bundle : Uuid) (key : String)
  | activeBundleForKey (key : String)
  | bundlesForKey (key : String)
  | bundlesForAccount
  | bundlesForAccountAndKey (key : String)
  | bundles (offset limit : Nat)
  | searchBundles (text : String) (offset limit : Nat)
  | nonAddOnIdsForKey (key : String)
  | subscription (id : Uuid)
  | transitions (id : Uuid)
  | subscriptionsForBundle (bundle : Uuid)
  | subscriptionsForAccount
  | baseSubscription (bundle : Uuid)
  | bundle (id : Uuid)
  | accountOfBundle (bundle : Uuid)
  | bundleOfSubscription (id : Uuid)
  | accountOfSubscription (id : Uuid)
  | cancel (ids : List Uuid) (terms : CancelTerms)
  | updateBillCycleDay (id : Uuid) (day : UInt32) (effectiveFrom : Option Date)
  | setChargedThrough (id : Uuid) (date : Instant)
  | simulate (bundle : Uuid) (args : DryRunArguments)
  | changeDate (id : Uuid) (terms : ChangeTerms)
  | changeStatus (id : Uuid) (baseProduct : Option String)
deriving DecidableEq

inductive Answer
  | done
  | id (id : Uuid)
  | ids (ids : List Uuid)
  | instant (instant : Instant)
  | bundle (bundle : Bundle)
  | maybeBundle (bundle : Option Bundle)
  | bundles (bundles : List Bundle)
  | page (page : Page Bundle)
  | created (bundles : List SubscriptionBundle)
  | subscription (subscription : Subscription)
  | subscriptions (subscriptions : List Subscription)
  | subscriptionsByBundle (groups : List (Uuid × List Subscription))
  | projected (events : List ProjectedEvent)
  | dryRun (bundle : DryRunBundle)
  | addOnStatuses (statuses : List AddOnStatus)
deriving DecidableEq

/-- another form of an answer -/
def Outcome.map {α β : Type} (f : α → β) (o : Outcome α) : Outcome β := (Except.map f o.1, o.2)

namespace Service

/-- `ids` are the identifiers to draw from, in order -/
def handle (s : Service) (ctx : Context) (ids : Nat → Uuid) : Request → Outcome Answer
  | .create specifiers rename => (s.create ctx ids specifiers rename).map .created
  | .createBundle account key rename => (s.createBundle ctx (ids 0) account key rename).map .bundle
  | .updateExternalKey bundle key => (s.updateExternalKey ctx bundle key).map fun _ => .done
  | .activeBundleForKey key => (s.activeBundleForKey ctx key).map .maybeBundle
  | .bundlesForKey key => (s.bundlesForKey key).map .bundles
  | .bundlesForAccount => (s.bundlesForAccount ctx).map .bundles
  | .bundlesForAccountAndKey key => (s.bundlesForAccountAndKey ctx key).map .bundles
  | .bundles offset limit => (s.bundles offset limit).map .page
  | .searchBundles text offset limit => (s.searchBundles text offset limit).map .page
  | .nonAddOnIdsForKey key => (s.nonAddOnIdsForKey key).map .ids
  | .subscription id => (s.subscription ctx id).map .subscription
  | .transitions id => (s.transitions ctx id).map .projected
  | .subscriptionsForBundle bundle => (s.subscriptionsForBundle ctx bundle).map .subscriptions
  | .subscriptionsForAccount => (s.subscriptionsForAccount ctx).map .subscriptionsByBundle
  | .baseSubscription bundle => (s.baseSubscription ctx bundle).map .subscription
  | .bundle id => (s.bundle id).map .bundle
  | .accountOfBundle bundle => (s.accountOfBundle bundle).map .id
  | .bundleOfSubscription id => (s.bundleOfSubscription id).map .id
  | .accountOfSubscription id => (s.accountOfSubscription id).map .id
  | .cancel ids terms => (s.cancel ctx ids terms).map .subscriptions
  | .updateBillCycleDay id day from? => (s.updateBillCycleDay ctx id day from?).map .instant
  | .setChargedThrough id date => (s.setChargedThrough id date).map fun _ => .done
  | .simulate bundle args => (s.simulate ctx bundle args).map .dryRun
  | .changeDate id terms => (s.changeDate ctx id terms).map .instant
  | .changeStatus id product => (s.changeStatus ctx id product).map .addOnStatuses

/-! ## runs -/

/-- a request with its context and the identifiers it may draw -/
structure Turn where
  context : Context
  ids : Nat → Uuid
  request : Request

def run (s : Service) : List Turn → List (Except SubscriptionError Answer) × Service
  | [] => ([], s)
  | t :: rest =>
    let (answer, s) := s.handle t.context t.ids t.request
    let (answers, s) := run s rest
    (answer :: answers, s)

end Service

end SubscriptionBundles
