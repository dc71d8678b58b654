import SubscriptionBundles.Context
import SubscriptionBundles.Service.Basic
import SubscriptionBundles.Timeline.Projection

/-!
# Reading subscriptions and identities

Subscriptions are read as of the instant of the call, and lists of them in listing order.

* `Service.subscription`, `Service.subscriptionsForBundle`, `Service.subscriptionsForAccount`,
  `Service.baseSubscription`, `Service.transitions`;
* `Service.identify`  an identity lookup, which may teach the cache;
* `Service.bundleOfSubscription`, `Service.accountOfBundle`, `Service.accountOfSubscription`.
-/

namespace SubscriptionBundles

/-- records by bundle, bundles in the order of their ids -/
def groupByBundle (records : List SubscriptionRecord) : List (Uuid × List SubscriptionRecord) :=
  let ids := stableSort (fun a b => decide (a ≤ b)) (records.map (·.bundleId)).eraseDups
  ids.map fun id => (id, records.filter (·.bundleId == id))

namespace Service

/-! ## subscriptions -/

def subscription (s : Service) (ctx : Context) (id : Uuid) : Outcome Subscription :=
  s.ask .getSubscriptionFromId do return .rebuild (← s.storage.requireRecord id) [] ctx.now

/-- every transition of a subscription, past and future -/
def transitions (s : Service) (ctx : Context) (id : Uuid) : Outcome (List ProjectedEvent) :=
  let (found, s) := s.subscription ctx id
  (found.map (·.allTransitions), s)

def subscriptionsForBundle (s : Service) (ctx : Context) (bundleId : Uuid) :
    Outcome (List Subscription) :=
  s.ask .getSubscriptionsForBundle do
    return Subscription.listing (← s.storage.recordsForBundle bundleId) ctx.now

def subscriptionsForAccount (s : Service) (ctx : Context) :
    Outcome (List (Uuid × List Subscription)) :=
  s.ask .getSubscriptionsForAccount do
    let records ← s.storage.recordsForAccount ctx.accountId
    return (groupByBundle records).map fun g => (g.1, Subscription.listing g.2 ctx.now)

def baseSubscription (s : Service) (ctx : Context) (bundleId : Uuid) : Outcome Subscription :=
  s.ask .getBaseSubscription do
    match ← s.storage.baseRecord? bundleId with
    | some r => return .rebuild r [] ctx.now
    | none => throw (.noSuchBaseSubscription bundleId)

/-! ## identities -/

/-- what the store answers to a lookup -/
def loadIdentity (s : Storage) (id : Uuid) : Lookup → Except StoreError (Option Uuid)
  | .subscriptionToBundle => s.bundleOfRecord? id
  | .bundleToAccount => s.accountOfBundle? id

def identify (s : Service) (lookup : Lookup) (id : Uuid) : Option Uuid × Service :=
  let found := s.identities.resolve lookup id (loadIdentity s.storage id lookup)
  (found.value, { s with identities := found.cache }.count [.identityLookup lookup found.outcome])

/-- an identity lookup that must find something -/
def requireIdentity (s : Service) (lookup : Lookup) (id : Uuid) (missing : SubscriptionError) :
    Outcome Uuid :=
  match s.identify lookup id with
  | (some value, s) => (.ok value, s)
  | (none, s) => (.error missing, s)

def accountOfBundle (s : Service) (id : Uuid) : Outcome Uuid :=
  observe .getAccountIdFromBundleId (s.requireIdentity .bundleToAccount id (.invalidBundleId id))

def bundleOfSubscription (s : Service) (id : Uuid) : Outcome Uuid :=
  observe .getBundleIdFromSubscriptionId
    (s.requireIdentity .subscriptionToBundle id (.noBundleForSubscription id))

/-- by way of the subscription's bundle -/
def accountOfSubscription (s : Service) (id : Uuid) : Outcome Uuid :=
  observe .getAccountIdFromSubscriptionId <|
    match s.requireIdentity .subscriptionToBundle id (.noBundleForSubscription id) with
    | (.ok bundle, s) => s.requireIdentity .bundleToAccount bundle (.invalidBundleId bundle)
    | (.error e, s) => (.error e, s)

end Service

end SubscriptionBundles
