import SubscriptionBundles.Store.Basic

/-!
# Storage

The store behind its methods.  Any method may be out of order, and then fails before it reaches the
store; every other write is counted, whether the store accepts it or not.

* `StoreMethod`     the methods, `StoreMethod.label` their names;
* `Storage.read`    a query through a method;
* `Storage.write`   a change through its method.
-/

namespace SubscriptionBundles

inductive StoreMethod
  | getBundle
  | getBundlesForKey
  | getBundlesForAccount
  | getBundlesForAccountAndKey
  | listBundles
  | searchBundles
  | createBundle
  | updateBundleExternalKey
  | getAccountIdForBundle
  | getSubscription
  | getSubscriptionsForBundle
  | getSubscriptionsForAccount
  | getBundleIdForSubscription
  | createSubscriptions
  | appendEvents
  | updateChargedThroughDate
deriving DecidableEq

namespace StoreMethod

def label : StoreMethod → String
  | getBundle => "get_bundle"
  | getBundlesForKey => "get_bundles_for_key"
  | getBundlesForAccount => "get_bundles_for_account"
  | getBundlesForAccountAndKey => "get_bundles_for_account_and_key"
  | listBundles => "list_bundles"
  | searchBundles => "search_bundles"
  | createBundle => "create_bundle"
  | updateBundleExternalKey => "update_bundle_external_key"
  | getAccountIdForBundle => "get_account_id_for_bundle"
  | getSubscription => "get_subscription"
  | getSubscriptionsForBundle => "get_subscriptions_for_bundle"
  | getSubscriptionsForAccount => "get_subscriptions_for_account"
  | getBundleIdForSubscription => "get_bundle_id_for_subscription"
  | createSubscriptions => "create_subscriptions"
  | appendEvents => "append_events"
  | updateChargedThroughDate => "update_charged_through_date"

def all : List StoreMethod :=
  [getBundle, getBundlesForKey, getBundlesForAccount, getBundlesForAccountAndKey, listBundles,
    searchBundles, createBundle, updateBundleExternalKey, getAccountIdForBundle, getSubscription,
    getSubscriptionsForBundle, getSubscriptionsForAccount, getBundleIdForSubscription,
    createSubscriptions, appendEvents, updateChargedThroughDate]

def ofLabel? (text : String) : Option StoreMethod := all.find? fun m => m.label == text

end StoreMethod

def Write.method : Write → StoreMethod
  | createBundle _ => .createBundle
  | updateKey _ _ _ => .updateBundleExternalKey
  | createRecords _ => .createSubscriptions
  | appendEvents _ => .appendEvents
  | setChargedThrough _ _ => .updateChargedThroughDate

structure Storage where
  store : Store
  /-- writes that reached the store -/
  writes : Nat
  /-- the methods out of order -/
  down : List StoreMethod
deriving DecidableEq

namespace Storage

def empty : Storage := ⟨.empty, 0, []⟩

def isDown (s : Storage) (m : StoreMethod) : Bool := s.down.contains m

/-- why a method out of order fails -/
def outage (m : StoreMethod) : StoreError := .unavailable (m.label ++ " down")

def read {α : Type} (s : Storage) (m : StoreMethod) (query : Store → α) : Except StoreError α :=
  if s.isDown m then .error (outage m) else .ok (query s.store)

def write (s : Storage) (w : Write) : Except StoreError Unit × Storage :=
  if s.isDown w.method then (.error (outage w.method), s)
  else
    match s.store.apply w with
    | .ok store => (.ok (), { s with store := store, writes := s.writes + 1 })
    | .error e => (.error e, { s with writes := s.writes + 1 })

/-! ## queries -/

def bundle? (s : Storage) (id : Uuid) : Except StoreError (Option Bundle) :=
  s.read .getBundle (·.bundle? id)

def bundlesForKey (s : Storage) (key : String) : Except StoreError (List Bundle) :=
  s.read .getBundlesForKey (·.bundlesForKey key)

def bundlesForAccount (s : Storage) (account : Uuid) : Except StoreError (List Bundle) :=
  s.read .getBundlesForAccount (·.bundlesForAccount account)

def bundlesForAccountAndKey (s : Storage) (account : Uuid) (key : String) :
    Except StoreError (List Bundle) :=
  s.read .getBundlesForAccountAndKey (·.bundlesForAccountAndKey account key)

def page (s : Storage) (offset limit : Nat) : Except StoreError (Page Bundle) :=
  s.read .listBundles (·.page offset limit)

def search (s : Storage) (text : String) (offset limit : Nat) : Except StoreError (Page Bundle) :=
  s.read .searchBundles (·.search text offset limit)

def accountOfBundle? (s : Storage) (id : Uuid) : Except StoreError (Option Uuid) :=
  s.read .getAccountIdForBundle fun store => (store.bundle? id).map (·.accountId)

def record? (s : Storage) (id : Uuid) : Except StoreError (Option SubscriptionRecord) :=
  s.read .getSubscription (·.record? id)

def recordsForBundle (s : Storage) (bundleId : Uuid) :
    Except StoreError (List SubscriptionRecord) :=
  s.read .getSubscriptionsForBundle (·.recordsForBundle bundleId)

def recordsForAccount (s : Storage) (account : Uuid) :
    Except StoreError (List SubscriptionRecord) :=
  s.read .getSubscriptionsForAccount (·.recordsForAccount account)

def bundleOfRecord? (s : Storage) (id : Uuid) : Except StoreError (Option Uuid) :=
  s.read .getBundleIdForSubscription fun store => (store.record? id).map (·.bundleId)

/-- found among the records of the bundle, so it fails when those cannot be read -/
def baseRecord? (s : Storage) (bundleId : Uuid) : Except StoreError (Option SubscriptionRecord) :=
  s.read .getSubscriptionsForBundle (·.baseRecord? bundleId)

end Storage

end SubscriptionBundles
