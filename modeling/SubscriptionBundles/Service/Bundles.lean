import SubscriptionBundles.Context
import SubscriptionBundles.Service.Basic

/-!
# Bundles and their keys

Bundles are found by external keys.  A bundle is active while a base or standalone subscription of
it has not ended, and a key that an active bundle carries is not given to a new one.

* `Storage.activeBundleForKey?`  the active bundle that carries a key, of any account;
* `planBundle`                   a new bundle, if its key may be taken;
* `PlannedBundle.effects`        older bundles give the key up, then the bundle is created;
* `Service.createBundle`, `Service.updateExternalKey` and the calls that read bundles.
-/

namespace SubscriptionBundles

/-! ## keys -/

/-- some base or standalone subscription has not ended -/
def hasLiveAnchor (records : List SubscriptionRecord) (now : Instant) : Bool :=
  records.any fun r => r.category != .addOn && (Subscription.rebuild r [] now).isLiveAfter now

/-- the first of the bundles that is active -/
def Storage.firstActive? (s : Storage) (now : Instant) :
    List Bundle → Except SubscriptionError (Option Bundle)
  | [] => .ok none
  | b :: rest => do
    let records ← s.recordsForBundle b.id
    if hasLiveAnchor records now then return some b else s.firstActive? now rest

def Storage.activeBundleForKey? (s : Storage) (key : String) (now : Instant) :
    Except SubscriptionError (Option Bundle) := do
  s.firstActive? now (← s.bundlesForKey key)

def checkKeyLength (max : Nat) (key : String) : Except SubscriptionError Unit :=
  if max < key.length then .error (.externalKeyTooLong key.length max) else .ok ()

/-- the key that an ended bundle is left with when a new one takes its key -/
def cancelledKey (id : Uuid) (key : String) : String := "cancelled-" ++ id.written ++ "-" ++ key

/-! ## new bundles -/

/-- a bundle that may be created, and the bundles that give up its key, each with its new key -/
structure PlannedBundle where
  bundle : Bundle
  renames : List (Uuid × String)
deriving DecidableEq

/-- `claimed` are the keys that earlier parts of the same call take -/
def checkKeyFree (s : Service) (now : Instant) (claimed : List String) (key : String) :
    Except SubscriptionError Unit := do
  checkKeyLength s.maxKeyLength key
  if claimed.contains key then throw (.activeBundleKeyConflict key)
  if (← s.storage.activeBundleForKey? key now).isSome then throw (.activeBundleKeyConflict key)

/-- the account's bundles of a key, if they are to give it up -/
def renamesFor (s : Service) (account : Uuid) (key : String) (rename : Bool) :
    Except SubscriptionError (List (Uuid × String)) :=
  if rename then do
    let holders ← s.storage.bundlesForAccountAndKey account key
    return holders.map fun b => (b.id, cancelledKey b.id key)
  else .ok []

def planBundle (s : Service) (ctx : Context) (id account : Uuid) (claimed : List String)
    (rename : Bool) (key : Option String) : Except SubscriptionError PlannedBundle := do
  let bundle := Bundle.new id account key ctx.now
  match key with
  | none => return ⟨bundle, []⟩
  | some key =>
    checkKeyFree s ctx.now claimed key
    return ⟨bundle, ← renamesFor s account key rename⟩

def PlannedBundle.effects (p : PlannedBundle) (now : Instant) : List Effect :=
  p.renames.map (fun r => .write (.updateKey r.1 r.2 now)) ++
    [.write (.createBundle p.bundle), .learn .bundleToAccount p.bundle.id p.bundle.accountId,
      .count (.operation .createBundle)]

namespace Service

/-! ## calls that change bundles -/

def createBundle (s : Service) (ctx : Context) (id account : Uuid) (key : Option String)
    (rename : Bool) : Outcome Bundle :=
  s.carryOut .createBundleForAccount do
    let planned ← planBundle s ctx id account [] rename key
    return ⟨planned.effects ctx.now, fun _ => .ok planned.bundle⟩

def updateExternalKey (s : Service) (ctx : Context) (id : Uuid) (key : String) : Outcome Unit :=
  s.carryOut .updateExternalKey do
    checkKeyLength s.maxKeyLength key
    let _ ← s.storage.requireBundle id
    return ⟨[.write (.updateKey id key ctx.now), .count (.operation .updateExternalKey)],
      fun _ => .ok ()⟩

/-! ## calls that read bundles -/

def activeBundleForKey (s : Service) (ctx : Context) (key : String) : Outcome (Option Bundle) :=
  s.ask .getActiveBundleForKey (s.storage.activeBundleForKey? key ctx.now)

def bundlesForKey (s : Service) (key : String) : Outcome (List Bundle) :=
  s.ask .getBundlesForKey (liftM (s.storage.bundlesForKey key))

def bundlesForAccount (s : Service) (ctx : Context) : Outcome (List Bundle) :=
  s.ask .getBundlesForAccount (liftM (s.storage.bundlesForAccount ctx.accountId))

def bundlesForAccountAndKey (s : Service) (ctx : Context) (key : String) : Outcome (List Bundle) :=
  s.ask .getBundlesForAccountAndKey (liftM (s.storage.bundlesForAccountAndKey ctx.accountId key))

def bundles (s : Service) (offset limit : Nat) : Outcome (Page Bundle) :=
  s.ask .getBundles (liftM (s.storage.page offset limit))

def searchBundles (s : Service) (text : String) (offset limit : Nat) : Outcome (Page Bundle) :=
  s.ask .searchBundles (liftM (s.storage.search text offset limit))

def bundle (s : Service) (id : Uuid) : Outcome Bundle :=
  s.ask .getBundleFromId (s.storage.requireBundle id)

end Service

/-- ids of the base and standalone subscriptions of bundles, bundle by bundle -/
def Storage.anchorIds (s : Storage) : List Bundle → Except SubscriptionError (List Uuid)
  | [] => .ok []
  | b :: rest => do
    let records ← s.recordsForBundle b.id
    let later ← s.anchorIds rest
    return (records.filter (·.category != .addOn)).map (·.id) ++ later

def Service.nonAddOnIdsForKey (s : Service) (key : String) : Outcome (List Uuid) :=
  s.ask .getNonAddOnSubscriptionIdsForKey do s.storage.anchorIds (← s.storage.bundlesForKey key)

end SubscriptionBundles
