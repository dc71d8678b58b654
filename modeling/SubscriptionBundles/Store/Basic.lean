import SubscriptionBundles.Bundle.Basic
import SubscriptionBundles.Store.Error

/-!
# The store

Bundles and subscription records, each in the order of their creation.

* queries        bundles by id, key and account; records by id, bundle and account;
* `Write`        the changes a store accepts;
* `Store.apply`  a change made, or the reason it is refused; a refused change leaves the store as
                 it was.
-/

namespace SubscriptionBundles

structure Store where
  bundles : List Bundle
  records : List SubscriptionRecord
deriving DecidableEq

namespace Store

def empty : Store := ⟨[], []⟩

/-! ## queries -/

def bundle? (s : Store) (id : Uuid) : Option Bundle := s.bundles.find? (·.id == id)

def bundlesForKey (s : Store) (key : String) : List Bundle :=
  s.bundles.filter (·.externalKey == some key)

def bundlesForAccount (s : Store) (account : Uuid) : List Bundle :=
  s.bundles.filter (·.accountId == account)

def bundlesForAccountAndKey (s : Store) (account : Uuid) (key : String) : List Bundle :=
  s.bundles.filter fun b => b.accountId == account && b.externalKey == some key

/-- the text is the bundle's id, its account's id or its key -/
def matchesSearch (text : String) (b : Bundle) : Bool :=
  b.id.written == text || b.accountId.written == text || b.externalKey == some text

def page (s : Store) (offset limit : Nat) : Page Bundle := .ofList s.bundles offset limit

def search (s : Store) (text : String) (offset limit : Nat) : Page Bundle :=
  .ofList (s.bundles.filter (matchesSearch text)) offset limit

def record? (s : Store) (id : Uuid) : Option SubscriptionRecord := s.records.find? (·.id == id)

def recordsForBundle (s : Store) (bundleId : Uuid) : List SubscriptionRecord :=
  s.records.filter (·.bundleId == bundleId)

def recordsForAccount (s : Store) (account : Uuid) : List SubscriptionRecord :=
  s.records.filter fun r => (s.bundlesForAccount account).any (·.id == r.bundleId)

/-- the base record of a bundle that was created last -/
def baseRecord? (s : Store) (bundleId : Uuid) : Option SubscriptionRecord :=
  latestBy (·.createdUtc) ((s.recordsForBundle bundleId).filter (·.category == .base))

/-! ## changes -/

/-- what keeps a record from being added -/
def obstacle? (s : Store) (r : SubscriptionRecord) : Option StoreError :=
  if (s.bundle? r.bundleId).isNone then some (.notFound ("bundle " ++ r.bundleId.written))
  else if (s.record? r.id).isSome then
    some (.conflict ("subscription " ++ r.id.written ++ " already exists"))
  else none

def createBundle (s : Store) (b : Bundle) : Except StoreError Store :=
  if (s.bundle? b.id).isSome then .error (.conflict ("bundle " ++ b.id.written ++ " already exists"))
  else .ok { s with bundles := s.bundles ++ [b] }

/-- changes the first entry with a property -/
def changeFirst {α : Type} (p : α → Bool) (change : α → α) : List α → List α
  | [] => []
  | a :: l => if p a then change a :: l else a :: changeFirst p change l

def updateBundle (s : Store) (id : Uuid) (change : Bundle → Bundle) : Store :=
  { s with bundles := changeFirst (·.id == id) change s.bundles }

def updateKey (s : Store) (id : Uuid) (key : String) (updatedUtc : Instant) : Except StoreError Store :=
  if (s.bundle? id).isNone then .error (.notFound ("bundle " ++ id.written))
  else .ok (s.updateBundle id fun b => { b with externalKey := some key, updatedUtc := updatedUtc })

def createRecords (s : Store) (rs : List SubscriptionRecord) : Except StoreError Store :=
  match rs.findSome? s.obstacle? with
  | some e => .error e
  | none => .ok { s with records := s.records ++ rs }

def updateRecord (s : Store) (id : Uuid) (change : SubscriptionRecord → SubscriptionRecord) : Store :=
  { s with records := changeFirst (·.id == id) change s.records }

def appendEvent (s : Store) (e : TransitionEvent) : Store :=
  s.updateRecord e.subscriptionId fun r => { r with events := r.events ++ [e] }

def appendEvents (s : Store) (es : List TransitionEvent) : Except StoreError Store :=
  match es.find? fun e => (s.record? e.subscriptionId).isNone with
  | some e => .error (.notFound ("subscription " ++ e.subscriptionId.written))
  | none => .ok (es.foldl appendEvent s)

def setChargedThrough (s : Store) (id : Uuid) (date : Instant) : Except StoreError Store :=
  if (s.record? id).isNone then .error (.notFound ("subscription " ++ id.written))
  else .ok (s.updateRecord id fun r => { r with chargedThroughDate := some date })

end Store

inductive Write
  | createBundle (bundle : Bundle)
  | updateKey (id : Uuid) (key : String) (updatedUtc : Instant)
  | createRecords (records : List SubscriptionRecord)
  | appendEvents (events : List TransitionEvent)
  | setChargedThrough (id : Uuid) (date : Instant)
deriving DecidableEq

def Store.apply (s : Store) : Write → Except StoreError Store
  | .createBundle b => s.createBundle b
  | .updateKey id key updatedUtc => s.updateKey id key updatedUtc
  | .createRecords rs => s.createRecords rs
  | .appendEvents es => s.appendEvents es
  | .setChargedThrough id date => s.setChargedThrough id date

end SubscriptionBundles
