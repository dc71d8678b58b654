import SubscriptionBundles.Bundle.Snapshot
import SubscriptionBundles.Error
import SubscriptionBundles.Metrics
import SubscriptionBundles.Store.Storage

/-!
# The service

A service answers calls over a catalog and a store.  A call that changes something first decides:
it reads, checks everything and lists its effects.  Only then are the effects performed, in order,
up to the first write that the store refuses.

* `Effect`             one thing to be done: a write, an identity to remember, a sample to count;
* `Service.perform`    the effects of a list;
* `Decision`           the effects of a call and its answer, read from the state they leave;
* `Service.carryOut`     a call that changes something, `Service.ask` one that only reads;
* `Service.observe`    counts a call and how it ended.
-/

namespace SubscriptionBundles

structure Service where
  catalogs : CatalogSource
  storage : Storage
  identities : IdentityCache
  tally : Tally
  maxKeyLength : Nat

inductive Effect
  | write (write : Write)
  | learn (lookup : Lookup) (id value : Uuid)
  | count (sample : Sample)
deriving DecidableEq

/-- an answer or an error, and the service afterwards -/
abbrev Outcome (α : Type) := Except SubscriptionError α × Service

structure Decision (α : Type) where
  effects : List Effect
  answer : Storage → Except SubscriptionError α

namespace Service

/-- a service over an empty store, nothing counted yet -/
def new (catalog : Catalog) (maxKeyLength : Nat) (cachesIdentities : Bool) : Service where
  catalogs := ⟨catalog, false⟩
  storage := .empty
  identities := .empty cachesIdentities
  tally := []
  maxKeyLength := maxKeyLength

def count (s : Service) (samples : List Sample) : Service := { s with tally := samples ++ s.tally }

/-! ## effects -/

def perform (s : Service) : List Effect → Outcome Unit
  | [] => (.ok (), s)
  | .write w :: rest =>
    match s.storage.write w with
    | (.ok (), storage) => perform { s with storage := storage } rest
    | (.error e, storage) => (.error (.store e), { s with storage := storage })
  | .learn lookup id value :: rest =>
    perform { s with identities := s.identities.learn lookup id value } rest
  | .count sample :: rest => perform (s.count [sample]) rest

/-- performs the effects decided on, then reads the answer -/
def enact {α : Type} (s : Service) (d : Decision α) : Outcome α :=
  match s.perform d.effects with
  | (.ok (), s) => (d.answer s.storage, s)
  | (.error e, s) => (.error e, s)

/-! ## calls -/

def samplesOf {α : Type} (m : Method) : Except SubscriptionError α → List Sample
  | .ok _ => [.request m .ok, .duration m]
  | .error e => [.failure e.label m, .request m .error, .duration m]

def observe {α : Type} (m : Method) (outcome : Outcome α) : Outcome α :=
  (outcome.1, outcome.2.count (samplesOf m outcome.1))

/-- a call that changes nothing but its counters -/
def ask {α : Type} (s : Service) (m : Method) (answer : Except SubscriptionError α) : Outcome α :=
  observe m (answer, s)

/-- a call that is refused, changing nothing but its counters, or performs what was decided -/
def carryOut {α : Type} (s : Service) (m : Method) (decision : Except SubscriptionError (Decision α)) :
    Outcome α :=
  observe m <|
    match decision with
    | .ok d => s.enact d
    | .error e => (.error e, s)

/-! ## reading -/

def catalog (s : Service) : Except SubscriptionError Catalog := liftM s.catalogs.fetch

end Service

/-! ## reads shared by calls -/

namespace Storage

def requireBundle (s : Storage) (id : Uuid) : Except SubscriptionError Bundle := do
  match ← s.bundle? id with
  | some b => return b
  | none => throw (.invalidBundleId id)

def requireRecord (s : Storage) (id : Uuid) : Except SubscriptionError SubscriptionRecord := do
  match ← s.record? id with
  | some r => return r
  | none => throw (.invalidSubscriptionId id)

/-- the bundle of a subscription as of an instant, its key left out -/
def snapshotAround (s : Storage) (id : Uuid) (now : Instant) : Except SubscriptionError Snapshot := do
  let record ← s.requireRecord id
  let records ← s.recordsForBundle record.bundleId
  return .take record.bundleId none records now

end Storage

def Snapshot.require (s : Snapshot) (id : Uuid) : Except SubscriptionError Subscription :=
  match s.find? id with
  | some found => .ok found
  | none => .error (.invalidSubscriptionId id)

end SubscriptionBundles
