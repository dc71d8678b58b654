import SubscriptionBundles.Bundle.AddOnLimit
import SubscriptionBundles.Bundle.Batch
import SubscriptionBundles.Bundle.StartDate
import SubscriptionBundles.Service.Bundles
import SubscriptionBundles.Timeline.Schedule

/-!
# Creation

A call brings one batch per specifier.  Every batch is checked against the stored state before
anything is written; what earlier batches of the call take is carried along in a `Progress`.

* `targetBundle`              the bundle a batch goes into: one that exists, or a new one;
* `requestedStart`            the date asked for, or the present; add-ons do not start before their
                              base unless a date says so;
* `plannedRecords`            the records of a batch, each of its plans checked;
* `planBatch`, `planBatches`  a batch, and all batches of a call;
* `Service.create`            the call.
-/

namespace SubscriptionBundles

/-- where a batch goes -/
inductive Target
  | existing (bundle : Bundle)
  | new (planned : PlannedBundle)
deriving DecidableEq

namespace Target

def bundle : Target → Bundle
  | existing b => b
  | new p => p.bundle

/-- what errors call the bundle -/
def label (t : Target) : String := t.bundle.externalKey.getD t.bundle.id.written

/-- the key that a new bundle takes -/
def takenKey? : Target → Option String
  | existing _ => none
  | new p => p.bundle.externalKey

/-- how many identifiers the bundle itself needs -/
def drawn : Target → Nat
  | existing _ => 0
  | new _ => 1

/-- a new bundle has no records yet -/
def records (t : Target) (s : Storage) : Except SubscriptionError (List SubscriptionRecord) :=
  match t with
  | existing b => liftM (s.recordsForBundle b.id)
  | new _ => .ok []

end Target

/-- what earlier batches of a call have taken -/
structure Progress where
  keys : List String
  /-- add-on plans on their way into a bundle -/
  joining : List (Uuid × Plan)
  /-- how many identifiers are drawn -/
  drawn : Nat
deriving DecidableEq

namespace Progress

def start : Progress := ⟨[], [], 0⟩

def joiningBundle (p : Progress) (id : Uuid) : List Plan :=
  (p.joining.filter (·.1 == id)).map (·.2)

end Progress

structure PlannedBatch where
  target : Target
  records : List SubscriptionRecord
deriving DecidableEq

/-! ## the bundle of a batch -/

/-- the bundle of an id, which must be the account's and carry the key if one is given -/
def bundleById (s : Service) (ctx : Context) (id : Uuid) (key : Option String) :
    Except SubscriptionError Bundle := do
  match ← s.storage.bundle? id with
  | none => throw (.invalidSpecifierBatch ("unknown bundle " ++ id.written))
  | some b =>
    match key with
    | some k =>
      if b.externalKey ≠ some k then
        throw (.invalidSpecifierBatch
          ("bundle " ++ id.written ++ " does not carry external key " ++ k))
    | none => pure ()
    if b.accountId ≠ ctx.accountId then
      throw (.invalidSpecifierBatch ("bundle " ++ id.written ++ " belongs to another account"))
    return b

/-- the active bundle of a key, which must be the account's -/
def bundleByKey (s : Service) (ctx : Context) (key : String) : Except SubscriptionError Bundle := do
  match ← s.storage.activeBundleForKey? key ctx.now with
  | none => throw (.noBaseSubscription key)
  | some b =>
    if b.accountId ≠ ctx.accountId then throw (.activeBundleKeyConflict key)
    return b

/-- `id` is the identifier of the bundle if a new one is needed -/
def targetBundle (s : Service) (ctx : Context) (spec : BundleSpecifier) (batch : Batch) (id : Uuid)
    (claimed : List String) (rename : Bool) : Except SubscriptionError Target :=
  match spec.bundleId with
  | some bundleId => do return .existing (← bundleById s ctx bundleId spec.bundleExternalKey)
  | none =>
    if batch.establishesBundle then do
      return .new (← planBundle s ctx id ctx.accountId claimed rename spec.bundleExternalKey)
    else
      match spec.bundleExternalKey with
      | some key => do return .existing (← bundleByKey s ctx key)
      | none => throw (.invalidSpecifierBatch "add-ons need an existing bundle")

/-! ## the records of a batch -/

def requestedStart (ctx : Context) (spec : BundleSpecifier) (batch : Batch) (snapshot : Snapshot) :
    Instant :=
  match spec.billingEffectiveDate, snapshot.base? with
  | some d, _ => ctx.instantOf d
  | none, some base => if batch.establishesBundle then ctx.now else max ctx.now base.startDate
  | none, none => ctx.now

/-- what the plans of a batch are checked against -/
structure BatchChecks where
  catalog : Catalog
  batch : Batch
  target : Target
  snapshot : Snapshot
  requested : Instant
  /-- every add-on plan on its way into the bundle -/
  joining : List Plan
  processedDate : Instant
  migrated : Bool

namespace BatchChecks

/-- Once a batch has fixed a start, a plan beside a new base only has to suit the base's product. -/
def startDate (k : BatchChecks) (fixed : Option Instant) (plan : Plan) :
    Except SubscriptionError Instant :=
  match fixed, k.batch.base with
  | some started, some base => do
    checkAddOnForProduct k.catalog base.plan.product.name plan
    return started
  | _, _ =>
    bundleStartDate k.catalog plan k.target.label (k.snapshot.anchorFor? plan.category) k.requested

def newSubscription (k : BatchChecks) (id : Uuid) (e : Entitlement) (started : Instant) :
    NewSubscription where
  id := id
  bundleId := k.target.bundle.id
  bundleExternalKey := k.target.bundle.externalKey
  plan := e.plan
  initialPhase := e.specifier.phaseType
  bundleStartDate := started
  alignStartDate := k.requested
  effectiveDate := k.requested
  processedDate := k.processedDate
  migrated := k.migrated

/-- the start that later plans of the batch share -/
def fix (k : BatchChecks) (fixed : Option Instant) (started : Instant) : Option Instant :=
  if k.batch.establishesBundle then fixed.or (some started) else fixed

/-- the records of entitlements, named by the identifiers from `drawn` on -/
def plannedRecords (k : BatchChecks) (ids : Nat → Uuid) (drawn : Nat) (fixed : Option Instant) :
    List Entitlement → Except SubscriptionError (List SubscriptionRecord)
  | [] => .ok []
  | e :: rest => do
    let started ← k.startDate fixed e.plan
    checkAddOnLimit e.plan k.snapshot.subscriptions k.joining
    let record ← (k.newSubscription (ids drawn) e started).record k.catalog
    let later ← k.plannedRecords ids (drawn + 1) (k.fix fixed started) rest
    return record :: later

end BatchChecks

/-! ## batches -/

/-- what a batch takes: the key of a new bundle, its add-ons, its identifiers -/
def Progress.after (p : Progress) (target : Target) (batch : Batch) : Progress where
  keys := target.takenKey?.toList ++ p.keys
  joining := p.joining ++ batch.addOnPlans.map fun plan => (target.bundle.id, plan)
  drawn := p.drawn + target.drawn + batch.entitlements.length

/-- no batch if the specifier only refers to subscriptions that exist -/
def planBatch (s : Service) (ctx : Context) (c : Catalog) (ids : Nat → Uuid) (rename : Bool)
    (p : Progress) (spec : BundleSpecifier) :
    Except SubscriptionError (Option PlannedBatch × Progress) := do
  let batch ← Batch.classify c spec.entitlements
  if batch.isEmpty then return (none, p)
  let target ← targetBundle s ctx spec batch (ids p.drawn) p.keys rename
  let records ← target.records s.storage
  let snapshot := Snapshot.take target.bundle.id target.bundle.externalKey records ctx.now
  let after := p.after target batch
  let checks : BatchChecks := {
    catalog := c
    batch := batch
    target := target
    snapshot := snapshot
    requested := requestedStart ctx spec batch snapshot
    joining := after.joiningBundle target.bundle.id
    processedDate := ctx.now
    migrated := spec.migrated }
  let planned ← checks.plannedRecords ids (p.drawn + target.drawn) none batch.entitlements
  return (some ⟨target, planned⟩, after)

def planBatches (s : Service) (ctx : Context) (c : Catalog) (ids : Nat → Uuid) (rename : Bool) :
    Progress → List BundleSpecifier → Except SubscriptionError (List PlannedBatch)
  | _, [] => .ok []
  | p, spec :: rest => do
    let (planned, p) ← planBatch s ctx c ids rename p spec
    let later ← planBatches s ctx c ids rename p rest
    return planned.toList ++ later

/-! ## the call -/

namespace PlannedBatch

def recordEffects (r : SubscriptionRecord) : List Effect :=
  [.learn .subscriptionToBundle r.id r.bundleId, .count (.operation .create)]

def effects (b : PlannedBatch) (now : Instant) : List Effect :=
  (match b.target with
    | .existing _ => []
    | .new planned => planned.effects now) ++
    .write (.createRecords b.records) :: b.records.flatMap recordEffects

def answer (b : PlannedBatch) (now : Instant) : SubscriptionBundle :=
  ⟨b.target.bundle, Subscription.listing b.records now⟩

end PlannedBatch

/-- one bundle per batch that creates something; `ids` are the identifiers to draw from -/
def Service.create (s : Service) (ctx : Context) (ids : Nat → Uuid)
    (specifiers : List BundleSpecifier) (rename : Bool) : Outcome (List SubscriptionBundle) :=
  s.carryOut .createBaseSubscriptionsWithAddOns do
    let c ← s.catalog
    let batches ← planBatches s ctx c ids rename .start specifiers
    return ⟨batches.flatMap (·.effects ctx.now), fun _ => .ok (batches.map (·.answer ctx.now))⟩

end SubscriptionBundles
