import SubscriptionBundles.Error

/-!
# Batches

What a caller wants created in one bundle, and its order: the base first, then add-ons, then
standalones.

* `EntitlementSpecifier`  one requested plan, or a reference to a subscription that exists;
* `BundleSpecifier`       the entitlements of one bundle and how the bundle is found;
* `Batch.classify`        the resolved entitlements in order; at most one base, and standalones
                          alone.
-/

namespace SubscriptionBundles

structure EntitlementSpecifier where
  plan : Option PlanSpecifier
  overrides : List PriceOverride
deriving DecidableEq

namespace EntitlementSpecifier

def forPlan (name : String) : EntitlementSpecifier := ⟨some (.forPlan name), []⟩

/-- a subscription that exists already; it is skipped -/
def existing : EntitlementSpecifier := ⟨none, []⟩

end EntitlementSpecifier

structure BundleSpecifier where
  bundleId : Option Uuid
  bundleExternalKey : Option String
  entitlements : List EntitlementSpecifier
  billingEffectiveDate : Option Date
  migrated : Bool
deriving DecidableEq

namespace BundleSpecifier

def new (entitlements : List EntitlementSpecifier) : BundleSpecifier :=
  ⟨none, none, entitlements, none, false⟩

def withBundleId (s : BundleSpecifier) (id : Uuid) : BundleSpecifier := { s with bundleId := some id }

def withExternalKey (s : BundleSpecifier) (key : String) : BundleSpecifier :=
  { s with bundleExternalKey := some key }

def withBillingDate (s : BundleSpecifier) (d : Date) : BundleSpecifier :=
  { s with billingEffectiveDate := some d }

end BundleSpecifier

/-! ## batches -/

/-- an entitlement whose plan is resolved -/
structure Entitlement where
  plan : Plan
  specifier : PlanSpecifier
  overrides : List PriceOverride
deriving DecidableEq

def Entitlement.category (e : Entitlement) : ProductCategory := e.plan.category

structure Batch where
  base : Option Entitlement
  addOns : List Entitlement
  standalones : List Entitlement
deriving DecidableEq

namespace Batch

def empty : Batch := ⟨none, [], []⟩

/-- in the order they are created in -/
def entitlements (b : Batch) : List Entitlement := b.base.toList ++ b.addOns ++ b.standalones

def isEmpty (b : Batch) : Bool := b.entitlements.isEmpty

/-- it brings a base or standalone plan -/
def establishesBundle (b : Batch) : Bool := b.base.isSome || !b.standalones.isEmpty

def addOnPlans (b : Batch) : List Plan := b.addOns.map (·.plan)

/-- a batch with one more entitlement at the end of its group -/
def add (b : Batch) (e : Entitlement) : Except SubscriptionError Batch :=
  match e.category with
  | .base =>
    if b.base.isSome then
      .error (.invalidSpecifierBatch ("more than one base plan: " ++ e.plan.name))
    else .ok { b with base := some e }
  | .addOn => .ok { b with addOns := b.addOns ++ [e] }
  | .standalone => .ok { b with standalones := b.standalones ++ [e] }

/-- resolves entitlements one by one and adds them to a batch -/
def gather (c : Catalog) (b : Batch) : List EntitlementSpecifier → Except SubscriptionError Batch
  | [] => .ok b
  | s :: rest =>
    match s.plan with
    | none => gather c b rest
    | some specifier => do
      let plan ← c.resolvePlan specifier s.overrides
      let b ← b.add ⟨plan, specifier, s.overrides⟩
      gather c b rest

/-- standalones together with a base or add-ons -/
def isMixed (b : Batch) : Bool := !b.standalones.isEmpty && (b.base.isSome || !b.addOns.isEmpty)

def classify (c : Catalog) (specifiers : List EntitlementSpecifier) :
    Except SubscriptionError Batch := do
  let b ← gather c empty specifiers
  if b.isMixed then
    throw (.invalidSpecifierBatch "standalone plans cannot be combined with base or add-on plans")
  return b

end Batch

end SubscriptionBundles
