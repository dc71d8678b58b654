import SubscriptionBundles.Calendar.Instant
import SubscriptionBundles.Text.Case

/-!
# Plans

What a catalog sells: products in three categories, plans that price a product over a row of
phases, and the policies and alignments that a catalog chooses.

* `Plan`                       a product, its phases and how many may stand in one bundle;
* `PhaseDuration.addTo?`       when a phase that starts at an instant ends;
* `Plan.phaseIndex?`           where a phase type stands in a plan;
* `PlanSpecifier`              how a caller names a plan;
* the `label` of each word     its text in messages and on the wire.
-/

namespace SubscriptionBundles

/-! ## words -/

inductive ProductCategory
  | base
  | addOn
  | standalone
deriving DecidableEq

namespace ProductCategory

def label : ProductCategory → String
  | base => "base"
  | addOn => "add_on"
  | standalone => "standalone"

def all : List ProductCategory := [base, addOn, standalone]

/-- reads a category in any case of letters; an add-on may be written without its underscore -/
def ofText? (text : String) : Option ProductCategory :=
  let text := Text.asciiLower text
  if text = "addon" then some addOn else all.find? fun c => c.label == text

/-- base and standalone subscriptions carry a bundle, add-ons join one -/
def anchorsBundle (c : ProductCategory) : Bool := c != addOn

end ProductCategory

inductive PhaseType
  | trial
  | discount
  | fixedTerm
  | evergreen
deriving DecidableEq

namespace PhaseType

def label : PhaseType → String
  | trial => "trial"
  | discount => "discount"
  | fixedTerm => "fixed_term"
  | evergreen => "evergreen"

def all : List PhaseType := [trial, discount, fixedTerm, evergreen]

end PhaseType

inductive BillingPeriod
  | monthly
  | quarterly
  | annual
  | noBillingPeriod
deriving DecidableEq

namespace BillingPeriod

def label : BillingPeriod → String
  | monthly => "monthly"
  | quarterly => "quarterly"
  | annual => "annual"
  | noBillingPeriod => "no_billing_period"

def all : List BillingPeriod := [monthly, quarterly, annual, noBillingPeriod]

end BillingPeriod

/-- when a change or cancellation takes effect -/
inductive BillingPolicy
  | startOfTerm
  | endOfTerm
  | immediate
  | illegal
deriving DecidableEq

namespace BillingPolicy

def label : BillingPolicy → String
  | startOfTerm => "start_of_term"
  | endOfTerm => "end_of_term"
  | immediate => "immediate"
  | illegal => "illegal"

def all : List BillingPolicy := [startOfTerm, endOfTerm, immediate, illegal]

end BillingPolicy

/-- whose billing cycle day a subscription follows -/
inductive BillingAlignment
  | account
  | bundle
  | subscription
deriving DecidableEq

namespace BillingAlignment

def label : BillingAlignment → String
  | account => "account"
  | bundle => "bundle"
  | subscription => "subscription"

def all : List BillingAlignment := [account, bundle, subscription]

end BillingAlignment

/-- the date that phases are laid out from -/
inductive PlanAlignment
  | startOfBundle
  | startOfSubscription
deriving DecidableEq

namespace PlanAlignment

def label : PlanAlignment → String
  | startOfBundle => "start_of_bundle"
  | startOfSubscription => "start_of_subscription"

def all : List PlanAlignment := [startOfBundle, startOfSubscription]

end PlanAlignment

/-! ## limits and durations -/

/-- how many subscriptions of one add-on plan a bundle may hold -/
inductive BundleLimit
  | unlimited
  | atMost (count : UInt32)
deriving DecidableEq

/-- catalogs write no limit as a number that is not positive -/
def BundleLimit.ofCatalogValue (value : Int) : BundleLimit :=
  if 0 < value then atMost (UInt32.ofNat value.toNat) else unlimited

inductive PhaseDuration
  | days (count : UInt32)
  | months (count : UInt32)
  | years (count : UInt32)
  | unlimited
deriving DecidableEq

/-- the end of a phase that starts at `start`, if it ends within the representable years -/
def PhaseDuration.addTo? (start : Instant) : PhaseDuration → Option Instant
  | days n => start.addDays? n.toNat
  | months n => start.addMonths? n.toNat
  | years n => start.addMonths? (12 * n.toNat)
  | unlimited => none

/-! ## plans -/

structure Product where
  name : String
  category : ProductCategory
deriving DecidableEq

structure PlanPhase where
  phaseType : PhaseType
  duration : PhaseDuration
deriving DecidableEq

structure Plan where
  name : String
  product : Product
  priceListName : String
  billingPeriod : BillingPeriod
  phases : List PlanPhase
  plansAllowedInBundle : BundleLimit
deriving DecidableEq

namespace Plan

def category (p : Plan) : ProductCategory := p.product.category

def initialPhase? (p : Plan) : Option PlanPhase := p.phases.head?

/-- the first phase of the type, or the first phase of all if no type is asked for -/
def phaseIndex? (p : Plan) : Option PhaseType → Option Nat
  | some t => p.phases.findIdx? fun phase => phase.phaseType == t
  | none => if p.phases.isEmpty then none else some 0

/-- the name under which a catalog files the plan -/
def key (p : Plan) : String := Text.lower p.name

end Plan

/-! ## naming a plan -/

structure PlanSpecifier where
  planName : Option String
  productName : Option String
  billingPeriod : Option BillingPeriod
  priceListName : Option String
  phaseType : Option PhaseType
deriving DecidableEq

namespace PlanSpecifier

def forPlan (name : String) : PlanSpecifier := ⟨some name, none, none, none, none⟩

def withPhase (s : PlanSpecifier) (t : PhaseType) : PlanSpecifier := { s with phaseType := some t }

/-- nothing in it tells one plan from another -/
def isEmpty (s : PlanSpecifier) : Bool :=
  s.planName.isNone && s.productName.isNone && s.billingPeriod.isNone

end PlanSpecifier

/-- another price for one phase of a plan -/
structure PriceOverride where
  phaseType : PhaseType
  currency : String
  fixedPrice : Option String
  recurringPrice : Option String
deriving DecidableEq

end SubscriptionBundles
