import SubscriptionBundles.Catalog.Basic
import SubscriptionBundles.Wire.Value

/-!
# Catalogs in messages

Words travel as their labels, plans and specifiers as objects.  A limit or duration without a
number is the word `unlimited`, one with a number an object whose only field names its unit.
-/

namespace SubscriptionBundles

/-! ## words -/

instance : ToValue ProductCategory := ⟨fun c => .text c.label⟩
instance : OfValue ProductCategory := ⟨ofLabel? ProductCategory.label ProductCategory.all⟩

instance : ToValue PhaseType := ⟨fun t => .text t.label⟩
instance : OfValue PhaseType := ⟨ofLabel? PhaseType.label PhaseType.all⟩

instance : ToValue BillingPeriod := ⟨fun p => .text p.label⟩
instance : OfValue BillingPeriod := ⟨ofLabel? BillingPeriod.label BillingPeriod.all⟩

instance : ToValue BillingPolicy := ⟨fun p => .text p.label⟩
instance : OfValue BillingPolicy := ⟨ofLabel? BillingPolicy.label BillingPolicy.all⟩

instance : ToValue BillingAlignment := ⟨fun a => .text a.label⟩
instance : OfValue BillingAlignment := ⟨ofLabel? BillingAlignment.label BillingAlignment.all⟩

instance : ToValue PlanAlignment := ⟨fun a => .text a.label⟩
instance : OfValue PlanAlignment := ⟨ofLabel? PlanAlignment.label PlanAlignment.all⟩

/-! ## limits and durations -/

/-- a number with its unit -/
def unit? (v : Value) : Option (String × UInt32) :=
  match v with
  | .object [(unit, n)] => (ofValue? n).map fun n => (unit, n)
  | _ => none

def withUnit (unit : String) (n : UInt32) : Value := .object [(unit, toValue n)]

instance : ToValue BundleLimit := ⟨fun
  | .unlimited => .text "unlimited"
  | .atMost n => withUnit "at_most" n⟩

instance : OfValue BundleLimit := ⟨fun v =>
  if word? v = some "unlimited" then some .unlimited
  else match unit? v with
    | some ("at_most", n) => some (.atMost n)
    | _ => none⟩

instance : ToValue PhaseDuration := ⟨fun
  | .unlimited => .text "unlimited"
  | .days n => withUnit "days" n
  | .months n => withUnit "months" n
  | .years n => withUnit "years" n⟩

instance : OfValue PhaseDuration := ⟨fun v =>
  if word? v = some "unlimited" then some .unlimited
  else match unit? v with
    | some ("days", n) => some (.days n)
    | some ("months", n) => some (.months n)
    | some ("years", n) => some (.years n)
    | _ => none⟩

/-! ## plans -/

instance : ToValue Product := ⟨fun p =>
  .object [("name", toValue p.name), ("category", toValue p.category)]⟩

instance : OfValue Product := ⟨fun v => do
  let f ← v.fieldsNamed? ["name", "category"] []
  return ⟨← f.required "name", ← f.required "category"⟩⟩

instance : ToValue PlanPhase := ⟨fun p =>
  .object [("phase_type", toValue p.phaseType), ("duration", toValue p.duration)]⟩

instance : OfValue PlanPhase := ⟨fun v => do
  let f ← v.fieldsNamed? ["phase_type", "duration"] []
  return ⟨← f.required "phase_type", ← f.required "duration"⟩⟩

instance : ToValue Plan := ⟨fun p =>
  .object [
    ("name", toValue p.name),
    ("product", toValue p.product),
    ("price_list_name", toValue p.priceListName),
    ("billing_period", toValue p.billingPeriod),
    ("phases", toValue p.phases),
    ("plans_allowed_in_bundle", toValue p.plansAllowedInBundle)]⟩

instance : OfValue Plan := ⟨fun v => do
  let f ← v.fieldsNamed? ["name", "product", "price_list_name", "billing_period", "phases",
    "plans_allowed_in_bundle"] []
  return {
    name := ← f.required "name"
    product := ← f.required "product"
    priceListName := ← f.required "price_list_name"
    billingPeriod := ← f.required "billing_period"
    phases := ← f.required "phases"
    plansAllowedInBundle := ← f.required "plans_allowed_in_bundle" }⟩

/-! ## specifiers -/

instance : ToValue PlanSpecifier := ⟨fun s =>
  .object [
    ("plan_name", toValue s.planName),
    ("product_name", toValue s.productName),
    ("billing_period", toValue s.billingPeriod),
    ("price_list_name", toValue s.priceListName),
    ("phase_type", toValue s.phaseType)]⟩

instance : OfValue PlanSpecifier := ⟨fun v => do
  let f ← v.fieldsNamed? ["plan_name", "product_name", "billing_period", "price_list_name",
    "phase_type"] []
  return {
    planName := ← f.optional "plan_name"
    productName := ← f.optional "product_name"
    billingPeriod := ← f.optional "billing_period"
    priceListName := ← f.optional "price_list_name"
    phaseType := ← f.optional "phase_type" }⟩

instance : ToValue PriceOverride := ⟨fun o =>
  .object [
    ("phase_type", toValue o.phaseType),
    ("currency", toValue o.currency),
    ("fixed_price", toValue o.fixedPrice),
    ("recurring_price", toValue o.recurringPrice)]⟩

instance : OfValue PriceOverride := ⟨fun v => do
  let f ← v.fieldsNamed? ["phase_type", "currency", "fixed_price", "recurring_price"] []
  return {
    phaseType := ← f.required "phase_type"
    currency := ← f.required "currency"
    fixedPrice := ← f.optional "fixed_price"
    recurringPrice := ← f.optional "recurring_price" }⟩

/-! ## whole catalogs -/

/-- plans, product pairs and policies are filed in the order they are listed in; what is missing
keeps its default -/
instance : OfValue Catalog := ⟨fun v => do
  let f ← v.fieldsNamed? [] ["plans", "included", "available", "change_policy",
    "change_policy_for", "cancel_policy", "billing_alignment", "plan_alignment"]
  let plans : List Plan ← f.defaulted "plans" []
  let included : List (String × String) ← f.defaulted "included" []
  let available : List (String × String) ← f.defaulted "available" []
  let policies : List (String × BillingPolicy) ← f.defaulted "change_policy_for" []
  let changePolicy ← f.optional "change_policy"
  let cancelPolicy ← f.optional "cancel_policy"
  let billingAlignment ← f.optional "billing_alignment"
  let planAlignment ← f.optional "plan_alignment"
  let c := plans.foldl Catalog.withPlan .empty
  let c := included.foldl (fun c p => c.withIncluded p.1 p.2) c
  let c := available.foldl (fun c p => c.withAvailable p.1 p.2) c
  let c := policies.foldl (fun c p => c.withChangePolicyFor p.1 p.2) c
  return { c with
    changePolicy := changePolicy.getD c.changePolicy
    cancelPolicy := cancelPolicy.getD c.cancelPolicy
    billingAlignment := billingAlignment.getD c.billingAlignment
    planAlignment := planAlignment.getD c.planAlignment }⟩

end SubscriptionBundles
