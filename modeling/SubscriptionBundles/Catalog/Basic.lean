import SubscriptionBundles.Catalog.Plan

/-!
# Catalogs

A catalog is a value: plans filed under the lower case of their names, which add-on products a base
product includes or offers, and the policies and alignments in force.

* `Catalog.withPlan`      files a plan, in place of one filed under the same name;
* `Catalog.findPlan`      the plan of a name;
* `Catalog.resolvePlan`   the plan a specifier describes, its phase and price overrides checked;
* `Catalog.changePolicyFrom`, `Catalog.includes`, `Catalog.offers`  the rules of the catalog;
* `CatalogSource`         where a service fetches the catalog in force, if it can be reached.

No two plans of a catalog are filed under one name (`plans_distinct`), so a plan that was found by
its name is the only one of that name (`findPlan_name_of_mem`).
-/

namespace SubscriptionBundles

inductive CatalogError
  | planNotFound (name : String)
  | noInitialPhase (plan : String)
  | emptySpecifier
  | invalidPriceOverride (plan phase : String)
  | unavailable (reason : String)
deriving DecidableEq

def CatalogError.message : CatalogError → String
  | planNotFound name => "Plan not found: " ++ name
  | noInitialPhase plan => "Plan " ++ plan ++ " has no phases"
  | emptySpecifier => "Plan specifier does not identify a plan"
  | invalidPriceOverride plan phase =>
    "Price override for phase " ++ phase ++ " does not match plan " ++ plan
  | unavailable reason => "Catalog unavailable: " ++ reason

structure Catalog where
  plans : List Plan
  /-- pairs of a base product and an add-on product that is part of it -/
  included : List (String × String)
  /-- pairs of a base product and an add-on product sold on top of it -/
  available : List (String × String)
  changePolicy : BillingPolicy
  /-- policies for leaving a plan, under the plan's filed name, the latest first -/
  changePolicies : List (String × BillingPolicy)
  cancelPolicy : BillingPolicy
  billingAlignment : BillingAlignment
  planAlignment : PlanAlignment
  plans_distinct : (plans.map Plan.key).Nodup
deriving DecidableEq

namespace Catalog

def empty : Catalog where
  plans := []
  included := []
  available := []
  changePolicy := .immediate
  changePolicies := []
  cancelPolicy := .endOfTerm
  billingAlignment := .account
  planAlignment := .startOfBundle
  plans_distinct := .nil

instance : Inhabited Catalog := ⟨empty⟩

/-! ## filling a catalog -/

/-- a list of plans with one more, in place of one of the same filed name -/
def filed (plans : List Plan) (p : Plan) : List Plan := plans.filter (·.key != p.key) ++ [p]

theorem filed_distinct {plans : List Plan} (h : (plans.map Plan.key).Nodup) (p : Plan) :
    ((filed plans p).map Plan.key).Nodup := by
  rw [filed, List.map_append, List.nodup_append]
  refine ⟨h.sublist (List.filter_sublist.map _), by simp, ?_⟩
  intro a ha b hb
  obtain ⟨q, hq, rfl⟩ := List.mem_map.1 ha
  have hq := (List.mem_filter.1 hq).2
  simp only [List.map_cons, List.map_nil, List.mem_singleton] at hb
  simpa [hb] using hq

def withPlan (c : Catalog) (p : Plan) : Catalog :=
  { c with plans := filed c.plans p, plans_distinct := filed_distinct c.plans_distinct p }

def withIncluded (c : Catalog) (base addOn : String) : Catalog :=
  { c with included := (base, addOn) :: c.included }

def withAvailable (c : Catalog) (base addOn : String) : Catalog :=
  { c with available := (base, addOn) :: c.available }

def withChangePolicyFor (c : Catalog) (plan : String) (policy : BillingPolicy) : Catalog :=
  { c with changePolicies := (Text.lower plan, policy) :: c.changePolicies }

/-! ## plans -/

def plan? (c : Catalog) (name : String) : Option Plan :=
  c.plans.find? fun p => p.key == Text.lower name

def findPlan (c : Catalog) (name : String) : Except CatalogError Plan :=
  match c.plan? name with
  | some p => .ok p
  | none => .error (.planNotFound name)

def defaultPriceList : String := "DEFAULT"

/-- the plan has the product, billing period and price list that are asked for -/
def fits (s : PlanSpecifier) (p : Plan) : Bool :=
  s.productName.all (Text.sameAscii p.product.name) && s.billingPeriod.all (p.billingPeriod == ·)
    && Text.sameAscii p.priceListName (s.priceListName.getD defaultPriceList)

/-- the plan a specifier names, its phases not looked at -/
def namedPlan (c : Catalog) (s : PlanSpecifier) : Except CatalogError Plan :=
  match s.planName with
  | some name => c.findPlan name
  | none =>
    match c.plans.find? (fits s) with
    | some p => .ok p
    | none => .error (.planNotFound (s.productName.getD ""))

/-- the first override of a phase that the plan does not have -/
def strayOverride? (p : Plan) (overrides : List PriceOverride) : Option PriceOverride :=
  overrides.find? fun o => (p.phaseIndex? (some o.phaseType)).isNone

def resolvePlan (c : Catalog) (s : PlanSpecifier) (overrides : List PriceOverride) :
    Except CatalogError Plan := do
  if s.isEmpty then throw .emptySpecifier
  let p ← c.namedPlan s
  if p.phases.isEmpty then throw (.noInitialPhase p.name)
  if (p.phaseIndex? s.phaseType).isNone then
    let phase := (s.phaseType.map PhaseType.label).getD ""
    throw (.planNotFound (p.name ++ " (no " ++ phase ++ " phase)"))
  match strayOverride? p overrides with
  | some o => throw (.invalidPriceOverride p.name o.phaseType.label)
  | none => return p

/-! ## rules -/

def changePolicyFrom (c : Catalog) (p : Plan) : BillingPolicy :=
  (c.changePolicies.lookup p.key).getD c.changePolicy

/-- the add-on is part of the base product -/
def includes (c : Catalog) (baseProduct : String) (addOn : Plan) : Bool :=
  c.included.contains (baseProduct, addOn.product.name)

/-- the add-on is sold on top of the base product -/
def offers (c : Catalog) (baseProduct : String) (addOn : Plan) : Bool :=
  c.available.contains (baseProduct, addOn.product.name)

/-! ## plans found by name -/

theorem mem_of_plan? {c : Catalog} {name : String} {p : Plan} (h : c.plan? name = some p) :
    p ∈ c.plans := List.mem_of_find?_eq_some h

theorem eq_of_key_eq {plans : List Plan} (h : (plans.map Plan.key).Nodup) {p q : Plan}
    (hp : p ∈ plans) (hq : q ∈ plans) (same : p.key = q.key) : p = q := by
  induction plans with
  | nil => cases hp
  | cons r plans ih =>
    obtain ⟨hr, h⟩ := List.nodup_cons.1 h
    rcases List.mem_cons.1 hp with rfl | hp' <;> rcases List.mem_cons.1 hq with rfl | hq'
    · rfl
    · exact absurd (List.mem_map.2 ⟨q, hq', same.symm⟩) hr
    · exact absurd (List.mem_map.2 ⟨p, hp', same⟩) hr
    · exact ih h hp' hq'

theorem findPlan_name_of_mem {c : Catalog} {p : Plan} (hp : p ∈ c.plans) :
    c.findPlan p.name = .ok p := by
  unfold findPlan plan?
  cases found : c.plans.find? fun q => q.key == Text.lower p.name with
  | none => exact absurd (List.find?_eq_none.1 found p hp) (by simp [Plan.key])
  | some q =>
    have same : q.key = p.key := by simpa [Plan.key] using List.find?_some found
    rw [eq_of_key_eq c.plans_distinct (List.mem_of_find?_eq_some found) hp same]

end Catalog

/-! ## fetching a catalog -/

structure CatalogSource where
  catalog : Catalog
  isDown : Bool

def CatalogSource.fetch (s : CatalogSource) : Except CatalogError Catalog :=
  if s.isDown then .error (.unavailable "down") else .ok s.catalog

end SubscriptionBundles
