import SubscriptionBundles.Proofs.LiveCounts
import SubscriptionBundles.Proofs.PlanNames

/-!
# Stored subscriptions are on plans of the catalog

* `Catalog.Describes`         some specifier of a plan is accepted;
* `Store.OnDescribed`         every record is on such a plan, and so `Store.OnPlans` of the catalog;
* `Planned.onPlan`            the records that a batch brings are on the plans it describes;
* `Step.created_or_stays`     no step moves a record to another plan;
* `Step.onDescribed`          so every step keeps them where they are;
* `Service.run_onDescribed`, `Service.run_onPlans`  so it is throughout a run.
-/

namespace SubscriptionBundles

open Service (Turn)

/-- of the plan's category, and created on it -/
def SubscriptionRecord.OnPlan (r : SubscriptionRecord) (plan : Plan) : Prop :=
  r.category = plan.category ∧ r.Follows plan.name

def Store.OnPlans (s : Store) (c : Catalog) : Prop := ∀ r ∈ s.records, ∃ plan ∈ c.plans, r.OnPlan plan

/-- some specifier of the plan is accepted -/
def Catalog.Describes (c : Catalog) (plan : Plan) : Prop :=
  ∃ specifier overrides, c.resolvePlan specifier overrides = .ok plan

theorem Catalog.Describes.mem_plans {c : Catalog} {plan : Plan} (h : c.Describes plan) :
    plan ∈ c.plans := by
  obtain ⟨_, _, resolved⟩ := h
  exact mem_of_resolvePlan resolved

/-- every record is on a plan that callers can describe -/
def Store.OnDescribed (s : Store) (c : Catalog) : Prop :=
  ∀ r ∈ s.records, ∃ plan, c.Describes plan ∧ r.OnPlan plan

theorem Store.OnDescribed.onPlans {s : Store} {c : Catalog} (h : s.OnDescribed c) : s.OnPlans c := by
  intro r hr
  obtain ⟨plan, described, on⟩ := h r hr
  exact ⟨plan, described.mem_plans, on⟩

theorem described_of_resolved {c : Catalog} {specifiers : List EntitlementSpecifier} :
    ∀ e ∈ resolved c specifiers, c.Describes e.plan := by
  intro e he
  obtain ⟨spec, _, resolves⟩ := List.mem_filterMap.1 he
  unfold EntitlementSpecifier.resolve? at resolves
  cases asked : spec.plan with
  | none =>
    rw [asked] at resolves
    cases resolves
  | some specifier =>
    rw [asked, Option.bind_some] at resolves
    cases found : c.resolvePlan specifier spec.overrides with
    | error _ =>
      rw [found] at resolves
      cases resolves
    | ok plan =>
      rw [found] at resolves
      cases resolves
      exact ⟨specifier, spec.overrides, found⟩

theorem mem_plans_of_resolved {c : Catalog} {specifiers : List EntitlementSpecifier} :
    ∀ e ∈ resolved c specifiers, e.plan ∈ c.plans :=
  fun e he => (described_of_resolved e he).mem_plans

theorem NewSubscription.record_onPlan {c : Catalog} {n : NewSubscription} {r : SubscriptionRecord}
    (h : n.record c = .ok r) (dated : n.effectiveDate = n.alignStartDate) : r.OnPlan n.plan := by
  refine ⟨?_, record_follows h dated⟩
  obtain ⟨_, _, _, rfl⟩ := record_eq_ok h
  rfl

section
variable {s : Service} {ctx : Context} {c : Catalog} {ids : Nat → Uuid} {rename : Bool}
  {p : Progress} {spec : BundleSpecifier} {batch : Batch} {b : PlannedBatch}

theorem Planned.described (h : Planned s ctx c ids rename p spec batch b) :
    ∀ e ∈ batch.entitlements, c.Describes e.plan := by
  intro e he
  exact described_of_resolved e ((Batch.classify_perm h.classified).subset he)

theorem Planned.mem_plans (h : Planned s ctx c ids rename p spec batch b) :
    ∀ e ∈ batch.entitlements, e.plan ∈ c.plans :=
  fun e he => (h.described e he).mem_plans

/-- every record of a batch is on the plan of one of its entitlements -/
theorem Planned.onPlan (h : Planned s ctx c ids rename p spec batch b) :
    ∀ r ∈ b.records, ∃ e ∈ batch.entitlements, r.OnPlan e.plan := by
  intro r hr
  obtain ⟨e, he, id, started, made⟩ := BatchChecks.plannedRecords_of_mem h.records r hr
  exact ⟨e, he, NewSubscription.record_onPlan made rfl⟩

end

/-! ## later on -/

/-- the same subscription later on, with its bundle started when it was and on no other plan -/
structure SubscriptionRecord.Stays (r later : SubscriptionRecord) : Prop extends r.Grew later where
  started : later.bundleStartDate = r.bundleStartDate
  onPlan : ∀ plan, r.OnPlan plan → later.OnPlan plan

theorem SubscriptionRecord.Stays.refl (r : SubscriptionRecord) : r.Stays r :=
  ⟨.refl r, rfl, fun _ on => on⟩

/-- events that continue stored subscriptions leave them on their plans -/
theorem SubscriptionRecord.Stays.withEvents {s : Store} (sound : s.Sound) {now : Instant}
    {events : List TransitionEvent} (continues : ∀ e ∈ events, e.Continues s now)
    {r : SubscriptionRecord} (hr : r ∈ s.records) : r.Stays (r.withEvents events) := by
  refine ⟨.withEvents events r, rfl, ?_⟩
  intro plan on
  refine ⟨on.1, on.2.grown ⟨rfl, rfl, rfl⟩ rfl ?_⟩
  intro e he
  obtain ⟨he, own⟩ := List.mem_filter.1 he
  have own : e.subscriptionId = r.id := by simpa using own
  obtain ⟨found, hf, same, kind⟩ := continues e he
  have one : found = r := sound.record_eq hf hr (same.trans own)
  subst one
  refine ⟨own, ?_⟩
  rcases kind with ⟨day, bcd⟩ | ⟨cancel, late⟩
  · rw [bcd]
    exact ⟨rfl, nofun⟩
  · rw [cancel]
    refine ⟨rfl, fun _ => ?_⟩
    rw [← on.2.startDate_eq now]
    exact late

/-- the same subscriptions later on -/
def Store.Stays (s later : Store) : Prop :=
  ∃ stay, later.records = s.records.map stay ∧ ∀ r ∈ s.records, r.Stays (stay r)

namespace Store.Stays
variable {s later : Store}

theorem of_records (same : later.records = s.records) : s.Stays later := by
  refine ⟨id, ?_, fun r _ => .refl r⟩
  rw [same, List.map_id]

theorem charge (s : Store) (id : Uuid) (date : Instant) : s.Stays (s.charge id date) := by
  refine ⟨_, rfl, ?_⟩
  intro r _
  show r.Stays (if _ then _ else r)
  split
  · exact ⟨⟨rfl, rfl, rfl, rfl, rfl, [], by simp⟩, rfl, fun _ on => on⟩
  · exact .refl r

end Store.Stays

section
variable {s : Service} {c : Catalog} {t : Turn} {a : Except SubscriptionError Answer} {store : Store}

/-- a step is a creation that went through, or the records stay what they are -/
theorem Step.created_or_stays (h : Step s c t a store) (sound : s.store.Sound) :
    (∃ specifiers rename bs q,
        PlannedAll s t.context c t.ids rename .start specifiers bs q ∧
        store.records = s.store.records ++ bs.flatMap (·.records)) ∨
      s.store.Stays store := by
  cases h with
  | refused | read | rekeyed => exact .inr (.of_records rfl)
  | created _ planned _ => exact .inl ⟨_, _, _, _, planned, rfl⟩
  | bundleCreated =>
    refine .inr (.of_records ?_)
    simp [Store.commit]
  | continued _ _ continues => exact .inr ⟨_, rfl, fun r hr => .withEvents sound continues hr⟩
  | charged => exact .inr (.charge _ _ _)

theorem Step.onDescribed (h : Step s c t a store) (sound : s.store.Sound)
    (on : s.store.OnDescribed c) : store.OnDescribed c := by
  intro r' hr'
  rcases h.created_or_stays sound with ⟨_, _, bs, _, planned, records⟩ | ⟨stay, records, stays⟩
  · rw [records] at hr'
    rcases List.mem_append.1 hr' with old | new
    · exact on r' old
    · obtain ⟨b, hb, hr⟩ := List.mem_flatMap.1 new
      obtain ⟨_, _, _, _, here⟩ := planned.of_mem b hb
      obtain ⟨e, he, on⟩ := here.onPlan r' hr
      exact ⟨e.plan, here.described e he, on⟩
  · rw [records] at hr'
    obtain ⟨r, hr, rfl⟩ := List.mem_map.1 hr'
    obtain ⟨plan, described, on⟩ := on r hr
    exact ⟨plan, described, (stays r hr).onPlan plan on⟩

end

namespace Service
variable (c : Catalog) (max : Nat) (cached : Bool) {turns : List Turn}

theorem run_onDescribed (distinct : DistinctIds turns) :
    ((new c max cached).after turns).store.OnDescribed c := by
  refine after_induction (P := fun _ s => s.store.OnDescribed c) ?_ ?_
  · intro r hr
    cases hr
  · intro earlier t part on
    obtain ⟨_, sound, _⟩ := reached c max cached distinct part
    exact (reached_step c max cached distinct part).onDescribed sound on

theorem run_onPlans (distinct : DistinctIds turns) :
    ((new c max cached).after turns).store.OnPlans c :=
  (run_onDescribed c max cached distinct).onPlans

end Service

end SubscriptionBundles
