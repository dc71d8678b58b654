import SubscriptionBundles.Proofs.Bases
import SubscriptionBundles.Proofs.StoredPlans

/-!
# The base of an add-on

Every stored add-on has a base in its bundle whose product offers it.  It takes over the start of
that base, and does not start before it.  Base and standalone subscriptions start their bundle
themselves.

* `SubscriptionRecord.Anchors`         a base that an add-on stands on;
* `BatchChecks.plannedRecords_beside`  plans beside a new base share its start;
* `BatchChecks.plannedRecords_stored`  other plans are checked against the stored bundle;
* `Planned.addOn_anchored`, `Planned.starts_bundle`  what a batch brings is well placed;
* `Step.wellPlaced`                    and every step leaves it so;
* `Service.add_ons_anchored`           so it is throughout a run.
-/

namespace SubscriptionBundles

open Service (Turn)

/-! ## standing on a base -/

/-- a base of the same bundle and with its start, on a plan whose product offers the add-on -/
structure SubscriptionRecord.Anchors (c : Catalog) (b r : SubscriptionRecord) : Prop where
  base : b.category = .base
  home : b.bundleId = r.bundleId
  start : b.alignStartDate = r.bundleStartDate
  later : r.bundleStartDate ≤ r.alignStartDate
  sold : ∃ plan ∈ c.plans, ∃ addOn ∈ c.plans, b.OnPlan plan ∧ r.OnPlan addOn ∧
    c.offers plan.product.name addOn = true ∧ c.includes plan.product.name addOn = false

theorem SubscriptionRecord.Anchors.stays {c : Catalog} {b r b' r' : SubscriptionRecord}
    (h : b.Anchors c r) (base : b.Stays b') (addOn : r.Stays r') : b'.Anchors c r' := by
  obtain ⟨plan, known, joined, listed, onBase, onAddOn, suits⟩ := h.sold
  refine ⟨base.category.trans h.base, ?_, ?_, ?_, plan, known, joined, listed,
    base.onPlan plan onBase, addOn.onPlan joined onAddOn, suits⟩
  · rw [base.bundleId, addOn.bundleId]
    exact h.home
  · rw [base.aligned, addOn.started]
    exact h.start
  · rw [addOn.started, addOn.aligned]
    exact h.later

/-- add-ons stand on bases, and who is no add-on starts its bundle -/
def Store.WellPlaced (s : Store) (c : Catalog) : Prop :=
  ∀ r ∈ s.records, (r.category = .addOn → ∃ b ∈ s.records, b.Anchors c r) ∧
    (r.category ≠ .addOn → r.bundleStartDate = r.alignStartDate)

/-! ## what the plans of a batch are checked against -/

theorem checkAddOnForProduct_eq_ok {c : Catalog} {product : String} {addOn : Plan} :
    checkAddOnForProduct c product addOn = .ok () ↔
      c.offers product addOn = true ∧ c.includes product addOn = false := by
  unfold checkAddOnForProduct
  rw [refuse_eq_ok, Bool.not_eq_true, and_comm]
  refine and_congr_left fun _ => ?_
  split
  · next sold => exact ⟨fun _ => sold, fun _ => rfl⟩
  · next unsold => exact ⟨nofun, fun sold => absurd sold unsold⟩

namespace BatchChecks
variable {k : BatchChecks} {ids : Nat → Uuid} {drawn : Nat} {es : List Entitlement}
  {rs : List SubscriptionRecord}

section
variable {base : Entitlement} (brings : k.batch.base = some base) {started : Instant}
include brings

/-- beside a new base the start is fixed, and only the products have to suit -/
theorem startDate_beside {plan : Plan} {own : Instant}
    (h : k.startDate (some started) plan = .ok own) :
    checkAddOnForProduct k.catalog base.plan.product.name plan = .ok () ∧ started = own := by
  unfold startDate at h
  rw [brings] at h
  obtain ⟨_, suits, same⟩ := bind_eq_ok.1 h
  exact ⟨suits, pure_eq_ok.1 same⟩

theorem plannedRecords_beside (h : k.plannedRecords ids drawn (some started) es = .ok rs) :
    ∀ r ∈ rs, ∃ e ∈ es, ∃ id,
      checkAddOnForProduct k.catalog base.plan.product.name e.plan = .ok () ∧
        (k.newSubscription id e started).record k.catalog = .ok r := by
  have kept : ∀ f plan own, f = some started → k.startDate f plan = .ok own →
      k.fix f own = some started := by
    rintro _ plan own rfl starts
    obtain ⟨_, rfl⟩ := startDate_beside brings starts
    unfold fix
    split <;> rfl
  intro r hr
  obtain ⟨e, he, id, _, own, rfl, starts, made⟩ :=
    plannedRecords_started h (F := (· = some started)) rfl kept r hr
  obtain ⟨suits, rfl⟩ := startDate_beside brings starts
  exact ⟨e, he, id, suits, made⟩

end

/-- without a base of its own, every plan of a batch is checked against the stored bundle -/
theorem plannedRecords_stored (alone : k.batch.base = none) {fixed : Option Instant}
    (h : k.plannedRecords ids drawn fixed es = .ok rs) :
    ∀ r ∈ rs, ∃ e ∈ es, ∃ id started, bundleStartDate k.catalog e.plan k.target.label
        (k.snapshot.anchorFor? e.plan.category) k.requested = .ok started ∧
      (k.newSubscription id e started).record k.catalog = .ok r := by
  intro r hr
  obtain ⟨e, he, id, f, started, _, starts, made⟩ :=
    plannedRecords_started h (F := fun _ => True) trivial (fun _ _ _ _ _ => trivial) r hr
  refine ⟨e, he, id, started, ?_, made⟩
  unfold startDate at starts
  rw [alone] at starts
  cases f <;> exact starts

end BatchChecks

/-- a stored base takes an add-on that its plan's product offers -/
theorem checkAddOnOnBase_stored {c : Catalog} {b : SubscriptionRecord} {plan addOn : Plan}
    (on : b.OnPlan plan) (known : plan ∈ c.plans) {now date : Instant}
    (h : checkAddOnOnBase c (.rebuild b [] now) addOn date = .ok ()) :
    checkAddOnForProduct c plan.product.name addOn = .ok () := by
  obtain ⟨_, h⟩ := refuse_eq_ok.1 h
  rw [on.2.planName?_eq] at h
  obtain ⟨found, named, h⟩ := bind_eq_ok.1 h
  have one := (liftM_eq_ok.1 named).symm.trans (Catalog.findPlan_name_of_mem known)
  cases one
  exact h

section
variable {s : Service} {ctx : Context} {c : Catalog} {ids : Nat → Uuid} {rename : Bool}
  {p q : Progress} {spec : BundleSpecifier} {batch : Batch} {pb : PlannedBatch}

/-- the base that a batch finds is stored -/
theorem baseRecord?_of_checked {t : Target} {base : Subscription}
    (h : (checksFor s.store ctx c p spec batch t).snapshot.base? = some base) :
    ∃ b, s.store.baseRecord? t.bundle.id = some b ∧ .rebuild b [] ctx.now = base := by
  cases t with
  | new planned => cases h
  | existing stored =>
    have base? := Snapshot.base?_take s.store stored.id stored.externalKey ctx.now
    exact Option.map_eq_some_iff.1 (base?.symm.trans h)

/-! ## new records -/

/-- a batch with a base of its own: the base, and the records beside it -/
theorem Planned.beside_base (h : Planned s ctx c ids rename p spec batch pb) {e : Entitlement}
    (brought : batch.base = some e) :
    ∃ b later, pb.records = b :: later ∧ b.category = .base ∧ b.OnPlan e.plan ∧
      b.bundleStartDate = b.alignStartDate ∧ ∀ r ∈ later, ∃ e' ∈ batch.entitlements,
        checkAddOnForProduct c e.plan.product.name e'.plan = .ok () ∧ r.OnPlan e'.plan ∧
          r.bundleStartDate = b.alignStartDate ∧ r.alignStartDate = b.alignStartDate := by
  have records := h.records
  have kind : e.plan.category = .base :=
    Batch.category_of_base h.classified e (by rw [brought]; rfl)
  have whole : batch.entitlements = e :: (batch.addOns ++ batch.standalones) := by
    unfold Batch.entitlements
    rw [brought, List.append_assoc]
    rfl
  rw [whole] at records
  obtain ⟨started, b, later, hs, _, made, tail, eq⟩ := BatchChecks.plannedRecords_cons_eq_ok.1 records
  obtain ⟨_, rfl⟩ := bundleStartDate_of_anchors (by rw [kind]; rfl) hs
  have fixed : ∀ started, (checksFor s.store ctx c p spec batch pb.target).fix none started =
      some started := by
    intro started
    unfold BatchChecks.fix Batch.establishesBundle
    show (if (batch.base.isSome || _) = true then _ else _) = _
    rw [brought]
    rfl
  rw [fixed] at tail
  have onPlan := NewSubscription.record_onPlan made rfl
  refine ⟨b, later, eq, onPlan.1.trans kind, onPlan, ?_, ?_⟩
  · obtain ⟨_, _, _, rfl⟩ := NewSubscription.record_eq_ok made
    rfl
  · intro r hr
    obtain ⟨e', he', id, suits, made'⟩ := BatchChecks.plannedRecords_beside brought tail r hr
    refine ⟨e', ?_, suits, NewSubscription.record_onPlan made' rfl, ?_⟩
    · rw [whole]
      exact List.mem_cons_of_mem _ he'
    · obtain ⟨_, _, _, rfl⟩ := NewSubscription.record_eq_ok made
      obtain ⟨_, _, _, rfl⟩ := NewSubscription.record_eq_ok made'
      exact ⟨rfl, rfl⟩

/-- a new add-on stands on the base that it comes with, or on a stored one that is not over -/
theorem Planned.addOn_anchored (on : s.store.OnPlans c)
    (h : Planned s ctx c ids rename p spec batch pb) {r : SubscriptionRecord} (hr : r ∈ pb.records)
    (addOn : r.category = .addOn) :
    (∃ b ∈ pb.records, b.Anchors c r) ∨
      ∃ b, s.store.baseRecord? r.bundleId = some b ∧ b.Anchors c r ∧
        ∀ date, (Subscription.rebuild b [] ctx.now).endDate = some date → r.alignStartDate < date := by
  cases brought : batch.base with
  | some e =>
    left
    obtain ⟨b, later, eq, base, onBase, _, beside⟩ := h.beside_base brought
    have hb : b ∈ pb.records := by
      rw [eq]
      exact List.mem_cons_self
    rw [eq] at hr
    rcases List.mem_cons.1 hr with rfl | hr'
    · rw [base] at addOn
      cases addOn
    · obtain ⟨e', he', suits, onAddOn, started, aligned⟩ := beside r hr'
      have mem : e ∈ batch.entitlements := by
        unfold Batch.entitlements
        rw [brought]
        exact List.mem_cons_self
      refine ⟨b, hb, base, ?_, started.symm, ?_, e.plan, h.mem_plans e mem, e'.plan,
        h.mem_plans e' he', onBase, onAddOn, checkAddOnForProduct_eq_ok.1 suits⟩
      · rw [h.within b hb, h.within r (by rw [eq]; exact hr)]
      · rw [started, aligned]
        exact Instant.le_refl _
  | none =>
    right
    obtain ⟨e, he, id, started, hs, made⟩ :=
      BatchChecks.plannedRecords_stored brought h.records r hr
    have onAddOn := NewSubscription.record_onPlan made rfl
    have kind : e.plan.category = .addOn := onAddOn.1.symm.trans addOn
    obtain ⟨base, anchor, late, suits, same⟩ := (bundleStartDate_addOn_iff kind).1 hs
    rw [kind] at anchor
    obtain ⟨b, hb, rfl⟩ := baseRecord?_of_checked anchor
    rw [← h.within r hr] at hb
    obtain ⟨stored, home, base⟩ := mem_of_baseRecord? hb
    obtain ⟨plan, known, onBase⟩ := on b stored
    obtain ⟨_, ends⟩ := checkAddOnOnBase_open suits
    rw [onBase.2.startDate_eq] at same late
    have dates : r.bundleStartDate = started ∧ r.alignStartDate =
        (checksFor s.store ctx c p spec batch pb.target).requested := by
      obtain ⟨_, _, _, rfl⟩ := NewSubscription.record_eq_ok made
      exact ⟨rfl, rfl⟩
    obtain ⟨begun, aligned⟩ := dates
    refine ⟨b, hb, ⟨base, home, ?_, ?_, plan, known, e.plan, h.mem_plans e he, onBase, onAddOn,
      checkAddOnForProduct_eq_ok.1 (checkAddOnOnBase_stored onBase known suits)⟩, ?_⟩
    · rw [begun, same]
    · rw [begun, same, aligned, Instant.le_def]
      rw [Instant.lt_def] at late
      exact Int.not_lt.1 late
    · rw [aligned]
      exact ends

/-- a new base or standalone starts its bundle -/
theorem Planned.starts_bundle (h : Planned s ctx c ids rename p spec batch pb)
    {r : SubscriptionRecord} (hr : r ∈ pb.records) (anchors : r.category ≠ .addOn) :
    r.bundleStartDate = r.alignStartDate := by
  cases brought : batch.base with
  | some e =>
    obtain ⟨b, later, eq, _, _, own, beside⟩ := h.beside_base brought
    rw [eq] at hr
    rcases List.mem_cons.1 hr with rfl | hr
    · exact own
    · obtain ⟨_, _, _, _, started, aligned⟩ := beside r hr
      rw [started, aligned]
  | none =>
    obtain ⟨e, _, id, started, hs, made⟩ :=
      BatchChecks.plannedRecords_stored brought h.records r hr
    have same : r.category = e.plan.category := (NewSubscription.record_onPlan made rfl).1
    rw [same] at anchors
    have kind : e.plan.category.anchorsBundle = true := bne_iff_ne.2 anchors
    obtain ⟨_, rfl⟩ := bundleStartDate_of_anchors kind hs
    obtain ⟨_, _, _, rfl⟩ := NewSubscription.record_eq_ok made
    rfl

end

/-! ## every run -/

theorem Step.wellPlaced {s : Service} {c : Catalog} {t : Turn}
    {a : Except SubscriptionError Answer} {store : Store} (h : Step s c t a store)
    (sound : s.store.Sound) (on : s.store.OnPlans c) (placed : s.store.WellPlaced c) :
    store.WellPlaced c := by
  intro r' hr'
  rcases h.created_or_stays sound with ⟨_, _, bs, _, planned, records⟩ | ⟨stay, records, stays⟩
  · rw [records] at hr' ⊢
    rcases List.mem_append.1 hr' with old | new
    · refine ⟨fun addOn => ?_, (placed r' old).2⟩
      obtain ⟨b, hb, anchors⟩ := (placed r' old).1 addOn
      exact ⟨b, List.mem_append_left _ hb, anchors⟩
    · obtain ⟨pb, hpb, hr⟩ := List.mem_flatMap.1 new
      obtain ⟨_, _, _, _, here⟩ := planned.of_mem pb hpb
      refine ⟨fun addOn => ?_, here.starts_bundle hr⟩
      rcases here.addOn_anchored on hr addOn with ⟨b, hb, anchors⟩ | ⟨b, hb, anchors, _⟩
      · exact ⟨b, List.mem_append_right _ (List.mem_flatMap.2 ⟨pb, hpb, hb⟩), anchors⟩
      · exact ⟨b, List.mem_append_left _ (mem_of_baseRecord? hb).1, anchors⟩
  · rw [records] at hr' ⊢
    obtain ⟨r, hr, rfl⟩ := List.mem_map.1 hr'
    have later := stays r hr
    rw [later.category, later.started, later.aligned]
    refine ⟨fun addOn => ?_, (placed r hr).2⟩
    obtain ⟨b, hb, anchors⟩ := (placed r hr).1 addOn
    exact ⟨stay b, List.mem_map_of_mem hb, anchors.stays (stays b hb) later⟩

namespace Service
variable (c : Catalog) (max : Nat) (cached : Bool) {turns : List Turn}

theorem add_ons_anchored (distinct : DistinctIds turns) :
    ((new c max cached).after turns).store.WellPlaced c := by
  refine after_induction (P := fun _ s => s.store.WellPlaced c) ?_ ?_
  · intro r hr
    cases hr
  · intro earlier t part placed
    have before : earlier <+: turns := (List.prefix_append earlier [t]).trans part
    obtain ⟨_, sound, _⟩ := reached c max cached distinct part
    have on := run_onPlans c max cached (distinct.initial before)
    exact (reached_step c max cached distinct part).wellPlaced sound on placed

end Service

namespace Shop

/-- a pistol with its laser -/
def pair : BundleSpecifier := .new [.forPlan "pistol-monthly", .forPlan "laser-monthly"]

end Shop

theorem add_ons_anchored_pair :
    let turns := [Shop.turn 1 (.create [Shop.pair] false)]
    let s := (Service.new Shop.catalog 255 true).after turns
    DistinctIds turns ∧ s.store.records.map (·.category) = [.base, .addOn] ∧
      s.store.WellPlaced Shop.catalog := by
  intro turns s
  have distinct : DistinctIds turns := by decide +kernel
  exact ⟨distinct, by decide +kernel, Service.add_ons_anchored Shop.catalog 255 true distinct⟩

end SubscriptionBundles
