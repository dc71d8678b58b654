import SubscriptionBundles.Proofs.BatchOrder
import SubscriptionBundles.Proofs.LiveCounts
import SubscriptionBundles.Proofs.StoredPlans

/-!
# The add-on cap

A limit is checked against the add-ons that a bundle holds and those on their way into it, be it
with the same batch or with an earlier one of the call.  The last batch that brings a plan into a
bundle is checked against all that the call brings, so the limit holds when it is done.

* `Store.addOnsIn`, `Store.WithinCaps`   no bundle holds more add-ons than their plans allow;
* `SubscriptionRecord.isAddOnOf`         what is counted, read off the record;
* `PlannedAll.joining_eq`                a call brings what its progress says is on its way;
* `PlannedAll.capped`                    a plan that it brings into a bundle stays within its limit;
* `Service.add_on_cap_holds`             so the limits hold after every turn of a run.
-/

namespace SubscriptionBundles

open Service (Turn)

/-! ## the law -/

namespace Store

/-- add-ons of a plan in a bundle that are not cancelled -/
def addOnsIn (s : Store) (now : Instant) (plan : String) (id : Uuid) : Nat :=
  addOnsHeld plan ((s.recordsForBundle id).map fun r => Subscription.rebuild r [] now)

def WithinCaps (c : Catalog) (s : Store) (now : Instant) : Prop :=
  ∀ b ∈ s.bundles, ∀ plan ∈ c.plans, plan.category = .addOn →
    ∀ limit, plan.plansAllowedInBundle = .atMost limit →
      s.addOnsIn now plan.name b.id ≤ limit.toNat

end Store

/-! ## add-ons of a plan -/

namespace SubscriptionRecord

/-- the plan that the first event creates the subscription on -/
def createdOn? (r : SubscriptionRecord) : Option String :=
  r.events.head?.bind fun e =>
    match e.kind with
    | .create plan _ _ => some plan
    | _ => none

def isAddOnOf (plan : String) (r : SubscriptionRecord) : Bool :=
  r.category == .addOn && r.createdOn?.any (Text.sameAscii · plan)

theorem OnPlan.createdOn?_eq {r : SubscriptionRecord} {plan : Plan} (h : r.OnPlan plan) :
    r.createdOn? = some plan.name := by
  obtain ⟨_, phase, priceList, later, events, _⟩ := h
  unfold createdOn?
  rw [events]
  rfl

theorem OnPlan.isAddOnOf_eq {r : SubscriptionRecord} {plan : Plan} (h : r.OnPlan plan)
    (name : String) :
    r.isAddOnOf name = (plan.category == .addOn && Text.sameAscii plan.name name) := by
  unfold isAddOnOf
  rw [h.createdOn?_eq, h.1, Option.any_some]

theorem OnPlan.isAddOnOf_later {r later : SubscriptionRecord} {plan : Plan} (h : r.OnPlan plan)
    (grew : r.Grew later) (name : String) : later.isAddOnOf name = r.isAddOnOf name := by
  obtain ⟨more, grown⟩ := grew.events
  have same : later.createdOn? = r.createdOn? := by
    obtain ⟨_, phase, priceList, rest, events, _⟩ := h
    unfold createdOn?
    rw [grown, events]
    rfl
  unfold isAddOnOf
  rw [grew.category, same]

end SubscriptionRecord

/-- stored add-ons are counted by the plan they were created on -/
theorem Store.addOnsIn_eq {s : Store} {c : Catalog} (on : s.OnPlans c) (now : Instant)
    (plan : String) (id : Uuid) : s.addOnsIn now plan id = s.liveCount (·.isAddOnOf plan) now id := by
  unfold addOnsIn addOnsHeld liveCount recordsForBundle
  rw [List.countP_map, List.countP_filter]
  refine List.countP_congr ?_
  intro r hr
  obtain ⟨own, _, here⟩ := on r hr
  have shown : (Subscription.rebuild r [] now).planName? = r.createdOn? := by
    rw [here.createdOn?_eq, here.2.planName?_eq]
  have counted : (r.category == .addOn && r.isLiveAt now && r.createdOn?.any (Text.sameAscii · plan)) =
      (r.isAddOnOf plan && r.isLiveAt now) := by
    unfold SubscriptionRecord.isAddOnOf
    rw [Bool.and_assoc, Bool.and_assoc, Bool.and_comm (r.isLiveAt now)]
  simp only [Function.comp_apply, Subscription.rebuild_category, SubscriptionRecord.state_ne_cancelled,
    shown, counted]
  rw [Bool.and_comm]

/-! ## what a call brings -/

section
variable {s : Service} {ctx : Context} {c : Catalog} {ids : Nat → Uuid} {rename : Bool}
  {p q : Progress} {spec : BundleSpecifier} {batch : Batch} {b : PlannedBatch}

theorem addOnsJoining_append (plan : String) (a b : List Plan) :
    addOnsJoining plan (a ++ b) = addOnsJoining plan a + addOnsJoining plan b :=
  List.countP_append

theorem joiningBundle_after (p : Progress) (target : Target) (batch : Batch) (id : Uuid) :
    (p.after target batch).joiningBundle id =
      p.joiningBundle id ++ if target.bundle.id = id then batch.addOnPlans else [] := by
  unfold Progress.joiningBundle Progress.after
  rw [List.filter_append, List.map_append]
  congr 1
  by_cases home : target.bundle.id = id
  · rw [if_pos home, List.filter_eq_self.2, List.map_map]
    · exact List.map_id _
    · intro x hx
      obtain ⟨plan, _, rfl⟩ := List.mem_map.1 hx
      simpa using home
  · rw [if_neg home, List.filter_eq_nil_iff.2, List.map_nil]
    intro x hx
    obtain ⟨plan, _, rfl⟩ := List.mem_map.1 hx
    simpa using home

theorem Batch.addOnsJoining_eq (classified : Batch.classify c spec.entitlements = .ok batch)
    (name : String) : addOnsJoining name batch.addOnPlans = batch.entitlements.countP fun e =>
      e.category == .addOn && Text.sameAscii e.plan.name name := by
  have none : ∀ l : List Entitlement, (∀ e ∈ l, e.category ≠ .addOn) →
      l.countP (fun e => e.category == .addOn && Text.sameAscii e.plan.name name) = 0 := by
    intro l other
    rw [List.countP_eq_zero]
    intro e he held
    rw [Bool.and_eq_true, beq_iff_eq] at held
    exact other e he held.1
  have base := none batch.base.toList fun e he => by
    rw [Batch.category_of_base classified e (by simpa using he)]
    decide
  have standalones := none batch.standalones fun e he => by
    rw [Batch.category_of_mem_standalones classified e he]
    decide
  unfold addOnsJoining Batch.addOnPlans Batch.entitlements
  rw [List.countP_append, List.countP_append, base, standalones, List.countP_map, Nat.zero_add]
  rfl

/-- the records of entitlements are add-ons of a plan as often as the batch brings it -/
theorem countP_addOns_of_makes {k : BatchChecks} {rs : List SubscriptionRecord}
    (classified : Batch.classify c spec.entitlements = .ok batch)
    (makes : List.Forall₂ k.Makes batch.entitlements rs) (name : String) :
    rs.countP (·.isAddOnOf name) = addOnsJoining name batch.addOnPlans := by
  rw [Batch.addOnsJoining_eq classified]
  have each := BatchChecks.makes_map makes (·.isAddOnOf name)
    (fun e => e.category == .addOn && Text.sameAscii e.plan.name name) (by
      intro id e started r made
      have on : r.OnPlan e.plan := NewSubscription.record_onPlan made rfl
      exact on.isAddOnOf_eq name)
  have same := congrArg (List.countP id) each
  rw [List.countP_map, List.countP_map] at same
  exact same

/-- the records of a batch, once they are on their way -/
theorem joining_after {t : Target} {rs : List SubscriptionRecord}
    (within : ∀ r ∈ rs, r.bundleId = t.bundle.id) {name : String}
    (counted : rs.countP (·.isAddOnOf name) = addOnsJoining name batch.addOnPlans) (id : Uuid) :
    addOnsJoining name ((p.after t batch).joiningBundle id) =
      addOnsJoining name (p.joiningBundle id) +
        rs.countP fun r => r.bundleId == id && r.isAddOnOf name := by
  rw [countP_within within, counted, joiningBundle_after, addOnsJoining_append]
  split <;> rfl

theorem Planned.joining_eq (h : Planned s ctx c ids rename p spec batch b) (name : String)
    (id : Uuid) : addOnsJoining name ((p.after b.target batch).joiningBundle id) =
      addOnsJoining name (p.joiningBundle id) +
        b.records.countP fun r => r.bundleId == id && r.isAddOnOf name := by
  have makes := ((BatchChecks.plannedRecords_iff h.classified).1 h.records).makes
  exact joining_after h.within (countP_addOns_of_makes h.classified makes name) id

namespace PlannedAll
variable {specs : List BundleSpecifier} {bs : List PlannedBatch}

/-- what is on its way at the end of a call is what it brings -/
theorem joining_eq (all : PlannedAll s ctx c ids rename p specs bs q) (name : String) (id : Uuid) :
    addOnsJoining name (q.joiningBundle id) = addOnsJoining name (p.joiningBundle id) +
      (bs.flatMap (·.records)).countP fun r => r.bundleId == id && r.isAddOnOf name := by
  induction all with
  | nil p => rfl
  | skip _ _ _ ih => exact ih
  | plan here _ ih =>
    rw [ih, here.joining_eq, List.flatMap_cons, List.countP_append, Nat.add_assoc]

end PlannedAll

/-! ## what a call checks -/

theorem checkAddOnLimit_iff {plan : Plan} {existing : List Subscription} {joining : List Plan} :
    checkAddOnLimit plan existing joining = .ok () ↔
      ∀ limit, plan.category = .addOn → plan.plansAllowedInBundle = .atMost limit →
        addOnsHeld plan.name existing + addOnsJoining plan.name joining ≤ limit.toNat := by
  unfold checkAddOnLimit
  split
  · next limit addOn limited =>
    refine refuse_eq_ok.trans ?_
    rw [and_iff_left rfl, Nat.not_lt]
    constructor
    · intro within other _ same
      rw [limited] at same
      cases same
      exact within
    · intro within
      exact within limit addOn limited
  · next unlimited =>
    refine iff_of_true rfl ?_
    intro limit addOn limited
    exact absurd limited (unlimited limit addOn)

/-- a batch finds what is stored of its bundle, and nothing if that is new -/
theorem PlannedBatch.stored_eq {store : Store} (sound : store.Sound)
    (apart : ∀ new, b.newBundle? = some new → new.id ∉ store.bundleIds) :
    b.target.stored store = store.recordsForBundle b.target.bundle.id := by
  unfold PlannedBatch.newBundle? at apart
  generalize b.target = target at apart
  cases target with
  | existing _ => rfl
  | new planned =>
    symm
    show store.records.filter _ = []
    rw [List.filter_eq_nil_iff]
    intro r hr home
    have stored := sound.homes r hr
    rw [eq_of_beq home] at stored
    exact apart _ rfl stored

section
variable {plan : Plan} {limit : UInt32} (known : plan ∈ c.plans) (addOn : plan.category = .addOn)
  (limited : plan.plansAllowedInBundle = .atMost limit) (sound : s.store.Sound)
include known addOn limited sound

/-- who brings an add-on of the plan is checked against all that have come so far -/
theorem Planned.capped (h : Planned s ctx c ids rename p spec batch b)
    (apart : ∀ new, b.newBundle? = some new → new.id ∉ s.store.bundleIds)
    (brings : 0 < b.records.countP (·.isAddOnOf plan.name)) :
    s.store.addOnsIn ctx.now plan.name b.target.bundle.id +
      addOnsJoining plan.name ((p.after b.target batch).joiningBundle b.target.bundle.id) ≤
        limit.toNat := by
  obtain ⟨r, hr, counted⟩ := List.countP_pos_iff.1 brings
  obtain ⟨e, he, on⟩ := h.onPlan r hr
  rw [on.isAddOnOf_eq, Bool.and_eq_true] at counted
  have same : e.plan = plan := Catalog.eq_of_sameAscii (h.mem_plans e he) known counted.2
  have checked := BatchChecks.plannedRecords_limits h.records e he
  rw [same] at checked
  have within := checkAddOnLimit_iff.1 checked limit addOn limited
  have found : (checksFor s.store ctx c p spec batch b.target).snapshot.subscriptions =
      (s.store.recordsForBundle b.target.bundle.id).map fun r => .rebuild r [] ctx.now := by
    rw [← PlannedBatch.stored_eq sound apart]
    exact Snapshot.subscriptions_take _ _ _ _
  rw [found] at within
  exact within

theorem PlannedAll.capped {specs : List BundleSpecifier} {bs : List PlannedBatch}
    (all : PlannedAll s ctx c ids rename p specs bs q)
    (apart : ∀ b ∈ bs, ∀ new, b.newBundle? = some new → new.id ∉ s.store.bundleIds) (id : Uuid) :
    (bs.flatMap (·.records)).countP (fun r => r.bundleId == id && r.isAddOnOf plan.name) = 0 ∨
      s.store.addOnsIn ctx.now plan.name id + addOnsJoining plan.name (q.joiningBundle id) ≤
        limit.toNat := by
  induction all with
  | nil p => exact .inl rfl
  | skip _ _ _ ih => exact ih apart
  | @plan p q spec batch b rest bs here later ih =>
    rcases ih fun b hb => apart b (List.mem_cons_of_mem _ hb) with none | within
    · rw [later.joining_eq, none, Nat.add_zero, List.flatMap_cons, List.countP_append, none,
        Nat.add_zero, countP_within here.within]
      by_cases home : b.target.bundle.id = id
      · rw [if_pos home]
        rcases Nat.eq_zero_or_pos (b.records.countP (·.isAddOnOf plan.name)) with zero | brings
        · exact .inl zero
        · have within := here.capped known addOn limited sound (apart b List.mem_cons_self) brings
          rw [home] at within
          exact .inr within
      · rw [if_neg home]
        exact .inl rfl
    · exact .inr within

/-- a call leaves no more add-ons of the plan than are allowed -/
theorem PlannedAll.liveCount_le_limit {specs : List BundleSpecifier} {bs : List PlannedBatch}
    (all : PlannedAll s ctx c ids rename .start specs bs q) (takes : s.store.Takes bs)
    (on : s.store.OnPlans c) {id : Uuid}
    (before : s.store.liveCount (·.isAddOnOf plan.name) ctx.now id ≤ limit.toNat) {later : Instant}
    (hn : ctx.now ≤ later) :
    (s.store.commit ctx.now bs).liveCount (·.isAddOnOf plan.name) later id ≤ limit.toNat := by
  have kept : s.store.liveCount (·.isAddOnOf plan.name) later id ≤
      s.store.liveCount (·.isAddOnOf plan.name) ctx.now id := Store.liveCount_later hn
  have joined := all.joining_eq plan.name id
  have start : addOnsJoining plan.name (Progress.start.joiningBundle id) = 0 := rfl
  rw [start, Nat.zero_add] at joined
  rw [Store.liveCount_commit _ all.isLiveAt]
  rcases all.capped known addOn limited sound (fun b hb new => takes.not_mem_of_newBundle? hb) id
    with none | within
  · omega
  · rw [joined, Store.addOnsIn_eq on] at within
    omega

end

end

/-! ## every run -/

namespace Service
variable (c : Catalog) (max : Nat) (cached : Bool) {turns : List Turn}

theorem always_le_limit (distinct : DistinctIds turns) (timely : Timely turns) {plan : Plan}
    (known : plan ∈ c.plans) (addOn : plan.category = .addOn) {limit : UInt32}
    (limited : plan.plansAllowedInBundle = .atMost limit) :
    (new c max cached).Always turns fun s now =>
      ∀ id, s.liveCount (·.isAddOnOf plan.name) now id ≤ limit.toNat := by
  refine always_of_keeps timely (fun _ _ => Nat.zero_le _) ?_
  intro earlier t part before later present id
  have past : earlier <+: turns := (List.prefix_append earlier [t]).trans part
  have on := run_onPlans c max cached (distinct.initial past)
  obtain ⟨_, sound, _⟩ := reached c max cached distinct part
  rcases (reached_step c max cached distinct part).created_or_grew with
    ⟨_, _, bs, q, _, _, _, planned, takes, left⟩ | grew
  · rw [left]
    exact planned.liveCount_le_limit known addOn limited sound takes on (before id) present
  · refine Nat.le_trans (grew.liveCount_le ?_ present) (before id)
    intro r hr r' h
    obtain ⟨_, _, here⟩ := on r hr
    exact here.isAddOnOf_later h plan.name

theorem add_on_cap_holds (distinct : DistinctIds turns) (timely : Timely turns) :
    (new c max cached).Always turns (Store.WithinCaps c) := by
  intro earlier t part b _ plan known addOn limit limited
  have on : ((new c max cached).after (earlier ++ [t])).store.OnPlans c :=
    run_onPlans c max cached (distinct.initial part)
  rw [after_concat] at on
  rw [Store.addOnsIn_eq on]
  exact always_le_limit c max cached distinct timely known addOn limited earlier t part b.id

end Service

/-- a pistol with its laser, and two calls for a second one -/
def Shop.lasers : List Turn :=
  let pair := BundleSpecifier.new [.forPlan "pistol-monthly", .forPlan "laser-monthly"]
  let another := BundleSpecifier.new [.forPlan "LASER-monthly"]
  [turn 1 (.create [pair.withExternalKey "home"] false),
    turn 2 (.create [another.withBundleId (.ofNat 1000)] false),
    turn 3 (.create [another.withExternalKey "home"] false)]

theorem add_on_cap_holds_lasers :
    DistinctIds Shop.lasers ∧ Timely Shop.lasers ∧
      ((Service.new Shop.catalog 255 true).after Shop.lasers).store.addOnsIn (Shop.midnight 20003)
        "laser-monthly" (.ofNat 1000) = 1 ∧
      (Service.new Shop.catalog 255 true).Always Shop.lasers (Store.WithinCaps Shop.catalog) := by
  have distinct : DistinctIds Shop.lasers := by decide +kernel
  have timely : Timely Shop.lasers := by decide +kernel
  have held : ((Service.new Shop.catalog 255 true).after Shop.lasers).store.addOnsIn
      (Shop.midnight 20003) "laser-monthly" (.ofNat 1000) = 1 := by decide +kernel
  exact ⟨distinct, timely, held, Service.add_on_cap_holds Shop.catalog 255 true distinct timely⟩

end SubscriptionBundles
