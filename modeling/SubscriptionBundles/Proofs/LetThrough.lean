import Mathlib.Data.List.ReduceOption
import SubscriptionBundles.Proofs.AddOnCap
import SubscriptionBundles.Proofs.BatchOrder
import SubscriptionBundles.Proofs.TakenKeys

/-!
# What lets a call through

The specifiers of a call meet in two things only: the keys that their new bundles take and the
add-ons that they bring into a bundle.  Apart from these each one is let through or refused as if
it were alone.

* `Suits`                a batch that a specifier gets, whatever the others ask for;
* `planned_iff`          what such a batch must meet when the call has come so far;
* `Store.Bears`          records that stay within the caps of their plans once they are all there;
* `LetThrough`           what the batches of a call come to, with no word of their order;
* `plannedAll_iff`       batches are planned exactly if they are let through.
-/

namespace SubscriptionBundles

/-! ## where a batch goes -/

section
variable {s : Service} {ctx : Context} {rename : Bool} {spec : BundleSpecifier} {batch : Batch}

/-- claimed keys and the name of a new bundle only come in where there is a new bundle -/
theorem targetBundle_iff (order : s.storage.InOrder) {id : Uuid} {claimed : List String} {t : Target} :
    targetBundle s ctx spec batch id claimed rename = .ok t ↔
      targetBundle s ctx spec batch t.bundle.id [] rename = .ok t ∧
        (∀ new, t = .new new → new.bundle.id = id) ∧
        ∀ key, t.takenKey? = some key → key ∉ claimed := by
  rw [targetBundle_eq_ok, targetBundle_eq_ok]
  constructor
  · rintro (⟨named, b, hn, rfl, found⟩ | ⟨p, unnamed, brings, rfl, planned⟩ |
      ⟨key, b, unnamed, plain, keyed, rfl, found⟩)
    · exact ⟨.inl ⟨named, b, hn, rfl, found⟩, nofun, nofun⟩
    · obtain ⟨rfl, free⟩ := (planBundle_eq_ok order).1 planned
      refine ⟨.inr (.inl ⟨_, unnamed, brings, rfl, (planBundle_eq_ok order).2 ⟨rfl, ?_⟩⟩), ?_, ?_⟩
      · intro key hk
        obtain ⟨short, _, free⟩ := free key hk
        exact ⟨short, List.not_mem_nil, free⟩
      · rintro _ ⟨⟩
        rfl
      · intro key hk
        exact (free key hk).2.1
    · exact ⟨.inr (.inr ⟨key, b, unnamed, plain, keyed, rfl, found⟩), nofun, nofun⟩
  · rintro ⟨⟨named, b, hn, rfl, found⟩ | ⟨p, unnamed, brings, rfl, planned⟩ |
      ⟨key, b, unnamed, plain, keyed, rfl, found⟩, name, unclaimed⟩
    · exact .inl ⟨named, b, hn, rfl, found⟩
    · obtain ⟨same, free⟩ := (planBundle_eq_ok order).1 planned
      have name : p.bundle.id = id := name p rfl
      refine .inr (.inl ⟨p, unnamed, brings, rfl, (planBundle_eq_ok order).2 ⟨?_, ?_⟩⟩)
      · rw [← name]
        exact same
      · intro key hk
        obtain ⟨short, _, free⟩ := free key hk
        refine ⟨short, unclaimed key ?_, free⟩
        rw [same]
        exact hk
    · exact .inr (.inr ⟨key, b, unnamed, plain, keyed, rfl, found⟩)

end

/-- the identifiers of a batch are its bundle's, if that is new, and its records' -/
theorem PlannedBatch.ids_eq_iff {b : PlannedBatch} {ids : Nat → Uuid} {drawn n : Nat} :
    b.ids = (List.range' drawn (b.target.drawn + n)).map ids ↔
      (∀ new, b.target = .new new → new.bundle.id = ids drawn) ∧
        b.records.map (·.id) = (List.range' (drawn + b.target.drawn) n).map ids := by
  unfold PlannedBatch.ids newBundle?
  cases b.target with
  | existing _ =>
    show _ = (List.range' drawn (0 + n)).map ids ↔ _
    rw [Nat.zero_add]
    exact (and_iff_right nofun).symm
  | new p =>
    show p.bundle.id :: b.records.map (·.id) = (List.range' drawn (1 + n)).map ids ↔ _
    rw [Nat.add_comm 1, List.range'_succ, List.map_cons, List.cons.injEq]
    refine and_congr_left fun _ => ⟨?_, fun name => name p rfl⟩
    rintro name _ ⟨⟩
    exact name

/-! ## a batch of its own -/

section
variable (s : Service) (ctx : Context) (c : Catalog) (rename : Bool)

/-- a batch that a specifier gets, whatever the others ask for -/
structure Suits (spec : BundleSpecifier) (batch : Batch) (b : PlannedBatch) : Prop where
  classified : Batch.classify c spec.entitlements = .ok batch
  nonempty : batch.isEmpty = false
  target : targetBundle s ctx spec batch b.target.bundle.id [] rename = .ok b.target
  records : List.Forall₂ (checksFor s.store ctx c .start spec batch b.target).Makes
    batch.entitlements b.records

/-- what comes of a specifier: nothing if it creates nothing, or else a batch -/
inductive Gets (spec : BundleSpecifier) : Option PlannedBatch → Prop
  | nothing {batch : Batch} (classified : Batch.classify c spec.entitlements = .ok batch)
      (empty : batch.isEmpty = true) : Gets spec none
  | batch {batch : Batch} {b : PlannedBatch} (suits : Suits s ctx c rename spec batch b) :
      Gets spec (some b)

end

section
variable {s : Service} {ctx : Context} {c : Catalog} {ids : Nat → Uuid} {rename : Bool}
  {p q : Progress} {spec : BundleSpecifier} {batch : Batch} {b : PlannedBatch}

theorem planned_iff (order : s.storage.InOrder) :
    Planned s ctx c ids rename p spec batch b ↔
      Suits s ctx c rename spec batch b ∧
        b.ids = (List.range' p.drawn (b.target.drawn + batch.entitlements.length)).map ids ∧
        (∀ key, b.target.takenKey? = some key → key ∉ p.keys) ∧
        ∀ e ∈ batch.entitlements, checkAddOnLimit e.plan
          ((b.target.stored s.store).map fun r => Subscription.rebuild r [] ctx.now)
          ((p.after b.target batch).joiningBundle b.target.bundle.id) = .ok () := by
  have found : (checksFor s.store ctx c p spec batch b.target).snapshot.subscriptions =
      (b.target.stored s.store).map fun r => .rebuild r [] ctx.now :=
    Snapshot.subscriptions_take _ _ _ _
  rw [PlannedBatch.ids_eq_iff]
  constructor
  · intro h
    obtain ⟨own, name, unclaimed⟩ := (targetBundle_iff order).1 h.target
    obtain ⟨names, limits, makes⟩ := (BatchChecks.plannedRecords_iff h.classified).1 h.records
    rw [found] at limits
    exact ⟨⟨h.classified, h.nonempty, own, makes⟩, ⟨name, names⟩, unclaimed, limits⟩
  · intro given
    obtain ⟨suits, ⟨name, names⟩, unclaimed, limits⟩ := given
    rw [← found] at limits
    exact ⟨suits.classified, suits.nonempty,
      (targetBundle_iff order).2 ⟨suits.target, name, unclaimed⟩,
      (BatchChecks.plannedRecords_iff suits.classified).2 ⟨names, limits, suits.records⟩⟩

/-! ## add-ons on their way -/

namespace Suits
variable (h : Suits s ctx c rename spec batch b)
include h

theorem within : ∀ r ∈ b.records, r.bundleId = b.target.bundle.id := by
  have homes := BatchChecks.makes_map h.records (·.bundleId) (fun _ => b.target.bundle.id) (by
    intro id e started r made
    obtain ⟨_, _, _, rfl⟩ := NewSubscription.record_eq_ok made
    rfl)
  intro r hr
  have home := List.mem_map_of_mem (f := SubscriptionRecord.bundleId) hr
  rw [homes] at home
  obtain ⟨_, _, home⟩ := List.mem_map.1 home
  exact home.symm

theorem length_ids : b.ids.length = b.target.drawn + batch.entitlements.length := by
  unfold PlannedBatch.ids PlannedBatch.newBundle?
  rw [List.length_append, List.length_map, List.length_map, h.records.length_eq]
  cases b.target <;> rfl

theorem countP_addOns (name : String) :
    b.records.countP (·.isAddOnOf name) = addOnsJoining name batch.addOnPlans :=
  countP_addOns_of_makes h.classified h.records name

theorem joining_eq (name : String) (id : Uuid) :
    addOnsJoining name ((p.after b.target batch).joiningBundle id) =
      addOnsJoining name (p.joiningBundle id) +
        b.records.countP fun r => r.bundleId == id && r.isAddOnOf name :=
  joining_after h.within (h.countP_addOns name) id

/-- an add-on plan of the batch is among the plans that it brings -/
theorem joining_pos {e : Entitlement} (he : e ∈ batch.entitlements)
    (addOn : e.plan.category = .addOn) : 0 < b.records.countP (·.isAddOnOf e.plan.name) := by
  rw [h.countP_addOns, Batch.addOnsJoining_eq h.classified, List.countP_pos_iff]
  refine ⟨e, he, ?_⟩
  rw [Bool.and_eq_true, beq_iff_eq]
  exact ⟨addOn, Text.sameAscii_refl _⟩

end Suits

end

/-! ## caps -/

/-- with what is on its way, the records stay within the caps of their plans -/
def Store.Bears (s : Store) (c : Catalog) (now : Instant) (p : Progress)
    (rs : List SubscriptionRecord) : Prop :=
  ∀ plan ∈ c.plans, plan.category = .addOn → ∀ limit, plan.plansAllowedInBundle = .atMost limit →
    ∀ id, rs.countP (fun r => r.bundleId == id && r.isAddOnOf plan.name) = 0 ∨
      s.addOnsIn now plan.name id + (addOnsJoining plan.name (p.joiningBundle id) +
        rs.countP fun r => r.bundleId == id && r.isAddOnOf plan.name) ≤ limit.toNat

theorem Store.Bears.of_perm {s : Store} {c : Catalog} {now : Instant} {p : Progress}
    {rs rs' : List SubscriptionRecord} (h : s.Bears c now p rs) (perm : rs.Perm rs') :
    s.Bears c now p rs' := by
  intro plan known addOn limit limited id
  rw [← perm.countP_eq]
  exact h plan known addOn limit limited id

section
variable {s : Service} {ctx : Context} {c : Catalog} {ids : Nat → Uuid} {rename : Bool}
  {p q : Progress} {spec : BundleSpecifier} {batch : Batch} {b : PlannedBatch}

namespace Suits
variable (h : Suits s ctx c rename spec batch b) {more : List SubscriptionRecord}
  (bears : s.store.Bears c ctx.now p (b.records ++ more))
include h bears

/-- no plan of the batch is beyond its limit if all that comes is within the caps -/
theorem limits (sound : s.store.Sound)
    (apart : ∀ new, b.newBundle? = some new → new.id ∉ s.store.bundleIds) :
    ∀ e ∈ batch.entitlements, checkAddOnLimit e.plan
      ((b.target.stored s.store).map fun r => Subscription.rebuild r [] ctx.now)
      ((p.after b.target batch).joiningBundle b.target.bundle.id) = .ok () := by
  intro e he
  rw [checkAddOnLimit_iff]
  intro limit addOn limited
  have known := mem_plans_of_resolved e ((Batch.classify_perm h.classified).subset he)
  have brings := h.joining_pos he addOn
  have own := countP_within h.within (·.isAddOnOf e.plan.name) b.target.bundle.id
  rw [if_pos rfl] at own
  have total := bears e.plan known addOn limit limited b.target.bundle.id
  rw [List.countP_append, own] at total
  rw [h.joining_eq, PlannedBatch.stored_eq sound apart, own]
  show s.store.addOnsIn ctx.now e.plan.name b.target.bundle.id + _ ≤ _
  omega

theorem bears_after : s.store.Bears c ctx.now (p.after b.target batch) more := by
  intro plan known addOn limit limited id
  have total := bears plan known addOn limit limited id
  rw [List.countP_append] at total
  rw [h.joining_eq]
  omega

end Suits

/-! ## all batches -/

variable (s ctx c ids rename) in
/-- batches of specifiers, taken one by one, that do not get into each other's way -/
structure LetThrough (p : Progress) (specs : List BundleSpecifier) (bs : List PlannedBatch) :
    Prop where
  gets : ∃ os, List.Forall₂ (Gets s ctx c rename) specs os ∧ os.reduceOption = bs
  distinct : (bs.filterMap (·.target.takenKey?)).Nodup
  unclaimed : ∀ key ∈ bs.filterMap (·.target.takenKey?), key ∉ p.keys
  bears : s.store.Bears c ctx.now p (bs.flatMap (·.records))
  names : bs.flatMap (·.ids) = (List.range' p.drawn (bs.flatMap (·.ids)).length).map ids

/-- keys that differ and are not claimed are not claimed further on either -/
theorem keys_after (batch : Batch) {bs : List PlannedBatch}
    (distinct : ((b :: bs).filterMap (·.target.takenKey?)).Nodup)
    (unclaimed : ∀ key ∈ (b :: bs).filterMap (·.target.takenKey?), key ∉ p.keys) :
    (∀ key, b.target.takenKey? = some key → key ∉ p.keys) ∧
      (bs.filterMap (·.target.takenKey?)).Nodup ∧
      ∀ key ∈ bs.filterMap (·.target.takenKey?), key ∉ (p.after b.target batch).keys := by
  show _ ∧ _ ∧ ∀ key ∈ _, key ∉ b.target.takenKey?.toList ++ p.keys
  rw [List.filterMap_cons] at distinct unclaimed
  cases takes : b.target.takenKey? with
  | none =>
    rw [takes] at distinct unclaimed
    exact ⟨nofun, distinct, unclaimed⟩
  | some own =>
    rw [takes] at distinct unclaimed
    obtain ⟨once, distinct⟩ := List.nodup_cons.1 distinct
    obtain ⟨free, unclaimed⟩ := List.forall_mem_cons.1 unclaimed
    refine ⟨?_, distinct, ?_⟩
    · rintro _ ⟨⟩
      exact free
    · intro key hk claimed
      rcases List.mem_cons.1 claimed with rfl | claimed
      · exact once hk
      · exact unclaimed key hk claimed

section
variable (order : s.storage.InOrder) {specs : List BundleSpecifier} {bs : List PlannedBatch}
include order

theorem PlannedAll.gets (all : PlannedAll s ctx c ids rename p specs bs q) :
    ∃ os, List.Forall₂ (Gets s ctx c rename) specs os ∧ os.reduceOption = bs := by
  induction all with
  | nil p => exact ⟨[], .nil, rfl⟩
  | skip classified empty _ ih =>
    obtain ⟨os, gets, rfl⟩ := ih
    exact ⟨none :: os, .cons (.nothing classified empty) gets, List.reduceOption_cons_of_none os⟩
  | plan here _ ih =>
    obtain ⟨os, gets, rfl⟩ := ih
    obtain ⟨suits, _⟩ := (planned_iff order).1 here
    exact ⟨some _ :: os, .cons (.batch suits) gets, List.reduceOption_cons_of_some _ os⟩

variable (sound : s.store.Sound)
  (apart : ∀ b ∈ bs, ∀ new, b.newBundle? = some new → new.id ∉ s.store.bundleIds)
include sound apart

theorem PlannedAll.letThrough (all : PlannedAll s ctx c ids rename p specs bs q) :
    LetThrough s ctx c ids rename p specs bs := by
  obtain ⟨distinct, free⟩ := all.taken_free order
  refine ⟨all.gets order, distinct, fun key hk => (free key hk).1, ?_, ?_⟩
  · intro plan known addOn limit limited id
    rw [← all.joining_eq]
    exact all.capped known addOn limited sound apart id
  · obtain ⟨n, _, names⟩ := all.ids_eq order
    rw [names, List.length_map, List.length_range']

theorem LetThrough.planned (through : LetThrough s ctx c ids rename p specs bs) :
    ∃ q, PlannedAll s ctx c ids rename p specs bs q := by
  obtain ⟨⟨os, gets, rfl⟩, distinct, unclaimed, bears, names⟩ := through
  induction gets generalizing p with
  | nil => exact ⟨p, .nil p⟩
  | @cons spec o specs os first _ ih =>
    cases first with
    | nothing classified empty =>
      rw [List.reduceOption_cons_of_none] at *
      obtain ⟨q, later⟩ := ih apart distinct unclaimed bears names
      exact ⟨q, .skip classified empty later⟩
    | @batch batch b suits =>
      rw [List.reduceOption_cons_of_some] at *
      obtain ⟨own, apart⟩ := List.forall_mem_cons.1 apart
      rw [List.flatMap_cons] at bears names
      rw [List.length_append, suits.length_ids, ← List.range'_append_1, List.map_append] at names
      obtain ⟨here, names⟩ := List.append_inj names (by simp [suits.length_ids])
      obtain ⟨free, distinct, unclaimed⟩ := keys_after batch distinct unclaimed
      have now := (planned_iff order).2 ⟨suits, here, free, suits.limits bears sound own⟩
      obtain ⟨q, later⟩ := ih apart distinct unclaimed (suits.bears_after bears) (by
        show _ = (List.range' (p.drawn + b.target.drawn + batch.entitlements.length) _).map ids
        rwa [Nat.add_assoc])
      exact ⟨q, .plan now later⟩

/-- batches are planned exactly if they are let through -/
theorem plannedAll_iff :
    (∃ q, PlannedAll s ctx c ids rename p specs bs q) ↔ LetThrough s ctx c ids rename p specs bs := by
  constructor
  · intro given
    obtain ⟨q, all⟩ := given
    exact all.letThrough order sound apart
  · intro through
    exact through.planned order sound apart

end

end

end SubscriptionBundles
