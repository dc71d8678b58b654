import SubscriptionBundles.Proofs.LaterCalls
import SubscriptionBundles.Proofs.RelabelledPlans

/-!
# What one specifier changes for the next

The specifiers of a call are checked against the store as it was, beside the keys taken and the
add-ons on their way.  What else an earlier one changes, a later one does not see, though it would
in a call of its own.

* `Store.Disturbed`          a specifier that would meet such a change;
* `Planned.unaltered`        a bundle that one finds undisturbed is as it was;
* `Planned.alone`            an undisturbed one is planned the same in a call of its own.
-/

namespace SubscriptionBundles

/-! ## disturbances -/

section
variable (s : Store) (c : Catalog) (ctx : Context) (rename : Bool) (earlier : List BundleSpecifier)
  (spec : BundleSpecifier)

/-- what earlier specifiers of a call have changed for one that comes after them -/
inductive Store.Disturbed : Prop
  /-- the bundle it names for a base or standalone has been given one -/
  | crowded {id : Uuid} (named : spec.bundleId = some id) (brings : 0 < spec.anchors c)
      (given : 0 < anchorsInto c earlier id)
  /-- the bundle it names for a base or standalone has given its key up -/
  | rekeyed {b : Bundle} (stored : b ∈ s.bundles) (named : spec.bundleId = some b.id)
      (brings : 0 < spec.anchors c)
      (left : b.leftKey ctx.accountId rename (takenKeys c earlier) ≠ b.externalKey)
  /-- its key finds another bundle -/
  | misled {key : String} (creates : spec.creates = true) (unnamed : spec.bundleId = none)
      (keyed : spec.bundleExternalKey = some key)
      (other : s.foundBy c ctx rename earlier key ≠ s.foundBy c ctx rename [] key)
  /-- the key it takes has come to an older bundle -/
  | inherited {b : Bundle} {key : String} (taken : spec.takes? c = some key) (stored : b ∈ s.bundles)
      (own : b.accountId = ctx.accountId)
      (left : b.leftKey ctx.accountId rename (takenKeys c earlier) = some key)
      (other : b.externalKey ≠ some key)

end

/-- nothing comes before the first one -/
theorem Store.not_disturbed_nil (s : Store) (c : Catalog) (ctx : Context) (rename : Bool)
    (spec : BundleSpecifier) : ¬s.Disturbed c ctx rename [] spec := by
  have free : takenKeys c [] = [] := rfl
  intro disturbed
  cases disturbed with
  | crowded _ _ given => exact Nat.lt_irrefl 0 given
  | @rekeyed b _ _ _ left =>
    rw [free, b.leftKey_nil] at left
    exact left rfl
  | misled _ _ _ other => exact other rfl
  | @inherited b _ _ _ _ left other =>
    rw [free, b.leftKey_nil] at left
    exact other left

/-! ## one specifier -/

section
variable {s : Service} {ctx : Context} {c : Catalog} {ids : Nat → Uuid} {rename : Bool}
  {p : Progress} {spec : BundleSpecifier} {batch : Batch} {b : PlannedBatch}

theorem Planned.anchors_eq (h : Planned s ctx c ids rename p spec batch b) :
    batch.anchors = spec.anchors c :=
  Batch.anchors_eq h.classified

theorem Planned.creates (h : Planned s ctx c ids rename p spec batch b) : spec.creates = true := by
  have empty := Batch.classify_isEmpty h.classified
  rw [h.nonempty] at empty
  simpa [BundleSpecifier.creates] using empty.symm

/-- add-ons alone go into an active bundle -/
theorem Planned.isActive_of_addOns (h : Planned s ctx c ids rename p spec batch b)
    (plain : batch.anchors = 0) {found : Bundle} (target : b.target = .existing found) :
    s.store.isActive ctx.now found = true := by
  have records := h.records
  rw [target] at records
  obtain ⟨e, rest, first⟩ := Batch.exists_entitlement h.nonempty
  rw [first] at records
  obtain ⟨started, hs⟩ := BatchChecks.plannedRecords_head records
  have addOn : e.plan.category = .addOn := by
    unfold Batch.anchors at plain
    rw [List.countP_eq_zero] at plain
    have kind := plain e (by rw [first]; exact List.mem_cons_self)
    simpa [ProductCategory.anchorsBundle, Entitlement.category] using kind
  obtain ⟨base, anchor, _, suits, _⟩ := (bundleStartDate_addOn_iff addOn).1 hs
  rw [addOn] at anchor
  obtain ⟨running, _⟩ := checkAddOnOnBase_open suits
  have base? := Snapshot.base?_take s.store found.id found.externalKey ctx.now
  obtain ⟨r, hr, rfl⟩ := Option.map_eq_some_iff.1 (base?.symm.trans anchor)
  obtain ⟨stored, home, kind⟩ := mem_of_baseRecord? hr
  have live : r.isLiveAt ctx.now = true := by
    rw [← r.state_ne_cancelled]
    simpa using running
  rw [Store.isActive_iff]
  refine List.countP_pos_iff.2 ⟨r, stored, ?_⟩
  show (r.bundleId == found.id && (r.category.anchorsBundle && r.isLiveAt ctx.now)) = true
  rw [home, kind, live, beq_self_eq_true]
  rfl

/-- only the base of the bundle decides when a batch starts -/
theorem requestedStart_of_base? {a b : Snapshot} (same : a.base? = b.base?) :
    requestedStart ctx spec batch a = requestedStart ctx spec batch b := by
  unfold requestedStart
  rw [same]

section
variable {earlier : List BundleSpecifier} {bs : List PlannedBatch} (order : s.storage.InOrder)
  (sound : s.store.Sound) (all : PlannedAll s ctx c ids rename .start earlier bs p)
  (here : Planned s ctx c ids rename p spec batch b)
  (calm : ¬s.store.Disturbed c ctx rename earlier spec)
include order sound all here calm

/-- the bundle it finds has been given no base or standalone, and has its key -/
theorem Planned.unaltered {found : Bundle} (target : b.target = .existing found) :
    found ∈ s.store.bundles ∧ anchorsInto c earlier found.id = 0 ∧ found.after ctx.now bs = found := by
  have aim := here.aim order
  have stored : found ∈ s.store.bundles := by
    rw [target] at aim
    cases aim with
    | named _ stored _ | keyed _ _ _ stored _ => exact stored
  refine ⟨stored, ?_⟩
  by_cases brings : 0 < spec.anchors c
  · have named : spec.bundleId = some found.id := by
      rw [target] at aim
      cases aim with
      | named named => exact named
      | keyed _ plain =>
        rw [here.anchors_eq] at plain
        omega
    refine ⟨?_, all.after_eq order sound stored ?_⟩
    · have free : ¬0 < anchorsInto c earlier found.id :=
        fun given => calm (.crowded named brings given)
      omega
    · exact Decidable.not_not.1 fun left => calm (.rekeyed stored named brings left)
  · have active := here.isActive_of_addOns (by rw [here.anchors_eq]; omega) target
    refine ⟨?_, after_of_active order all sound stored active⟩
    -- who gives a bundle a base or standalone has found it inactive
    have quiet : ¬0 < anchorsInto c earlier found.id := by
      intro given
      obtain ⟨spec', hs, named, brings⟩ := exists_of_anchorsInto given
      obtain ⟨_, _, _, _, there⟩ := all.exists_batch hs brings
      rw [Store.isActive_iff, there.liveCount_eq_zero order brings named] at active
      exact Nat.lt_irrefl 0 active
    omega

section
variable (takes : s.store.Takes bs)
include takes

theorem Planned.keyed_alone {key : String} {found : Bundle} (target : b.target = .existing found)
    (unnamed : spec.bundleId = none) (keyed : spec.bundleExternalKey = some key)
    (finds : (s.store.bundlesForKey key).find? (s.store.isActive ctx.now) = some found) :
    ((s.store.commit ctx.now bs).bundlesForKey key).find?
      ((s.store.commit ctx.now bs).isActive ctx.now) = some found := by
  have same : s.store.foundBy c ctx rename earlier key = some found := by
    rw [← finds, ← s.store.foundBy_nil c ctx rename]
    exact Decidable.not_not.1 fun other => calm (.misled here.creates unnamed keyed other)
  obtain ⟨_, _, kept⟩ := here.unaltered order sound all calm target
  rw [all.bundlesForKey_find? order sound takes, same, Option.map_some, kept]
  rfl

theorem Planned.new_alone (unnamed : spec.bundleId = none) (brings : 0 < batch.anchors)
    (free : ∀ k, spec.bundleExternalKey = some k →
      k.length ≤ s.maxKeyLength ∧ k ∉ p.keys ∧ s.store.KeyFree ctx.now k) :
    (∀ k, spec.bundleExternalKey = some k → (s.store.commit ctx.now bs).KeyFree ctx.now k) ∧
      (s.store.commit ctx.now bs).renames ctx.accountId rename spec.bundleExternalKey =
        s.store.renames ctx.accountId rename spec.bundleExternalKey := by
  have untaken : ∀ k, spec.bundleExternalKey = some k → k ∉ takenKeys c earlier := by
    intro k keyed taken
    exact (free k keyed).2.1 ((all.mem_keys order).2 (.inl taken))
  refine ⟨?_, all.renames_commit order sound untaken ?_⟩
  · intro k keyed
    refine all.keyFree_commit order sound takes (untaken k keyed) ?_
    have none := find?_active_eq_none.2 (free k keyed).2.2
    rw [← none, ← s.store.foundBy_nil c ctx rename]
    exact Decidable.not_not.1 fun other => calm (.misled here.creates unnamed keyed other)
  · intro k keyed old stored own left
    refine Decidable.not_not.1 fun other => calm (.inherited ?_ stored own left other)
    unfold BundleSpecifier.takes?
    rw [if_pos ⟨unnamed, by rw [← here.anchors_eq]; exact brings⟩, keyed]

theorem Planned.yields_alone (on : s.store.OnPlans c) (on' : (s.store.commit ctx.now bs).OnPlans c) :
    (checksFor s.store ctx c p spec batch b.target).Yields
      (checksFor (s.store.commit ctx.now bs) ctx c .start spec batch b.target) id := by
  cases target : b.target with
  | new planned =>
    refine ⟨rfl, rfl, rfl, rfl, rfl, rfl, rfl, fun _ => rfl, ?_⟩
    intro plan within
    refine checkAddOnLimit_of_le within ?_
    show _ + addOnsJoining plan.name ((Progress.start.after _ batch).joiningBundle _) ≤
      _ + addOnsJoining plan.name ((p.after _ batch).joiningBundle _)
    rw [joiningBundle_after, joiningBundle_after, addOnsJoining_append, addOnsJoining_append]
    have none : addOnsJoining plan.name (Progress.start.joiningBundle (Target.new planned).bundle.id) =
        0 := rfl
    have nothing : addOnsHeld plan.name (checksFor (s.store.commit ctx.now bs) ctx c .start spec batch
        (.new planned)).snapshot.subscriptions = 0 := rfl
    omega
  | existing found =>
    obtain ⟨stored, quiet, _⟩ := here.unaltered order sound all calm target
    have known : found.id ∈ s.store.bundleIds := List.mem_map_of_mem stored
    have base? := all.base?_commit order takes known quiet found.externalKey
    have anchor := all.anchorFor?_commit order takes known quiet found.externalKey
    refine ⟨rfl, rfl, rfl, rfl, ?_, rfl, rfl, anchor, ?_⟩
    · exact requestedStart_of_base? base?
    · intro plan within
      refine checkAddOnLimit_of_le within (Nat.le_of_eq ?_)
      have counted := all.limit_commit on on' plan.name (.existing found) batch found.id
      unfold checksFor Target.stored
      rw [Snapshot.subscriptions_take, Snapshot.subscriptions_take]
      exact counted

end

/-! ## a call of its own -/

section
variable {s' : Service} (takes : s.store.Takes bs) (order' : s'.storage.InOrder)
  (keys : s'.maxKeyLength = s.maxKeyLength)
  (left : s'.store = s.store.commit ctx.now bs)
include takes order' keys left

theorem Planned.target_alone {id : Uuid} (new : b.target.drawn ≠ 0 → id = ids p.drawn) :
    targetBundle s' ctx spec batch id [] rename = .ok b.target := by
  rw [targetBundle_eq_ok]
  rcases targetBundle_eq_ok.1 here.target with
    ⟨named, found, hn, target, hf⟩ | ⟨planned, unnamed, brings, target, hp⟩ |
    ⟨key, found, unnamed, plain, keyed, target, hf⟩
  · refine .inl ⟨named, found, hn, target, (bundleById_eq_ok order').2 ?_⟩
    obtain ⟨hs, carries, own⟩ := (bundleById_eq_ok order).1 hf
    obtain rfl : found.id = named := by simpa using List.find?_some hs
    obtain ⟨stored, _, kept⟩ := here.unaltered order sound all calm target
    refine ⟨?_, carries, own⟩
    rw [left]
    exact (takes.sound sound).bundle?_eq (Store.mem_commit.2 (.inl ⟨found, stored, kept⟩))
  · refine .inr (.inl ⟨planned, unnamed, brings, target, (planBundle_eq_ok order').2 ?_⟩)
    obtain ⟨rfl, free⟩ := (planBundle_eq_ok order).1 hp
    have one : id = ids p.drawn := new (by rw [target]; exact Nat.one_ne_zero)
    obtain ⟨unheld, renames⟩ := here.new_alone order sound all calm takes unnamed
      ((Batch.establishesBundle_iff here.classified).1 brings) free
    rw [left, renames, one, keys]
    exact ⟨rfl, fun k keyed => ⟨(free k keyed).1, List.not_mem_nil, unheld k keyed⟩⟩
  · refine .inr (.inr ⟨key, found, unnamed, plain, keyed, target, (bundleByKey_eq_ok order').2 ?_⟩)
    obtain ⟨finds, own⟩ := (bundleByKey_eq_ok order).1 hf
    rw [left]
    exact ⟨here.keyed_alone order sound all calm takes target unnamed keyed finds, own⟩

theorem Planned.alone {ids' : Nat → Uuid} (on : s.store.OnPlans c) (on' : s'.store.OnPlans c)
    (drawnAs : ∀ i < b.target.drawn + batch.entitlements.length, ids' i = ids (p.drawn + i)) :
    Planned s' ctx c ids' rename .start spec batch b := by
  refine ⟨here.classified, here.nonempty, ?_, ?_⟩
  · refine here.target_alone order sound all calm takes order' keys left ?_
    intro new
    exact drawnAs 0 (by omega)
  · rw [left] at on' ⊢
    have yields := here.yields_alone order sound all calm takes on on'
    have drawn : ∀ i < batch.entitlements.length,
        ids' (Progress.start.drawn + b.target.drawn + i) = ids (p.drawn + b.target.drawn + i) := by
      intro i hi
      have start : Progress.start.drawn = 0 := rfl
      rw [start, Nat.zero_add, drawnAs _ (by omega), Nat.add_assoc]
    rw [yields.plannedRecords drawn here.records, funext relabel_id, List.map_id']

end

end

end

end SubscriptionBundles
