import Mathlib.Data.List.Find
import SubscriptionBundles.Proofs.ActiveKeys
import SubscriptionBundles.Proofs.AddOnCap
import SubscriptionBundles.Proofs.Bases

/-!
# What a call finds after a creation

A later call looks at the store that a creation has left: for the bundle of a key, for those that
give a key up, for the base of a bundle and for the add-ons it holds.

* `Store.foundBy`                   the bundle that was there and is found by a key afterwards;
* `PlannedAll.bundlesForKey_find?`  the active bundle of a key, found there or new;
* `PlannedAll.after_eq`             a bundle that keeps its key is left as it was;
* `PlannedAll.renames_commit`       who gives a key up;
* `PlannedAll.anchorFor?_commit`    a bundle that got add-ons only is anchored as before;
* `PlannedAll.limit_commit`         its add-ons are counted, on their way or there.
-/

namespace SubscriptionBundles

/-! ## keys -/

theorem Uuid.length_written (id : Uuid) : id.written.length = 36 :=
  String.length_ofList.trans (hyphenate_length (Text.hexPadded_length 32 _))

/-- who gives a key up has a longer one -/
theorem length_cancelledKey (id : Uuid) (key : String) :
    (cancelledKey id key).length = key.length + 47 := by
  unfold cancelledKey
  have prefixed : "cancelled-".length = 10 := rfl
  have hyphen : "-".length = 1 := rfl
  rw [String.length_append, String.length_append, String.length_append, id.length_written, prefixed,
    hyphen]
  omega

theorem cancelledKey_ne (id : Uuid) (key : String) : cancelledKey id key ≠ key := by
  intro same
  have longer := length_cancelledKey id key
  rw [same] at longer
  omega

theorem Bundle.leftKey_nil (account : Uuid) (rename : Bool) (b : Bundle) :
    b.leftKey account rename [] = b.externalKey := by
  unfold leftKey
  cases b.externalKey with
  | none => rfl
  | some key => simp

/-- a key that is not taken stays -/
theorem Bundle.leftKey_of_not_mem {account : Uuid} {rename : Bool} {taken : List String} {b : Bundle}
    {key : String} (held : b.externalKey = some key) (free : key ∉ taken) :
    b.leftKey account rename taken = some key := by
  unfold leftKey
  rw [held, Option.map_some]
  simp [free]

/-- of the bundles that were there, the one that a key finds once specifiers are done -/
def Store.foundBy (s : Store) (c : Catalog) (ctx : Context) (rename : Bool)
    (earlier : List BundleSpecifier) (key : String) : Option Bundle :=
  s.bundles.find? fun b =>
    b.leftKey ctx.accountId rename (takenKeys c earlier) == some key &&
      (s.isActive ctx.now b || decide (0 < anchorsInto c earlier b.id))

theorem Store.foundBy_nil (s : Store) (c : Catalog) (ctx : Context) (rename : Bool) (key : String) :
    s.foundBy c ctx rename [] key = (s.bundlesForKey key).find? (s.isActive ctx.now) := by
  unfold foundBy bundlesForKey
  rw [List.find?_filter]
  congr 1
  funext b
  have none : anchorsInto c [] b.id = 0 := rfl
  have free : takenKeys c [] = [] := rfl
  rw [none, free, Bundle.leftKey_nil, Bool.eq_iff_iff]
  simp

section
variable {s : Service} {ctx : Context} {c : Catalog} {ids : Nat → Uuid} {rename : Bool}
  {p q : Progress} {spec : BundleSpecifier} {batch : Batch} {b : PlannedBatch}

/-- a call remembers the keys it has taken -/
theorem PlannedAll.mem_keys (order : s.storage.InOrder) {specs : List BundleSpecifier}
    {bs : List PlannedBatch} (all : PlannedAll s ctx c ids rename p specs bs q) {key : String} :
    key ∈ q.keys ↔ key ∈ takenKeys c specs ∨ key ∈ p.keys := by
  rw [← all.taken_eq order]
  induction all with
  | nil p => simp
  | skip _ _ _ ih => exact ih
  | @plan p q spec batch b rest bs here _ ih =>
    have step : key ∈ (p.after b.target batch).keys ↔
        b.target.takenKey? = some key ∨ key ∈ p.keys := by
      unfold Progress.after
      simp
    rw [ih, step, List.filterMap_cons]
    cases b.target.takenKey? with
    | none => simp
    | some own => simp [or_left_comm, or_assoc, eq_comm]

namespace PlannedAll
variable {specs : List BundleSpecifier} {bs : List PlannedBatch} (order : s.storage.InOrder)
  (sound : s.store.Sound) (all : PlannedAll s ctx c ids rename .start specs bs q)
include order sound all

/-- a bundle that keeps its key is left as it was -/
theorem after_eq {old : Bundle} (stored : old ∈ s.store.bundles)
    (same : old.leftKey ctx.accountId rename (takenKeys c specs) = old.externalKey) :
    old.after ctx.now bs = old := by
  have key := all.externalKey_after order sound stored
  rw [same] at key
  unfold Bundle.after at key ⊢
  by_cases renamed : old.id ∈ (bs.flatMap (·.renames)).map (·.1)
  · obtain ⟨r, hr, here, left⟩ := @Bundle.renamedBy_of_mem ctx.now _ _ renamed
    obtain ⟨_, held, _, found, hf, _, carries, rfl⟩ := (all.mem_renames order).1 hr
    have one : found = old := sound.bundle_eq hf stored here
    subst one
    rw [left, carries] at key
    exact absurd (Option.some.inj key) (cancelledKey_ne found.id held)
  · exact Bundle.renamedBy_of_not_mem renamed

/-- the active bundle of a key: one that was there, or else a new one -/
theorem bundlesForKey_find? (takes : s.store.Takes bs) (key : String) :
    ((s.store.commit ctx.now bs).bundlesForKey key).find?
        ((s.store.commit ctx.now bs).isActive ctx.now) =
      ((s.store.foundBy c ctx rename specs key).map (.after ctx.now bs)).or
        ((bs.filterMap (·.newBundle?)).find? (·.externalKey == some key)) := by
  unfold Store.bundlesForKey Store.foundBy
  rw [List.find?_filter]
  show (s.store.bundles.map (Bundle.after ctx.now bs) ++ bs.filterMap (·.newBundle?)).find? _ = _
  rw [List.find?_append, List.find?_map]
  congr 1
  · congr 1
    refine List.find?_congr ?_
    intro old stored
    have active := isActive_stored order all takes stored ctx.now
    rw [Function.comp_apply, all.externalKey_after order sound stored, Bool.eq_iff_iff,
      decide_eq_true_eq, active, Bool.and_eq_true, Bool.or_eq_true, decide_eq_true_eq]
  · refine List.find?_congr ?_
    intro new added
    rw [isActive_new order all sound takes added ctx.now, Bool.eq_iff_iff, decide_eq_true_eq]
    exact and_iff_left rfl

/-- a key that a call left alone is free afterwards if nothing that was there is found by it -/
theorem keyFree_commit (takes : s.store.Takes bs) {key : String} (free : key ∉ takenKeys c specs)
    (none : s.store.foundBy c ctx rename specs key = none) :
    (s.store.commit ctx.now bs).KeyFree ctx.now key := by
  rw [← find?_active_eq_none, all.bundlesForKey_find? order sound takes, none, Option.map_none,
    Option.none_or, List.find?_eq_none]
  intro new added carries
  refine free ?_
  rw [← all.taken_eq order]
  exact PlannedBatch.key_taken added (eq_of_beq carries)

/-- the same bundles give a key up if none came to it by a rename -/
theorem renames_commit {key : Option String} (free : ∀ k, key = some k → k ∉ takenKeys c specs)
    (kept : ∀ k, key = some k → ∀ old ∈ s.store.bundles, old.accountId = ctx.accountId →
      old.leftKey ctx.accountId rename (takenKeys c specs) = some k → old.externalKey = some k) :
    (s.store.commit ctx.now bs).renames ctx.accountId rename key =
      s.store.renames ctx.accountId rename key := by
  unfold Store.renames
  cases key with
  | none => rfl
  | some k =>
    cases rename with
    | false => rfl
    | true =>
      have free := free k rfl
      simp only [if_true]
      unfold Store.bundlesForAccountAndKey
      show List.map _ (List.filter _ (s.store.bundles.map (Bundle.after ctx.now bs) ++
        bs.filterMap (·.newBundle?))) = _
      rw [List.filter_append, List.map_append, List.filter_map, List.map_map]
      have fresh : (bs.filterMap (·.newBundle?)).filter (fun b =>
          b.accountId == ctx.accountId && b.externalKey == some k) = [] := by
        rw [List.filter_eq_nil_iff]
        intro new added held
        rw [Bool.and_eq_true, beq_iff_eq, beq_iff_eq] at held
        refine free ?_
        rw [← all.taken_eq order]
        exact PlannedBatch.key_taken added held.2
      rw [fresh, List.map_nil, List.append_nil]
      refine congrArg₂ List.map ?_ (List.filter_congr ?_)
      · funext old
        show (_, cancelledKey _ k) = _
        rw [Bundle.after_id]
      · intro old stored
        show ((old.after ctx.now bs).accountId == ctx.accountId &&
          (old.after ctx.now bs).externalKey == some k) = _
        rw [Bundle.after_accountId, all.externalKey_after order sound stored, Bool.eq_iff_iff,
          Bool.and_eq_true, Bool.and_eq_true, beq_iff_eq, beq_iff_eq, beq_iff_eq]
        refine and_congr_right fun own => ⟨kept k rfl old stored own, ?_⟩
        intro held
        exact Bundle.leftKey_of_not_mem held free

end PlannedAll

/-! ## what a bundle holds -/

theorem Snapshot.latest?_append {id : Uuid} {key : Option String}
    {records added : List SubscriptionRecord} {now : Instant} {qualifies : Member → Bool}
    (none : ∀ r ∈ added, qualifies ⟨r, .rebuild r [] now⟩ = false) :
    (take id key (records ++ added) now).latest? qualifies =
      (take id key records now).latest? qualifies := by
  have dropped : added.filter (fun r => qualifies ⟨r, .rebuild r [] now⟩) = [] := by
    rw [List.filter_eq_nil_iff]
    intro r hr
    rw [none r hr]
    exact Bool.false_ne_true
  rw [latest?_take, latest?_take, List.filter_append, dropped, List.append_nil]

section
variable {id : Uuid} {key : Option String} {records added : List SubscriptionRecord} {now : Instant}
  (addOns : ∀ r ∈ added, r.category = .addOn)
include addOns

theorem Snapshot.base?_append :
    (take id key (records ++ added) now).base? = (take id key records now).base? := by
  refine latest?_append ?_
  intro r hr
  show (r.category == .base) = false
  rw [addOns r hr]
  rfl

theorem Snapshot.anchorFor?_append (category : ProductCategory) :
    (take id key (records ++ added) now).anchorFor? category =
      (take id key records now).anchorFor? category := by
  have live : ∀ r ∈ added, (r.category != .addOn &&
      (Subscription.rebuild r [] now).isActiveOrPending) = false := by
    intro r hr
    rw [addOns r hr]
    rfl
  unfold anchorFor?
  rw [base?_append addOns]
  cases category with
  | addOn => rfl
  | base | standalone => rw [latest?_append live]

end

theorem Store.recordsForBundle_commit (store : Store) (now : Instant) (bs : List PlannedBatch)
    (id : Uuid) : (store.commit now bs).recordsForBundle id =
      store.recordsForBundle id ++ (bs.flatMap (·.records)).filter (·.bundleId == id) :=
  List.filter_append _ _

namespace PlannedAll
variable {specs : List BundleSpecifier} {bs : List PlannedBatch} (order : s.storage.InOrder)
  (all : PlannedAll s ctx c ids rename .start specs bs q) (takes : s.store.Takes bs) {id : Uuid}
  (stored : id ∈ s.store.bundleIds)
include order all takes stored

/-- what comes into a bundle that is given no base or standalone -/
theorem added_addOns (quiet : anchorsInto c specs id = 0) :
    ∀ r ∈ (bs.flatMap (·.records)).filter (·.bundleId == id), r.category = .addOn := by
  have apart : ∀ b ∈ bs, ∀ new, b.newBundle? = some new → new.id ≠ id := by
    intro b hb new hn same
    rw [← same] at stored
    exact takes.not_mem_of_newBundle? hb hn stored
  have none := all.countP_anchors order apart
  rw [quiet, List.countP_eq_zero] at none
  intro r hr
  obtain ⟨hr, home⟩ := List.mem_filter.1 hr
  have plain := none r hr
  rw [home, Bool.true_and] at plain
  simpa [ProductCategory.anchorsBundle] using plain

/-- it is anchored as before -/
theorem anchorFor?_commit (quiet : anchorsInto c specs id = 0) (key : Option String)
    (category : ProductCategory) :
    (Snapshot.take id key ((s.store.commit ctx.now bs).recordsForBundle id) ctx.now).anchorFor?
        category =
      (Snapshot.take id key (s.store.recordsForBundle id) ctx.now).anchorFor? category := by
  rw [Store.recordsForBundle_commit]
  exact Snapshot.anchorFor?_append (all.added_addOns order takes stored quiet) category

theorem base?_commit (quiet : anchorsInto c specs id = 0) (key : Option String) :
    (Snapshot.take id key ((s.store.commit ctx.now bs).recordsForBundle id) ctx.now).base? =
      (Snapshot.take id key (s.store.recordsForBundle id) ctx.now).base? := by
  rw [Store.recordsForBundle_commit]
  exact Snapshot.base?_append (all.added_addOns order takes stored quiet)

end PlannedAll

/-! ## limits -/

/-- a limit that is kept is kept by fewer -/
theorem checkAddOnLimit_of_le {plan : Plan} {existing fewer : List Subscription}
    {joining less : List Plan} (within : checkAddOnLimit plan existing joining = .ok ())
    (le : addOnsHeld plan.name fewer + addOnsJoining plan.name less ≤
      addOnsHeld plan.name existing + addOnsJoining plan.name joining) :
    checkAddOnLimit plan fewer less = .ok () := by
  rw [checkAddOnLimit_iff] at within ⊢
  intro limit addOn limited
  exact Nat.le_trans le (within limit addOn limited)

/-- what was on its way into a bundle is there -/
theorem PlannedAll.limit_commit {specs : List BundleSpecifier} {bs : List PlannedBatch}
    (all : PlannedAll s ctx c ids rename .start specs bs q) (on : s.store.OnPlans c)
    (on' : (s.store.commit ctx.now bs).OnPlans c) (plan : String) (t : Target) (batch : Batch)
    (id : Uuid) :
    (s.store.commit ctx.now bs).addOnsIn ctx.now plan id +
        addOnsJoining plan ((Progress.start.after t batch).joiningBundle id) =
      s.store.addOnsIn ctx.now plan id + addOnsJoining plan ((q.after t batch).joiningBundle id) := by
  have joined := all.joining_eq plan id
  have start : Progress.start.joiningBundle id = [] := rfl
  have none : addOnsJoining plan [] = 0 := rfl
  rw [start, none, Nat.zero_add] at joined
  rw [Store.addOnsIn_eq on, Store.addOnsIn_eq on', Store.liveCount_commit _ all.isLiveAt,
    joiningBundle_after, joiningBundle_after, addOnsJoining_append, addOnsJoining_append, joined,
    start, none]
  omega

end

end SubscriptionBundles
