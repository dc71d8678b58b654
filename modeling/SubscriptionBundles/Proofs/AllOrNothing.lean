import SubscriptionBundles.Proofs.Runs

/-!
# Creation is all or nothing

A creation that is refused leaves the store as it was.  One that is answered adds the records it
was asked for and touches nothing else but the keys that it takes over.

* `Share`                             what a call brought into one bundle, for one of its specifiers;
* `Share.Fills`                       a record for each plan, all in one bundle of the account;
* `Store.Created`                     what a creation adds to a store, and what it changes;
* `Service.create_all_or_nothing`     every creation of a run adds so much or nothing.
-/

namespace SubscriptionBundles

open Service (Turn)

/-! ## what is added -/

structure Share where
  specifier : BundleSpecifier
  bundle : Bundle
  records : List SubscriptionRecord

/-- the entry of a share in the answer -/
def Share.answer (share : Share) (now : Instant) : SubscriptionBundle :=
  ⟨share.bundle, Subscription.listing share.records now⟩

/-- a record for each plan of the specifier, all in one bundle of the account -/
structure Share.Fills (share : Share) (c : Catalog) (ctx : Context) (after : Store) : Prop where
  count : share.records.length = share.specifier.entitlements.countP (·.plan.isSome)
  plans : (share.records.map fun r =>
      (r.category, (Subscription.rebuild r [] ctx.now).planName?)).Perm
    ((resolved c share.specifier.entitlements).map fun e => (e.category, some e.plan.name))
  home : ∃ b ∈ after.bundles, b.id = share.bundle.id ∧ b.accountId = ctx.accountId
  within : ∀ r ∈ share.records, r.bundleId = share.bundle.id

/-- a bundle that was there before gave up its key to one of the account's new bundles -/
structure Bundle.GaveUp (b : Bundle) (ctx : Context) (rename : Bool) (added : List Bundle)
    (left : Bundle) : Prop where
  flag : rename = true
  own : b.accountId = ctx.accountId
  taken : ∃ new ∈ added, ∃ key, new.externalKey = some key ∧ b.externalKey = some key
  left : ∃ key, left = { b with externalKey := some key, updatedUtc := ctx.now }

/-- what a creation adds to a store, and what it changes -/
structure Store.Created (before : Store) (c : Catalog) (ctx : Context) (rename : Bool)
    (specifiers : List BundleSpecifier) (shares : List Share) (after : Store) : Prop where
  specifiers : shares.map (·.specifier) = specifiers.filter (·.creates)
  records : after.records = before.records ++ shares.flatMap (·.records)
  fills : ∀ share ∈ shares, share.Fills c ctx after
  bundles : ∃ (touch : Bundle → Bundle) (added : List Bundle),
    after.bundles = before.bundles.map touch ++ added ∧
      (∀ new ∈ added, ∃ share ∈ shares, share.bundle = new) ∧
      ∀ b ∈ before.bundles, touch b = b ∨ b.GaveUp ctx rename added (touch b)

/-! ## batches that were let through -/

section
variable {s : Service} {ctx : Context} {c : Catalog} {ids : Nat → Uuid} {rename : Bool}
  {p q : Progress} {spec : BundleSpecifier} {batch : Batch} {b : PlannedBatch}

theorem Planned.plans (h : Planned s ctx c ids rename p spec batch b) :
    (b.records.map fun r => (r.category, (Subscription.rebuild r [] ctx.now).planName?)).Perm
      ((resolved c spec.entitlements).map fun e => (e.category, some e.plan.name)) := by
  have made : (b.records.map fun r => (r.category, (Subscription.rebuild r [] ctx.now).planName?)) =
      batch.entitlements.map fun e => (e.category, some e.plan.name) := by
    refine BatchChecks.plannedRecords_map h.records _ _ fun id e started r hr => ?_
    have follows := NewSubscription.record_follows hr rfl
    obtain ⟨_, _, _, rfl⟩ := NewSubscription.record_eq_ok hr
    rw [follows.planName?_eq]
    rfl
  rw [made]
  exact (Batch.classify_perm h.classified).map _

/-- the bundle of a batch is the account's once the call is done -/
theorem Planned.home (order : s.storage.InOrder) (h : Planned s ctx c ids rename p spec batch b)
    {bs : List PlannedBatch} (hb : b ∈ bs) :
    ∃ stored ∈ (s.store.commit ctx.now bs).bundles,
      stored.id = b.target.bundle.id ∧ stored.accountId = ctx.accountId := by
  cases hn : b.newBundle? with
  | none =>
    obtain ⟨old, ho, own, target⟩ := h.stored order hn
    rw [target]
    refine ⟨_, List.mem_append_left _ (List.mem_map_of_mem ho), ?_, ?_⟩
    · exact Bundle.renamedBy_id _ _ _
    · rw [Bundle.renamedBy_accountId]
      exact own
  | some new =>
    refine ⟨new, List.mem_append_right _ (List.mem_filterMap.2 ⟨b, hb, hn⟩), ?_, ?_⟩
    · rw [PlannedBatch.bundle_of_newBundle? hn]
    · obtain ⟨_, _, rfl⟩ := (h.newBundle?_eq_some_iff order).1 hn
      rfl

theorem PlannedAll.created (order : s.storage.InOrder) (sound : s.store.Sound)
    {specifiers : List BundleSpecifier} {bs : List PlannedBatch}
    (all : PlannedAll s ctx c ids rename p specifiers bs q) :
    ∃ shares : List Share, bs.map (·.answer ctx.now) = shares.map (·.answer ctx.now) ∧
      s.store.Created c ctx rename specifiers shares (s.store.commit ctx.now bs) := by
  obtain ⟨pairs, first, second, planned⟩ := all.exists_pairs
  let share (x : BundleSpecifier × PlannedBatch) : Share := ⟨x.1, x.2.target.bundle, x.2.records⟩
  have known : ∀ x ∈ pairs, x.2 ∈ bs := by
    intro x hx
    rw [← second]
    exact List.mem_map_of_mem hx
  refine ⟨pairs.map share, ?_, ?_, ?_, ?_, ?_⟩
  · rw [← second, List.map_map, List.map_map]
    rfl
  · rw [List.map_map]
    exact first
  · show s.store.records ++ bs.flatMap (·.records) = _
    rw [← second, List.flatMap_map, List.flatMap_map]
  · intro _ hs
    obtain ⟨x, hx, rfl⟩ := List.mem_map.1 hs
    obtain ⟨_, batch, here⟩ := planned x hx
    refine ⟨?_, here.plans, here.home order (known x hx), here.within⟩
    show x.2.records.length = _
    rw [BatchChecks.plannedRecords_length here.records, Batch.classify_length here.classified]
  · refine ⟨Bundle.renamedBy ctx.now (bs.flatMap (·.renames)), bs.filterMap (·.newBundle?), rfl,
      ?_, ?_⟩
    · intro new hn
      obtain ⟨b, hb, hn⟩ := List.mem_filterMap.1 hn
      rw [← second] at hb
      obtain ⟨x, hx, rfl⟩ := List.mem_map.1 hb
      exact ⟨share x, List.mem_map_of_mem hx, PlannedBatch.bundle_of_newBundle? hn⟩
    · intro old ho
      by_cases renamed : old.id ∈ (bs.flatMap (·.renames)).map (·.1)
      · obtain ⟨r, hr, same, left⟩ := @Bundle.renamedBy_of_mem ctx.now _ _ renamed
        obtain ⟨b, hb, hr⟩ := List.mem_flatMap.1 hr
        obtain ⟨_, _, _, _, here⟩ := all.of_mem b hb
        rw [here.renames_eq order] at hr
        obtain ⟨flag, key, taken, found, hf, own, held, rfl⟩ := mem_renames.1 hr
        rw [PlannedBatch.takenKey?_eq] at taken
        obtain ⟨new, hn, carries⟩ := Option.bind_eq_some_iff.1 taken
        have one : found = old := sound.bundle_eq hf ho same
        subst one
        exact .inr ⟨flag, own, ⟨new, List.mem_filterMap.2 ⟨b, hb, hn⟩, key, carries, held⟩, _, left⟩
      · exact .inl (Bundle.renamedBy_of_not_mem renamed)

end

/-! ## every creation of a run -/

/-- a turn leaves the store as it was, or adds what its specifiers ask for and nothing else -/
def Service.AllOrNothing (s : Service) (c : Catalog) (t : Turn) (specifiers : List BundleSpecifier)
    (rename : Bool) : Prop :=
  (∀ e, (s.turn t).1 = .error e → (s.turn t).2.store = s.store) ∧
    ∀ a, (s.turn t).1 = .ok a → ∃ shares : List Share,
      a = .created (shares.map (·.answer t.context.now)) ∧
        s.store.Created c t.context rename specifiers shares (s.turn t).2.store

theorem Service.create_all_or_nothing (c : Catalog) (max : Nat) (cached : Bool) {turns : List Turn}
    {t : Turn} (distinct : DistinctIds (turns ++ [t])) {specifiers : List BundleSpecifier}
    {rename : Bool} (request : t.request = .create specifiers rename) :
    ((new c max cached).after turns).AllOrNothing c t specifiers rename := by
  obtain ⟨serves, sound, _⟩ := reached c max cached distinct (List.prefix_refl _)
  have step := reached_step c max cached distinct (List.prefix_refl _)
  unfold AllOrNothing
  generalize (new c max cached).after turns = s at *
  refine ⟨?_, ?_⟩
  · intro e refused
    rw [refused] at step
    exact step.of_error
  · intro a answered
    rw [answered] at step
    have ends := step.of_ok
    rw [request] at ends
    obtain ⟨bs, q, planned, _, answer, left⟩ := ends
    obtain ⟨shares, same, created⟩ := planned.created serves.inOrder sound
    refine ⟨shares, ?_, ?_⟩
    · rw [answer, same]
    · rw [left]
      exact created

/-- a second bundle takes over the key of the first -/
theorem create_all_or_nothing_rekeyed :
    let specifier := (BundleSpecifier.new [.forPlan "pistol-monthly"]).withExternalKey "home"
    let opening := Shop.turn 1 (.createBundle Shop.owner (some "home") false)
    let creation := Shop.turn 2 (.create [specifier] true)
    let s := (Service.new Shop.catalog 255 true).after [opening]
    DistinctIds ([opening] ++ [creation]) ∧ (s.turn creation).1.isOk = true ∧
      s.AllOrNothing Shop.catalog creation [specifier] true := by
  intro specifier opening creation s
  have distinct : DistinctIds ([opening] ++ [creation]) := by decide +kernel
  have answered : (s.turn creation).1.isOk = true := by decide +kernel
  exact ⟨distinct, answered, Service.create_all_or_nothing Shop.catalog 255 true distinct rfl⟩

end SubscriptionBundles
