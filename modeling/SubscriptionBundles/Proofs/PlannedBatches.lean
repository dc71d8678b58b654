import Mathlib.Algebra.GroupWithZero.Nat
import SubscriptionBundles.Proofs.Commit
import SubscriptionBundles.Proofs.NewRecords

/-!
# Planned batches

Everything was checked against the stored state, and no identifier is drawn twice: so the store
takes every batch that was let through.

* `Aim`                     the bundle a batch goes into;
* `Planned.of_named`, `Planned.newBundle?_eq_some_iff`  which bundle that is;
* `Planned.renames_eq`      the account's bundles of a key that is taken are renamed;
* `PlannedAll.exists_pairs` the specifiers that create something, each with its batch;
* `PlannedAll.ids_eq`       the identifiers of a call, in the order they are drawn in;
* `PlannedAll.takes`        the store takes the batches if their identifiers are fresh.
-/

namespace SubscriptionBundles

/-- how many identifiers a specifier may need -/
def BundleSpecifier.mayDraw (spec : BundleSpecifier) : Nat :=
  1 + spec.entitlements.countP (·.plan.isSome)

/-- some entitlement carries a plan -/
def BundleSpecifier.creates (spec : BundleSpecifier) : Bool := spec.entitlements.any (·.plan.isSome)

section
variable (s : Service) (ctx : Context) (rename : Bool) (p : Progress) (spec : BundleSpecifier)
  (batch : Batch) (id : Uuid)

/-- where a batch goes: the bundle that is named, a new one, or the active one of the key -/
inductive Aim : Target → Prop
  | named {b : Bundle} (named : spec.bundleId = some b.id) (stored : b ∈ s.store.bundles)
      (own : b.accountId = ctx.accountId) : Aim (.existing b)
  | new (unnamed : spec.bundleId = none) (brings : 0 < batch.anchors)
      (free : ∀ k, spec.bundleExternalKey = some k →
        k.length ≤ s.maxKeyLength ∧ k ∉ p.keys ∧ s.store.KeyFree ctx.now k) :
      Aim (.new ⟨.new id ctx.accountId spec.bundleExternalKey ctx.now,
        s.store.renames ctx.accountId rename spec.bundleExternalKey⟩)
  | keyed {b : Bundle} {key : String} (unnamed : spec.bundleId = none) (plain : batch.anchors = 0)
      (carries : b.externalKey = some key) (stored : b ∈ s.store.bundles)
      (own : b.accountId = ctx.accountId) : Aim (.existing b)

end

section
variable {s : Service} {ctx : Context} {c : Catalog} {ids : Nat → Uuid} {rename : Bool}
  {p q : Progress} {spec : BundleSpecifier} {batch : Batch} {b : PlannedBatch}

theorem Planned.aim (order : s.storage.InOrder) (h : Planned s ctx c ids rename p spec batch b) :
    Aim s ctx rename p spec batch (ids p.drawn) b.target := by
  have brings := Batch.establishesBundle_iff h.classified
  rcases targetBundle_eq_ok.1 h.target with
    ⟨id, found, named, target, hf⟩ | ⟨planned, unnamed, hb, target, hp⟩ |
    ⟨key, found, unnamed, hb, keyed, target, hf⟩
  · obtain ⟨hs, _, own⟩ := (bundleById_eq_ok order).1 hf
    have hid : found.id = id := by simpa using List.find?_some hs
    rw [target]
    exact .named (by rw [named, hid]) (List.mem_of_find?_eq_some hs) own
  · obtain ⟨rfl, free⟩ := (planBundle_eq_ok order).1 hp
    rw [target]
    exact .new unnamed (brings.1 hb) free
  · obtain ⟨hs, own⟩ := (bundleByKey_eq_ok order).1 hf
    obtain ⟨stored, carries⟩ := List.mem_filter.1 (List.mem_of_find?_eq_some hs)
    have plain : batch.anchors = 0 := by
      have : ¬0 < batch.anchors := by
        rw [← brings, hb]
        decide
      omega
    rw [target]
    exact .keyed unnamed plain (by simpa using carries) stored own

theorem Planned.ids_eq (order : s.storage.InOrder) (h : Planned s ctx c ids rename p spec batch b) :
    b.ids = (List.range' p.drawn (b.target.drawn + batch.entitlements.length)).map ids := by
  have records := BatchChecks.plannedRecords_ids h.records
  have aim := h.aim order
  unfold PlannedBatch.ids PlannedBatch.newBundle?
  rw [records]
  cases target : b.target with
  | existing stored => simp [Target.drawn]
  | new planned =>
    rw [target] at aim
    cases aim with
    | new _ _ _ =>
      show ids p.drawn :: (List.range' (p.drawn + 1) batch.entitlements.length).map ids =
        (List.range' p.drawn (1 + batch.entitlements.length)).map ids
      rw [Nat.add_comm 1, List.range'_succ, List.map_cons]

theorem Planned.drawn_le (h : Planned s ctx c ids rename p spec batch b) :
    b.target.drawn + batch.entitlements.length ≤ spec.mayDraw := by
  unfold BundleSpecifier.mayDraw
  rw [Batch.classify_length h.classified]
  cases b.target <;> simp [Target.drawn]

theorem Planned.within (h : Planned s ctx c ids rename p spec batch b) :
    ∀ r ∈ b.records, r.bundleId = b.target.bundle.id :=
  BatchChecks.plannedRecords_bundleId h.records

/-- a batch without a bundle of its own goes into a stored one of the account -/
theorem Planned.stored (order : s.storage.InOrder) (h : Planned s ctx c ids rename p spec batch b)
    (old : b.newBundle? = none) :
    ∃ stored ∈ s.store.bundles, stored.accountId = ctx.accountId ∧ b.target = .existing stored := by
  have aim := h.aim order
  unfold PlannedBatch.newBundle? at old
  cases target : b.target with
  | new planned =>
    rw [target] at old
    cases old
  | existing found =>
    rw [target] at aim
    cases aim with
    | named _ stored own | keyed _ _ _ stored own => exact ⟨found, stored, own, rfl⟩

/-- a bundle that is named is there -/
theorem Planned.of_named (order : s.storage.InOrder)
    (h : Planned s ctx c ids rename p spec batch b) {id : Uuid} (named : spec.bundleId = some id) :
    ∃ stored ∈ s.store.bundles, stored.id = id ∧ stored.accountId = ctx.accountId ∧
      b.target = .existing stored := by
  have aim := h.aim order
  generalize b.target = target at aim
  cases aim with
  | @named found same stored own =>
    rw [named] at same
    exact ⟨found, stored, (Option.some.inj same).symm, own, rfl⟩
  | new unnamed | keyed unnamed =>
    rw [named] at unnamed
    cases unnamed

/-- a new bundle is what an unnamed base or standalone gets -/
theorem Planned.newBundle?_eq_some_iff (order : s.storage.InOrder)
    (h : Planned s ctx c ids rename p spec batch b) {new : Bundle} :
    b.newBundle? = some new ↔ spec.bundleId = none ∧ 0 < batch.anchors ∧
      new = .new (ids p.drawn) ctx.accountId spec.bundleExternalKey ctx.now := by
  have aim := h.aim order
  unfold PlannedBatch.newBundle?
  generalize b.target = target at aim
  cases aim with
  | named named =>
    rw [named]
    exact ⟨nofun, nofun⟩
  | new unnamed brings =>
    refine ⟨?_, ?_⟩
    · intro h
      cases h
      exact ⟨unnamed, brings, rfl⟩
    · intro given
      obtain ⟨_, _, rfl⟩ := given
      rfl
  | keyed _ plain =>
    refine ⟨nofun, ?_⟩
    intro given
    obtain ⟨_, brings, _⟩ := given
    omega

/-- who gives up a key is read from the store -/
theorem Planned.renames_eq (order : s.storage.InOrder)
    (h : Planned s ctx c ids rename p spec batch b) :
    b.renames = s.store.renames ctx.accountId rename b.target.takenKey? := by
  have aim := h.aim order
  unfold PlannedBatch.renames
  generalize b.target = target at aim
  cases aim with
  | named | new | keyed => rfl

theorem PlannedBatch.takenKey?_eq (b : PlannedBatch) :
    b.target.takenKey? = b.newBundle?.bind (·.externalKey) := by
  unfold PlannedBatch.newBundle?
  cases b.target <;> rfl

namespace PlannedAll
variable {specs : List BundleSpecifier} {bs : List PlannedBatch}

/-- every batch was let through for a specifier of the call -/
theorem of_mem (all : PlannedAll s ctx c ids rename p specs bs q) :
    ∀ b ∈ bs, ∃ p spec batch, spec ∈ specs ∧ Planned s ctx c ids rename p spec batch b := by
  induction all with
  | nil p =>
    intro b hb
    cases hb
  | skip _ _ _ ih =>
    intro b hb
    obtain ⟨p, spec, batch, hs, planned⟩ := ih b hb
    exact ⟨p, spec, batch, List.mem_cons_of_mem _ hs, planned⟩
  | plan planned _ ih =>
    intro b hb
    rcases List.mem_cons.1 hb with rfl | hb
    · exact ⟨_, _, _, List.mem_cons_self, planned⟩
    · obtain ⟨p, spec, batch, hs, planned⟩ := ih b hb
      exact ⟨p, spec, batch, List.mem_cons_of_mem _ hs, planned⟩

/-- every specifier that creates something has its batch, in order -/
theorem exists_pairs (all : PlannedAll s ctx c ids rename p specs bs q) :
    ∃ pairs : List (BundleSpecifier × PlannedBatch),
      pairs.map (·.1) = specs.filter (·.creates) ∧ pairs.map (·.2) = bs ∧
        ∀ x ∈ pairs, ∃ p batch, Planned s ctx c ids rename p x.1 batch x.2 := by
  induction all with
  | nil p => exact ⟨[], rfl, rfl, by simp⟩
  | @skip p q spec batch rest bs classified empty _ ih =>
    obtain ⟨pairs, first, second, planned⟩ := ih
    have none : spec.creates = false := by
      have := Batch.classify_isEmpty classified
      rw [empty] at this
      simpa [BundleSpecifier.creates] using this
    refine ⟨pairs, ?_, second, planned⟩
    rw [List.filter_cons_of_neg (by simp [none])]
    exact first
  | @plan p q spec batch b rest bs here _ ih =>
    obtain ⟨pairs, first, second, planned⟩ := ih
    have some : spec.creates = true := by
      have := Batch.classify_isEmpty here.classified
      rw [here.nonempty] at this
      simpa [BundleSpecifier.creates] using this
    refine ⟨(spec, b) :: pairs, ?_, ?_, ?_⟩
    · rw [List.filter_cons_of_pos some, List.map_cons, first]
    · rw [List.map_cons, second]
    · intro x hx
      rcases List.mem_cons.1 hx with rfl | hx
      · exact ⟨p, batch, here⟩
      · exact planned x hx

/-- identifiers are drawn one after another, and not more than the specifiers may need -/
theorem ids_eq (order : s.storage.InOrder) (all : PlannedAll s ctx c ids rename p specs bs q) :
    ∃ n ≤ (specs.map (·.mayDraw)).sum, bs.flatMap (·.ids) = (List.range' p.drawn n).map ids := by
  induction all with
  | nil p => exact ⟨0, Nat.zero_le _, rfl⟩
  | skip _ _ _ ih =>
    obtain ⟨n, hn, eq⟩ := ih
    refine ⟨n, ?_, eq⟩
    rw [List.map_cons, List.sum_cons]
    omega
  | @plan p q spec batch b rest bs planned _ ih =>
    obtain ⟨n, hn, eq⟩ := ih
    refine ⟨b.target.drawn + batch.entitlements.length + n, ?_, ?_⟩
    · have := planned.drawn_le
      rw [List.map_cons, List.sum_cons]
      omega
    · rw [List.flatMap_cons, planned.ids_eq order, eq, ← List.map_append]
      show List.map ids (_ ++ List.range' (p.drawn + b.target.drawn + batch.entitlements.length) n) = _
      rw [Nat.add_assoc p.drawn, List.range'_append_1]

end PlannedAll

theorem newIds_sublist (bs : List PlannedBatch) :
    ((bs.filterMap (·.newBundle?)).map (·.id)).Sublist (bs.flatMap (·.ids)) := by
  induction bs with
  | nil => exact .refl _
  | cons b bs ih =>
    have head : (b.newBundle?.toList.map (·.id)).Sublist b.ids := List.sublist_append_left _ _
    rw [List.flatMap_cons]
    refine .trans ?_ (head.append ih)
    rw [← List.map_append]
    refine List.Sublist.map _ ?_
    cases hn : b.newBundle? with
    | none => rw [List.filterMap_cons_none hn]; exact .refl _
    | some new => rw [List.filterMap_cons_some hn]; exact .refl _

theorem recordIds_sublist (bs : List PlannedBatch) :
    ((bs.flatMap (·.records)).map (·.id)).Sublist (bs.flatMap (·.ids)) := by
  induction bs with
  | nil => exact .refl _
  | cons b bs ih =>
    have head : (b.records.map (·.id)).Sublist b.ids := List.sublist_append_right _ _
    rw [List.flatMap_cons, List.flatMap_cons, List.map_append]
    exact head.append ih

namespace PlannedAll
variable {specs : List BundleSpecifier} {bs : List PlannedBatch}

theorem ids_sublist (order : s.storage.InOrder)
    (all : PlannedAll s ctx c ids rename .start specs bs q) :
    (bs.flatMap (·.ids)).Sublist ((List.range (specs.map (·.mayDraw)).sum).map ids) := by
  obtain ⟨n, hn, eq⟩ := all.ids_eq order
  have first : List.range' Progress.start.drawn n = List.range n := List.range_eq_range'.symm
  rw [eq, first]
  exact (List.range_sublist.2 hn).map ids

theorem takes (order : s.storage.InOrder) (sound : s.store.Sound)
    (fresh : s.store.Fresh ((List.range (specs.map (·.mayDraw)).sum).map ids))
    (all : PlannedAll s ctx c ids rename .start specs bs q) : s.store.Takes bs := by
  have drawn := all.ids_sublist order
  refine ⟨?_, ?_, ?_, ?_, ?_⟩
  · intro b hb r hr
    obtain ⟨_, _, _, _, planned⟩ := all.of_mem b hb
    rw [planned.renames_eq order] at hr
    obtain ⟨_, _, _, old, ho, _, _, rfl⟩ := mem_renames.1 hr
    exact List.mem_map_of_mem ho
  · have new := (newIds_sublist bs).trans drawn
    refine List.nodup_append.2 ⟨sound.bundles, new.nodup fresh.distinct, ?_⟩
    rintro id stored _ hn rfl
    exact fresh.bundles id stored (new.subset hn)
  · have new := (recordIds_sublist bs).trans drawn
    refine List.nodup_append.2 ⟨sound.records, new.nodup fresh.distinct, ?_⟩
    rintro id stored _ hn rfl
    exact fresh.records id stored (new.subset hn)
  · intro b hb old
    obtain ⟨_, _, _, _, planned⟩ := all.of_mem b hb
    obtain ⟨stored, hs, _, target⟩ := planned.stored order old
    rw [target]
    exact List.mem_map_of_mem hs
  · intro b hb
    obtain ⟨_, _, _, _, planned⟩ := all.of_mem b hb
    exact planned.within

end PlannedAll

end

end SubscriptionBundles
