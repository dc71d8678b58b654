import SubscriptionBundles.Proofs.LiveCounts

/-!
# What a call brings into a bundle

How many base and standalone subscriptions a creation gives to each bundle.  One that is there gets
what the specifiers that name it ask for, a new one what its own specifier does.

* `BundleSpecifier.anchors`, `anchorsInto`   what is asked for;
* `PlannedAll.countP_anchors`                what a call gives to a bundle that is there;
* `liveCount_stored`, `liveCount_new`        the live ones of a bundle once the call is done;
* `Store.isActive_iff`                       a bundle is active if it has one.
-/

namespace SubscriptionBundles

/-! ## what is asked for -/

/-- base and standalone plans that a specifier asks for -/
def BundleSpecifier.anchors (c : Catalog) (spec : BundleSpecifier) : Nat :=
  (resolved c spec.entitlements).countP (·.category.anchorsBundle)

/-- those that specifiers ask for by the id of a bundle -/
def anchorsInto (c : Catalog) (specifiers : List BundleSpecifier) (id : Uuid) : Nat :=
  ((specifiers.filter (·.bundleId == some id)).map (·.anchors c)).sum

theorem anchorsInto_cons (c : Catalog) (spec : BundleSpecifier) (rest : List BundleSpecifier)
    (id : Uuid) : anchorsInto c (spec :: rest) id =
      (if spec.bundleId = some id then spec.anchors c else 0) + anchorsInto c rest id := by
  unfold anchorsInto
  by_cases named : spec.bundleId = some id
  · simp [named]
  · simp [named]

theorem exists_of_anchorsInto {c : Catalog} {specifiers : List BundleSpecifier} {id : Uuid}
    (h : 0 < anchorsInto c specifiers id) :
    ∃ spec ∈ specifiers, spec.bundleId = some id ∧ 0 < spec.anchors c := by
  induction specifiers with
  | nil => exact absurd h (Nat.lt_irrefl 0)
  | cons spec rest ih =>
    rw [anchorsInto_cons] at h
    by_cases named : spec.bundleId = some id ∧ 0 < spec.anchors c
    · exact ⟨spec, List.mem_cons_self, named⟩
    · have later : 0 < anchorsInto c rest id := by
        split at h
        · next same =>
          have : ¬0 < spec.anchors c := fun pos => named ⟨same, pos⟩
          omega
        · omega
      obtain ⟨other, ho, found⟩ := ih later
      exact ⟨other, List.mem_cons_of_mem _ ho, found⟩

/-- a specifier that asks for no plan asks for no anchor -/
theorem anchors_eq_zero {c : Catalog} {spec : BundleSpecifier} {batch : Batch}
    (classified : Batch.classify c spec.entitlements = .ok batch) (empty : batch.isEmpty = true) :
    spec.anchors c = 0 := by
  unfold BundleSpecifier.anchors
  rw [← Batch.anchors_eq classified]
  unfold Batch.anchors
  rw [Batch.entitlements_of_isEmpty empty]
  rfl

/-! ## what a call gives to a bundle -/

section
variable {s : Service} {ctx : Context} {c : Catalog} {ids : Nat → Uuid} {rename : Bool}
  {p q : Progress} {spec : BundleSpecifier} {batch : Batch} {b : PlannedBatch}

theorem Planned.countP_anchors (h : Planned s ctx c ids rename p spec batch b) :
    b.records.countP (·.category.anchorsBundle) = spec.anchors c := by
  have brought : b.records.countP (·.category.anchorsBundle) = batch.anchors := by
    refine BatchChecks.plannedRecords_countP h.records _ _ fun id e started r made => ?_
    obtain ⟨_, _, _, rfl⟩ := NewSubscription.record_eq_ok made
    rfl
  rw [brought]
  exact Batch.anchors_eq h.classified

/-- a bundle that is there gets the anchors of a batch if it is named -/
theorem Planned.countP_anchors_into (order : s.storage.InOrder)
    (h : Planned s ctx c ids rename p spec batch b) {id : Uuid}
    (apart : ∀ new, b.newBundle? = some new → new.id ≠ id) :
    b.records.countP (fun r => r.bundleId == id && r.category.anchorsBundle) =
      if spec.bundleId = some id then spec.anchors c else 0 := by
  have aim := h.aim order
  rw [countP_within h.within, h.countP_anchors]
  unfold PlannedBatch.newBundle? at apart
  generalize b.target = target at aim apart
  by_cases home : target.bundle.id = id
  · rw [if_pos home]
    cases aim with
    | named named =>
      have same : spec.bundleId = some id := by
        rw [named, ← home]
        rfl
      rw [if_pos same]
    | new => exact absurd home (apart _ rfl)
    | keyed unnamed plain =>
      rw [unnamed, if_neg nofun, BundleSpecifier.anchors, ← Batch.anchors_eq h.classified, plain]
  · rw [if_neg home, if_neg]
    intro named
    cases aim with
    | named same =>
      rw [named] at same
      exact home (Option.some.inj same).symm
    | new unnamed | keyed unnamed =>
      rw [named] at unnamed
      cases unnamed

namespace PlannedAll
variable {specs : List BundleSpecifier} {bs : List PlannedBatch}

/-- a specifier that asks for an anchor has its batch -/
theorem exists_batch (all : PlannedAll s ctx c ids rename p specs bs q) (hs : spec ∈ specs)
    (brings : 0 < spec.anchors c) :
    ∃ b ∈ bs, ∃ p batch, Planned s ctx c ids rename p spec batch b := by
  induction all with
  | nil p => cases hs
  | skip classified empty _ ih =>
    rcases List.mem_cons.1 hs with rfl | hs
    · rw [anchors_eq_zero classified empty] at brings
      cases brings
    · exact ih hs
  | plan planned _ ih =>
    rcases List.mem_cons.1 hs with rfl | hs
    · exact ⟨_, List.mem_cons_self, _, _, planned⟩
    · obtain ⟨b, hb, found⟩ := ih hs
      exact ⟨b, List.mem_cons_of_mem _ hb, found⟩

/-- only who names a bundle gives it anchors -/
theorem countP_anchors (order : s.storage.InOrder) (all : PlannedAll s ctx c ids rename p specs bs q)
    {id : Uuid} (apart : ∀ b ∈ bs, ∀ new, b.newBundle? = some new → new.id ≠ id) :
    (bs.flatMap (·.records)).countP (fun r => r.bundleId == id && r.category.anchorsBundle) =
      anchorsInto c specs id := by
  induction all with
  | nil p => rfl
  | skip classified empty _ ih =>
    rw [anchorsInto_cons, anchors_eq_zero classified empty, ih apart]
    split <;> omega
  | plan here _ ih =>
    rw [List.flatMap_cons, List.countP_append, anchorsInto_cons,
      here.countP_anchors_into order (apart _ List.mem_cons_self),
      ih fun b hb => apart b (List.mem_cons_of_mem _ hb)]

end PlannedAll

theorem Planned.liveCount_eq_zero (order : s.storage.InOrder)
    (h : Planned s ctx c ids rename p spec batch b) (brings : 0 < spec.anchors c) {id : Uuid}
    (named : spec.bundleId = some id) :
    s.store.liveCount (·.category.anchorsBundle) ctx.now id = 0 := by
  have pos : 0 < batch.anchors := by
    rw [Batch.anchors_eq h.classified]
    exact brings
  have none := h.no_live_anchor pos
  obtain ⟨stored, _, rfl, _, target⟩ := h.of_named order named
  rw [target] at none
  unfold Store.liveCount
  rw [List.countP_eq_zero]
  intro r hr held
  simp only [Bool.and_eq_true] at held
  obtain ⟨home, kind, live⟩ := held
  rw [none r (List.mem_filter.2 ⟨hr, home⟩) kind] at live
  cases live

/-! ## one call -/

section
variable {specs : List BundleSpecifier} {bs : List PlannedBatch}
  (order : s.storage.InOrder) (all : PlannedAll s ctx c ids rename .start specs bs q)
  (takes : s.store.Takes bs)
include order all takes

/-- the anchors of a bundle that is there, before and with the call -/
theorem liveCount_stored {id : Uuid} (stored : id ∈ s.store.bundleIds) (now : Instant) :
    (s.store.commit ctx.now bs).liveCount (·.category.anchorsBundle) now id =
      s.store.liveCount (·.category.anchorsBundle) now id + anchorsInto c specs id := by
  rw [Store.liveCount_commit _ all.isLiveAt, all.countP_anchors order]
  intro b hb new hn same
  rw [← same] at stored
  exact takes.not_mem_of_newBundle? hb hn stored

/-- the anchors of a new bundle are those of its specifier -/
theorem liveCount_new (sound : s.store.Sound) {b : PlannedBatch} (hb : b ∈ bs) {new : Bundle}
    (hn : b.newBundle? = some new) (now : Instant) :
    ∃ spec ∈ specs, spec.bundleId = none ∧ 0 < spec.anchors c ∧
      (s.store.commit ctx.now bs).liveCount (·.category.anchorsBundle) now new.id =
        spec.anchors c := by
  obtain ⟨_, spec, batch, hs, here⟩ := all.of_mem b hb
  obtain ⟨unnamed, brings, _⟩ := (here.newBundle?_eq_some_iff order).1 hn
  rw [Batch.anchors_eq here.classified] at brings
  refine ⟨spec, hs, unnamed, brings, ?_⟩
  rw [Store.liveCount_commit _ all.isLiveAt, takes.countP_new hb hn, here.countP_anchors,
    Store.liveCount_of_not_mem sound (takes.not_mem_of_newBundle? hb hn), Nat.zero_add]

end

end

/-! ## active bundles -/

namespace Store
variable {s later : Store} {now after : Instant}

theorem Grew.anchors_le (h : s.Grew later) (hn : now ≤ after) (id : Uuid) :
    later.liveCount (·.category.anchorsBundle) after id ≤
      s.liveCount (·.category.anchorsBundle) now id := by
  refine h.liveCount_le ?_ hn
  intro r _ r' grew
  rw [grew.category]

/-- what makes a bundle active -/
theorem isActive_iff {b : Bundle} :
    s.isActive now b = true ↔ 0 < s.liveCount (·.category.anchorsBundle) now b.id := by
  unfold isActive liveCount recordsForBundle
  rw [hasLiveAnchor_eq, List.any_filter, List.countP_pos_iff, List.any_eq_true]

theorem isActive_renamedBy (s : Store) (now processed : Instant) (renames : List (Uuid × String))
    (b : Bundle) : s.isActive now (b.renamedBy processed renames) = s.isActive now b := by
  unfold isActive
  rw [Bundle.renamedBy_id]

theorem Grew.isActive (h : s.Grew later) (hn : now ≤ after) {b : Bundle}
    (active : later.isActive after b = true) : s.isActive now b = true := by
  have kept := h.anchors_le hn b.id
  rw [isActive_iff] at *
  omega

end Store

end SubscriptionBundles
