import SubscriptionBundles.Proofs.AnchorCounts

/-!
# One live base or standalone

A new base or standalone is checked against the live ones that its bundle holds, and not against
what else the same call brings.  So a bundle never holds two, unless one call gives it two.

* `Store.SingleAnchors`               no bundle holds two live base or standalone subscriptions;
* `crowds`                            a call that gives one bundle two of them;
* `Service.single_anchors_iff`        the law holds throughout a run in which no call crowds a bundle,
                                      and in no other.
-/

namespace SubscriptionBundles

open Service (Turn)

/-! ## the law -/

namespace Store

/-- base and standalone subscriptions of a bundle that are active or pending -/
def liveAnchors (s : Store) (now : Instant) (id : Uuid) : Nat :=
  (s.recordsForBundle id).countP fun r =>
    r.category.anchorsBundle && (Subscription.rebuild r [] now).isActiveOrPending

def SingleAnchors (s : Store) (now : Instant) : Prop := ∀ b ∈ s.bundles, s.liveAnchors now b.id ≤ 1

instance (s : Store) (now : Instant) : Decidable (s.SingleAnchors now) :=
  inferInstanceAs (Decidable (∀ b ∈ s.bundles, s.liveAnchors now b.id ≤ 1))

theorem liveAnchors_eq (s : Store) (now : Instant) (id : Uuid) :
    s.liveAnchors now id = s.liveCount (·.category.anchorsBundle) now id := by
  unfold liveAnchors liveCount recordsForBundle
  rw [List.countP_filter]
  refine List.countP_congr ?_
  intro r _
  rw [SubscriptionRecord.isActiveOrPending_eq, Bool.and_comm]

/-- there are no anchors outside of bundles -/
theorem singleAnchors_iff {s : Store} (sound : s.Sound) {now : Instant} :
    s.SingleAnchors now ↔ ∀ id, s.liveCount (·.category.anchorsBundle) now id ≤ 1 := by
  unfold SingleAnchors
  constructor
  · intro h id
    by_cases stored : id ∈ s.bundleIds
    · obtain ⟨b, hb, rfl⟩ := List.mem_map.1 stored
      rw [← liveAnchors_eq]
      exact h b hb
    · rw [liveCount_of_not_mem sound stored]
      exact Nat.zero_le 1
  · intro h b _
    rw [liveAnchors_eq]
    exact h b.id

end Store

/-! ## crowding -/

/-- several base or standalone plans for one bundle, be it a new one or one that is named -/
def crowds (c : Catalog) (specifiers : List BundleSpecifier) : Prop :=
  (∃ spec ∈ specifiers, spec.bundleId = none ∧ 1 < spec.anchors c) ∨
    ∃ id, 1 < anchorsInto c specifiers id

def Request.crowds (c : Catalog) : Request → Prop
  | create specifiers _ => SubscriptionBundles.crowds c specifiers
  | _ => False

/-! ## one call -/

section
variable {s : Service} {ctx : Context} {c : Catalog} {ids : Nat → Uuid} {rename : Bool} {q : Progress}
  {specs : List BundleSpecifier} {bs : List PlannedBatch} (order : s.storage.InOrder)
  (all : PlannedAll s ctx c ids rename .start specs bs q) (takes : s.store.Takes bs)
include order all takes

theorem exists_crowded (crowd : crowds c specs) (now : Instant) :
    ∃ id, 1 < (s.store.commit ctx.now bs).liveCount (·.category.anchorsBundle) now id := by
  rcases crowd with ⟨spec, hs, unnamed, many⟩ | ⟨id, many⟩
  · obtain ⟨b, hb, p, batch, here⟩ := all.exists_batch hs (by omega)
    have brings : 0 < batch.anchors := by
      rw [Batch.anchors_eq here.classified]
      exact Nat.lt_of_succ_lt many
    obtain ⟨new, hn⟩ : ∃ new, b.newBundle? = some new :=
      ⟨_, (here.newBundle?_eq_some_iff order).2 ⟨unnamed, brings, rfl⟩⟩
    refine ⟨new.id, ?_⟩
    rw [Store.liveCount_commit _ all.isLiveAt, takes.countP_new hb hn, here.countP_anchors]
    exact Nat.lt_of_lt_of_le many (Nat.le_add_left _ _)
  · have some : 0 < anchorsInto c specs id := by omega
    obtain ⟨spec, hs, named, brings⟩ := exists_of_anchorsInto some
    obtain ⟨b, hb, p, batch, here⟩ := all.exists_batch hs brings
    obtain ⟨stored, mem, rfl, _, _⟩ := here.of_named order named
    refine ⟨stored.id, ?_⟩
    rw [liveCount_stored order all takes (List.mem_map_of_mem mem)]
    omega

theorem le_one_of_not_crowds (sound : s.store.Sound) (free : ¬crowds c specs)
    (single : ∀ id, s.store.liveCount (·.category.anchorsBundle) ctx.now id ≤ 1) {later : Instant}
    (hn : ctx.now ≤ later) (id : Uuid) :
    (s.store.commit ctx.now bs).liveCount (·.category.anchorsBundle) later id ≤ 1 := by
  by_cases stored : id ∈ s.store.bundleIds
  · have few : ¬1 < anchorsInto c specs id := fun many => free (.inr ⟨id, many⟩)
    have kept : s.store.liveCount (·.category.anchorsBundle) later id ≤
        s.store.liveCount (·.category.anchorsBundle) ctx.now id := Store.liveCount_later hn
    have before := single id
    rw [liveCount_stored order all takes stored]
    by_cases some : 0 < anchorsInto c specs id
    · -- who brings one has found none
      obtain ⟨spec, hs, named, brings⟩ := exists_of_anchorsInto some
      obtain ⟨b, _, p, batch, here⟩ := all.exists_batch hs brings
      have none := here.liveCount_eq_zero order brings named
      omega
    · omega
  · by_cases added : id ∈ (bs.filterMap (·.newBundle?)).map (·.id)
    · obtain ⟨new, hnew, rfl⟩ := List.mem_map.1 added
      obtain ⟨b, hb, hnew⟩ := List.mem_filterMap.1 hnew
      obtain ⟨spec, hs, unnamed, _, eq⟩ := liveCount_new order all takes sound hb hnew later
      have few : ¬1 < spec.anchors c := fun many => free (.inl ⟨spec, hs, unnamed, many⟩)
      omega
    · have nowhere : id ∉ (s.store.commit ctx.now bs).bundleIds := by
        rw [Store.bundleIds_commit, List.mem_append, not_or]
        exact ⟨stored, added⟩
      rw [Store.liveCount_of_not_mem (takes.sound sound) nowhere]
      exact Nat.zero_le 1

end

/-! ## every run -/

namespace Service
variable (c : Catalog) (max : Nat) (cached : Bool) {turns : List Turn}

theorem not_crowds_of_singleAnchors (distinct : DistinctIds turns)
    (law : (new c max cached).Always turns Store.SingleAnchors) :
    (new c max cached).Never turns fun _ t => t.request.crowds c := by
  intro earlier t a part answered crowd
  obtain ⟨serves, sound, _⟩ := reached c max cached distinct part
  have step := reached_step c max cached distinct part
  have single := (Store.singleAnchors_iff (step.sound sound)).1 (law earlier t part)
  cases request : t.request with
  | create specifiers rename =>
    rw [request] at crowd
    rw [answered] at step
    have ends := step.of_ok
    rw [request] at ends
    obtain ⟨bs, q, planned, takes, _, left⟩ := ends
    obtain ⟨id, many⟩ := exists_crowded serves.inOrder planned takes crowd t.context.now
    have few := single id
    rw [left] at few
    omega
  | _ =>
    rw [request] at crowd
    exact crowd

/-- whatever is live at an instant, it is alone from then on -/
theorem always_le_one (distinct : DistinctIds turns) (timely : Timely turns)
    (free : (new c max cached).Never turns fun _ t => t.request.crowds c) :
    (new c max cached).Always turns fun s now =>
      ∀ id, s.liveCount (·.category.anchorsBundle) now id ≤ 1 := by
  refine always_of_keeps timely (fun _ _ => Nat.zero_le 1) ?_
  intro earlier t part single later present id
  obtain ⟨serves, sound, _⟩ := reached c max cached distinct part
  rcases (reached_step c max cached distinct part).created_or_grew with
    ⟨specifiers, rename, bs, q, a, request, answered, planned, takes, left⟩ | grew
  · have fits : ¬crowds c specifiers := by
      intro crowd
      refine free earlier t a part answered ?_
      show t.request.crowds c
      rw [request]
      exact crowd
    rw [left]
    exact le_one_of_not_crowds serves.inOrder planned takes sound fits single present id
  · exact Nat.le_trans (grew.anchors_le present id) (single id)

theorem single_anchors_iff (distinct : DistinctIds turns) (timely : Timely turns) :
    (new c max cached).Always turns Store.SingleAnchors ↔
      (new c max cached).Never turns fun _ t => t.request.crowds c := by
  refine ⟨not_crowds_of_singleAnchors c max cached distinct, ?_⟩
  intro free earlier t part
  have step := reached_step c max cached distinct part
  obtain ⟨_, sound, _⟩ := reached c max cached distinct part
  rw [Store.singleAnchors_iff (step.sound sound)]
  exact always_le_one c max cached distinct timely free earlier t part

end Service

/-- a bundle, and a call that gives it two bases -/
def Shop.twoBases : List Turn :=
  let base := (BundleSpecifier.new [.forPlan "pistol-monthly"]).withBundleId (.ofNat 1000)
  [turn 1 (.createBundle owner none false), turn 2 (.create [base, base] false)]

theorem single_anchors_iff_twoBases :
    DistinctIds Shop.twoBases ∧ Timely Shop.twoBases ∧
      ((Service.new Shop.catalog 255 true).Always Shop.twoBases Store.SingleAnchors ↔
        (Service.new Shop.catalog 255 true).Never Shop.twoBases
          fun _ t => t.request.crowds Shop.catalog) := by
  have distinct : DistinctIds Shop.twoBases := by decide +kernel
  have timely : Timely Shop.twoBases := by decide +kernel
  exact ⟨distinct, timely, Service.single_anchors_iff Shop.catalog 255 true distinct timely⟩

theorem twoBases_not_singleAnchors :
    DistinctIds Shop.twoBases ∧ Timely Shop.twoBases ∧
      ¬((Service.new Shop.catalog 255 true).after Shop.twoBases).store.SingleAnchors
        (Shop.midnight 20002) := by
  decide +kernel

end SubscriptionBundles
