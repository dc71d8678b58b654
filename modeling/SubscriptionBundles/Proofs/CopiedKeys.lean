import SubscriptionBundles.Proofs.TurnKeys

/-!
# The key that a record copies

A record copies the key of its bundle when it is created, and keeps the copy.  Bundles may be given
other keys later on.

* `SubscriptionRecord.names`                what a record keeps for good: its bundle and its copy;
* `Turn.Rekeys`                             a turn gives a bundle another key;
* `Step.names_prefix`, `Step.copied_key`    no turn changes a copy, and a new record copies the key of
                                            its bundle;
* `Service.copied_key_until_rekeyed`        a copy is the key of the bundle unless the bundle was given
                                            another since.
-/

namespace SubscriptionBundles

open Service (Turn)

/-- what names a record: its id, its bundle and the copy of the bundle's key -/
def SubscriptionRecord.names (r : SubscriptionRecord) : Uuid × Uuid × Option String :=
  (r.id, r.bundleId, r.bundleExternalKey)

/-- a bundle gives its key up, or is given another in its place -/
def Service.Turn.Rekeys (c : Catalog) (s : Store) (t : Turn) (id : Uuid) : Prop :=
  ∃ b ∈ s.bundles, b.id = id ∧ ((∃ key, t.GivesUp c b key) ∨
    ∃ key, t.request = .updateExternalKey id key ∧ b.externalKey ≠ some key)

/-- whenever the record is asked for, it shows its bundle and the key that it copied -/
def Service.ShowsCopy (s : Service) (r : SubscriptionRecord) : Prop :=
  ∀ ctx, ∃ shown, (s.subscription ctx r.id).1 = .ok shown ∧ shown.bundleId = r.bundleId ∧
    shown.bundleExternalKey = r.bundleExternalKey

/-- the bundle of a record was given another key by a turn that left the record, new or old -/
def Service.RekeyedSince (s : Service) (c : Catalog) (turns : List Turn) (r : SubscriptionRecord) :
    Prop :=
  ∃ earlier t a, earlier ++ [t] <+: turns ∧ ((s.after earlier).turn t).1 = .ok a ∧
    r.id ∈ ((s.after earlier).turn t).2.store.recordIds ∧ t.Rekeys c (s.after earlier).store r.bundleId

theorem Service.RekeyedSince.mono {s : Service} {c : Catalog} {earlier turns : List Turn}
    {r : SubscriptionRecord} (h : s.RekeyedSince c earlier r) (part : earlier <+: turns) :
    s.RekeyedSince c turns r := by
  obtain ⟨past, t, a, stage, rest⟩ := h
  exact ⟨past, t, a, stage.trans part, rest⟩

theorem Service.Turn.leftKey_of_not_rekeys {c : Catalog} {s : Store} {t : Turn} {b : Bundle}
    (stored : b ∈ s.bundles) (kept : ¬t.Rekeys c s b.id) : t.leftKey c b = b.externalKey := by
  rcases t.leftKey_eq c b with same | ⟨key, gives, _⟩ | ⟨key, request, given⟩
  · exact same
  · exact absurd ⟨b, stored, rfl, .inl ⟨key, gives⟩⟩ kept
  · refine given.trans (Eq.symm (Decidable.not_not.1 fun other => kept ?_))
    exact ⟨b, stored, rfl, .inr ⟨key, request, other⟩⟩

/-! ## one turn -/

namespace Step
variable {s : Service} {c : Catalog} {t : Turn} {store : Store}

/-- a turn leaves the names of the records as they are, or is a creation -/
theorem names_eq {a : Except SubscriptionError Answer} (h : Step s c t a store) :
    store.records.map (·.names) = s.store.records.map (·.names) ∨
      ∃ specifiers rename bs q, PlannedAll s t.context c t.ids rename .start specifiers bs q ∧
        s.store.Takes bs ∧ store = s.store.commit t.context.now bs := by
  cases h with
  | refused | read | rekeyed => exact .inl rfl
  | created _ planned takes => exact .inr ⟨_, _, _, _, planned, takes, rfl⟩
  | bundleCreated =>
    left
    simp [Store.commit]
  | continued =>
    left
    exact List.map_map
  | charged =>
    left
    refine List.map_map.trans (List.map_congr_left fun r _ => ?_)
    show (if _ then _ else r).names = r.names
    split <;> rfl

/-- no turn changes what names a record -/
theorem names_prefix {a : Except SubscriptionError Answer} (h : Step s c t a store) :
    s.store.records.map (·.names) <+: store.records.map (·.names) := by
  rcases h.names_eq with same | ⟨_, _, bs, _, _, _, rfl⟩
  · exact ⟨[], (List.append_nil _).trans same.symm⟩
  · show _ <+: (s.store.records ++ bs.flatMap (·.records)).map (·.names)
    rw [List.map_append]
    exact List.prefix_append _ _

section
variable {a : Answer} (order : s.storage.InOrder) (sound : s.store.Sound)
  (h : Step s c t (.ok a) store)
include order sound h

/-- a bundle that was there and is not given another key keeps its own -/
theorem externalKey_kept {b b' : Bundle} (stored : b ∈ s.store.bundles) (mem : b' ∈ store.bundles)
    (same : b'.id = b.id) (kept : ¬t.Rekeys c s.store b.id) : b'.externalKey = b.externalKey := by
  rcases h.bundle_cases order sound mem with ⟨old, ho, one, left⟩ | ⟨new, _⟩
  · obtain rfl := sound.bundle_eq ho stored (one.symm.trans same)
    rw [left, Turn.leftKey_of_not_rekeys stored kept]
  · rw [same] at new
    exact absurd (List.mem_map_of_mem stored) new

/-- a record that is new copies the key of its bundle, unless that is given another by the same turn -/
theorem copied_key {specifiers : List BundleSpecifier} {rename : Bool} {bs : List PlannedBatch}
    {q : Progress} (all : PlannedAll s t.context c t.ids rename .start specifiers bs q)
    (left : store = s.store.commit t.context.now bs) (sound' : store.Sound) {r : SubscriptionRecord}
    (new : r ∈ bs.flatMap (·.records)) (kept : ¬t.Rekeys c s.store r.bundleId) {b' : Bundle}
    (mem : b' ∈ store.bundles) (home : b'.id = r.bundleId) : r.bundleExternalKey = b'.externalKey := by
  obtain ⟨batch, hb, hr⟩ := List.mem_flatMap.1 new
  obtain ⟨_, _, _, _, here⟩ := all.of_mem batch hb
  rw [here.within r hr] at kept home
  rw [here.bundleExternalKey r hr]
  cases created : batch.newBundle? with
  | none =>
    have stored : batch.target.bundle ∈ s.store.bundles := by
      have aim := here.aim order
      unfold PlannedBatch.newBundle? at created
      generalize batch.target = target at aim created
      cases aim with
      | named _ stored | keyed _ _ _ stored => exact stored
      | new => cases created
    exact (h.externalKey_kept order sound stored mem home kept).symm
  | some fresh =>
    rw [PlannedBatch.bundle_of_newBundle? created] at home ⊢
    have added : fresh ∈ store.bundles := by
      rw [left]
      exact Store.mem_commit.2 (.inr (List.mem_filterMap.2 ⟨batch, hb, created⟩))
    rw [sound'.bundle_eq mem added home]

end

end Step

/-! ## every turn -/

namespace Service
variable (c : Catalog) (max : Nat) (cached : Bool) {turns : List Turn}

/-- copies are kept from any turn on -/
theorem names_kept (distinct : DistinctIds turns) {earlier : List Turn} (part : earlier <+: turns) :
    ((new c max cached).after earlier).store.records.map (·.names) <+:
      ((new c max cached).after turns).store.records.map (·.names) := by
  obtain ⟨later, rfl⟩ := part
  rw [after_append]
  refine after_induction (P := fun _ s => _ <+: s.store.records.map (·.names))
    (List.prefix_refl _) ?_
  intro more t stage kept
  have reach : earlier ++ more ++ [t] <+: earlier ++ later := by
    rw [List.append_assoc]
    exact List.prefix_append_right_inj earlier |>.2 stage
  have step := reached_step c max cached distinct reach
  rw [after_append] at step
  exact kept.trans step.names_prefix

theorem run_copied_key (distinct : DistinctIds turns) :
    ∀ r ∈ ((new c max cached).after turns).store.records,
      ∀ b ∈ ((new c max cached).after turns).store.bundles, b.id = r.bundleId →
        r.bundleExternalKey = b.externalKey ∨ (new c max cached).RekeyedSince c turns r := by
  refine after_induction (P := fun turns s => ∀ r ∈ s.store.records, ∀ b ∈ s.store.bundles,
    b.id = r.bundleId → r.bundleExternalKey = b.externalKey ∨
      (new c max cached).RekeyedSince c turns r) ?_ ?_
  · intro r hr
    cases hr
  · intro earlier t part copied r' hr' b' hb' home
    obtain ⟨serves, sound, fresh⟩ := reached c max cached distinct part
    have step := reached_step c max cached distinct part
    have sound' := step.sound sound
    cases ended : (((new c max cached).after earlier).turn t).1 with
    | error e =>
      rw [ended] at step
      rw [step.of_error] at hr' hb'
      exact (copied r' hr' b' hb' home).imp_right fun since => since.mono (List.prefix_append _ _)
    | ok a =>
      rw [ended] at step
      by_cases kept : t.Rekeys c ((new c max cached).after earlier).store r'.bundleId
      · exact .inr ⟨earlier, t, a, List.prefix_refl _, ended, List.mem_map_of_mem hr', kept⟩
      · have old : ∀ r ∈ ((new c max cached).after earlier).store.records, r.names = r'.names →
            r'.bundleExternalKey = b'.externalKey ∨
              (new c max cached).RekeyedSince c (earlier ++ [t]) r' := by
          intro r hr same
          obtain ⟨id, bundle, key⟩ : r.id = r'.id ∧ r.bundleId = r'.bundleId ∧
              r.bundleExternalKey = r'.bundleExternalKey := by
            simpa [SubscriptionRecord.names] using same
          obtain ⟨b, hb, one⟩ := List.mem_map.1 (sound.homes r hr)
          rw [bundle] at one
          rw [step.externalKey_kept serves.inOrder sound hb hb' (home.trans one.symm) (one ▸ kept),
            ← key]
          refine (copied r hr b hb (one.trans bundle.symm)).imp_right fun since => ?_
          have since := since.mono (List.prefix_append earlier [t])
          unfold RekeyedSince at since ⊢
          rw [← id, ← bundle]
          exact since
        rcases step.names_eq with same | ⟨_, _, bs, _, planned, _, left⟩
        · have mem := List.mem_map_of_mem (f := (·.names)) hr'
          rw [same] at mem
          obtain ⟨r, hr, names⟩ := List.mem_map.1 mem
          exact old r hr names
        · have mem := hr'
          rw [left] at mem
          rcases List.mem_append.1 mem with stored | new
          · exact old r' stored rfl
          · exact .inl (step.copied_key serves.inOrder sound planned left sound' new kept hb' home)

/-- Every record reports the key that it copied, for good; it is the one that its bundle reports,
unless the bundle was given another by the turn that made the record or by a later one. -/
theorem copied_key_until_rekeyed (distinct : DistinctIds turns) :
    let s := (new c max cached).after turns
    (∀ earlier, earlier <+: turns → ((new c max cached).after earlier).store.records.map (·.names) <+:
        s.store.records.map (·.names)) ∧
      ∀ r ∈ s.store.records, s.ShowsCopy r ∧ ∃ b, (s.bundle r.bundleId).1 = .ok b ∧
        (r.bundleExternalKey = b.externalKey ∨ (new c max cached).RekeyedSince c turns r) := by
  intro s
  obtain ⟨serves, sound, _⟩ := run_sound c max cached distinct
  refine ⟨fun earlier part => names_kept c max cached distinct part, ?_⟩
  intro r hr
  obtain ⟨b, hb, home⟩ := List.mem_map.1 (sound.homes r hr)
  refine ⟨?_, b, ?_, run_copied_key c max cached distinct r hr b hb home⟩
  · intro ctx
    refine ⟨.rebuild r [] ctx.now, ?_, rfl, rfl⟩
    show (s.storage.requireRecord r.id >>= fun r => pure (Subscription.rebuild r [] ctx.now)) = _
    rw [(requireRecord_eq_ok serves.inOrder).2 (sound.record?_eq hr)]
    rfl
  · rw [← home]
    exact (requireBundle_eq_ok serves.inOrder).2 (sound.bundle?_eq hb)

end Service

/-! ## a key that is changed -/

/-- a pistol in a bundle that is given another key later on -/
def carToBoat : List Turn :=
  [Shop.turn 1 (.create [(BundleSpecifier.new [.forPlan "pistol-monthly"]).withExternalKey "car"] false),
    Shop.turn 2 (.updateExternalKey (.ofNat 1000) "boat")]

theorem copied_key_until_rekeyed_carToBoat :
    let s := (Service.new Shop.catalog 255 true).after carToBoat
    DistinctIds carToBoat ∧
      (∀ earlier, earlier <+: carToBoat →
        ((Service.new Shop.catalog 255 true).after earlier).store.records.map (·.names) <+:
          s.store.records.map (·.names)) ∧
      ∀ r ∈ s.store.records, s.ShowsCopy r ∧ ∃ b, (s.bundle r.bundleId).1 = .ok b ∧
        (r.bundleExternalKey = b.externalKey ∨
          (Service.new Shop.catalog 255 true).RekeyedSince Shop.catalog carToBoat r) :=
  ⟨by decide, Service.copied_key_until_rekeyed Shop.catalog 255 true (by decide)⟩

/-- its copy is the old key -/
theorem carToBoat_copy_differs :
    let s := ((Service.new Shop.catalog 255 true).after carToBoat).store
    DistinctIds carToBoat ∧ ∃ r ∈ s.records, ∃ b ∈ s.bundles, b.id = r.bundleId ∧
      r.bundleExternalKey = some "car" ∧ b.externalKey = some "boat" := by
  decide +kernel

end SubscriptionBundles
