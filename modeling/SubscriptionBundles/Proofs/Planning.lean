import SubscriptionBundles.Proofs.Classification
import SubscriptionBundles.Proofs.Lifetime
import SubscriptionBundles.Service.Creation

/-!
# What a plan has checked

Planning a creation only reads.  Whatever it lets pass is taken apart here, step by step.

* `Store.isActive`            a bundle some base or standalone subscription of which has not ended;
* `planBundle_eq_ok`          a new bundle: its key is short, not claimed and not held actively;
* `targetBundle_eq_ok`        where a batch goes;
* `Planned`                   one batch that was let through;
* `PlannedAll`                the batches of a call, from one progress to another;
* `planBatches_eq_ok`         planning ends well exactly with such batches.
-/

namespace SubscriptionBundles

abbrev Service.store (s : Service) : Store := s.storage.store

/-! ## active bundles -/

def Store.isActive (s : Store) (now : Instant) (b : Bundle) : Bool :=
  hasLiveAnchor (s.recordsForBundle b.id) now

theorem hasLiveAnchor_eq (records : List SubscriptionRecord) (now : Instant) :
    hasLiveAnchor records now = records.any fun r => r.category.anchorsBundle && r.isLiveAt now := by
  unfold hasLiveAnchor
  simp only [SubscriptionRecord.isLiveAfter_eq]
  rfl

section
variable {s : Storage}

theorem firstActive?_eq (h : s.InOrder) (now : Instant) (bundles : List Bundle) :
    s.firstActive? now bundles = .ok (bundles.find? (s.store.isActive now)) := by
  induction bundles with
  | nil => rfl
  | cons b rest ih =>
    unfold Storage.firstActive? Storage.recordsForBundle
    rw [h.read]
    show (if s.store.isActive now b = true then _ else _) = _
    by_cases active : s.store.isActive now b = true
    · rw [if_pos active, List.find?_cons_of_pos active]
      rfl
    · rw [if_neg active, List.find?_cons_of_neg active, ih]

theorem activeBundleForKey?_eq (h : s.InOrder) (key : String) (now : Instant) :
    s.activeBundleForKey? key now =
      .ok ((s.store.bundlesForKey key).find? (s.store.isActive now)) := by
  unfold Storage.activeBundleForKey? Storage.bundlesForKey
  rw [h.read]
  exact firstActive?_eq h now _

end

/-! ## new bundles -/

/-- no bundle that is active carries the key -/
def Store.KeyFree (s : Store) (now : Instant) (key : String) : Prop :=
  ∀ b ∈ s.bundles, b.externalKey = some key → s.isActive now b = false

/-- the account's bundles that give a key up, each with the key it is left with -/
def Store.renames (s : Store) (account : Uuid) (rename : Bool) (key : Option String) :
    List (Uuid × String) :=
  match key with
  | some key =>
    if rename then
      (s.bundlesForAccountAndKey account key).map fun b => (b.id, cancelledKey b.id key)
    else []
  | none => []

theorem mem_renames {s : Store} {account : Uuid} {rename : Bool} {key : Option String}
    {r : Uuid × String} :
    r ∈ s.renames account rename key ↔
      rename = true ∧ ∃ k, key = some k ∧ ∃ b ∈ s.bundles, b.accountId = account ∧
        b.externalKey = some k ∧ r = (b.id, cancelledKey b.id k) := by
  unfold Store.renames Store.bundlesForAccountAndKey
  cases key with
  | none => simp
  | some k =>
    cases rename with
    | false => simp
    | true =>
      simp only [if_true, List.mem_map, List.mem_filter, Bool.and_eq_true, beq_iff_eq, true_and]
      constructor
      · intro given
        obtain ⟨b, ⟨hb, own, carries⟩, rfl⟩ := given
        exact ⟨k, rfl, b, hb, own, carries, rfl⟩
      · intro given
        obtain ⟨_, same, b, hb, own, carries, rfl⟩ := given
        cases same
        exact ⟨b, ⟨hb, own, carries⟩, rfl⟩

section
variable {s : Service} {now : Instant}

theorem find?_active_eq_none {store : Store} {key : String} :
    (store.bundlesForKey key).find? (store.isActive now) = none ↔ store.KeyFree now key := by
  rw [List.find?_eq_none]
  unfold Store.KeyFree Store.bundlesForKey
  simp

theorem checkKeyLength_eq_ok {max : Nat} {key : String} :
    checkKeyLength max key = .ok () ↔ key.length ≤ max := by
  unfold checkKeyLength
  refine refuse_eq_ok.trans ?_
  rw [Nat.not_lt]
  exact and_iff_left rfl

theorem checkKeyFree_eq_ok (h : s.storage.InOrder) {claimed : List String} {key : String} :
    checkKeyFree s now claimed key = .ok () ↔
      key.length ≤ s.maxKeyLength ∧ key ∉ claimed ∧ s.store.KeyFree now key := by
  unfold checkKeyFree
  rw [activeBundleForKey?_eq h, bind_eq_ok, ← checkKeyLength_eq_ok, ← find?_active_eq_none,
    ← List.contains_iff_mem]
  constructor
  · intro given
    obtain ⟨_, short, rest⟩ := given
    obtain ⟨unclaimed, rest⟩ := refuse_eq_ok.1 rest
    obtain ⟨free, _⟩ := refuse_eq_ok.1 rest
    rw [Option.not_isSome_iff_eq_none] at free
    exact ⟨short, unclaimed, free⟩
  · intro given
    obtain ⟨short, unclaimed, free⟩ := given
    refine ⟨(), short, refuse_eq_ok.2 ⟨unclaimed, refuse_eq_ok.2 ⟨?_, rfl⟩⟩⟩
    rw [Option.not_isSome_iff_eq_none]
    exact free

theorem renamesFor_eq (h : s.storage.InOrder) (account : Uuid) (key : String) (rename : Bool) :
    renamesFor s account key rename = .ok (s.store.renames account rename (some key)) := by
  unfold renamesFor Storage.bundlesForAccountAndKey
  rw [h.read]
  cases rename <;> rfl

theorem planBundle_eq_ok (h : s.storage.InOrder) {ctx : Context} {id account : Uuid}
    {claimed : List String} {rename : Bool} {key : Option String} {p : PlannedBundle} :
    planBundle s ctx id account claimed rename key = .ok p ↔
      p = ⟨.new id account key ctx.now, s.store.renames account rename key⟩ ∧
        ∀ k, key = some k →
          k.length ≤ s.maxKeyLength ∧ k ∉ claimed ∧ s.store.KeyFree ctx.now k := by
  unfold planBundle
  cases key with
  | none =>
    rw [pure_eq_ok, eq_comm]
    simp [Store.renames]
  | some k =>
    simp only [bind_eq_ok, renamesFor_eq h, checkKeyFree_eq_ok h, pure_eq_ok]
    constructor
    · intro given
      obtain ⟨_, free, _, same, rfl⟩ := given
      cases same
      refine ⟨rfl, ?_⟩
      intro k' same
      cases same
      exact free
    · intro given
      obtain ⟨rfl, free⟩ := given
      exact ⟨(), free k rfl, _, rfl, rfl⟩

/-! ## the bundle of a batch -/

variable {ctx : Context}

theorem bundleById_eq_ok (h : s.storage.InOrder) {id : Uuid} {key : Option String} {b : Bundle} :
    bundleById s ctx id key = .ok b ↔
      s.store.bundle? id = some b ∧ (∀ k, key = some k → b.externalKey = some k) ∧
        b.accountId = ctx.accountId := by
  unfold bundleById Storage.bundle?
  rw [h.read, bind_eq_ok]
  simp only [liftM_eq_ok, Except.ok.injEq, exists_eq_left']
  cases found : s.store.bundle? id with
  | none => exact ⟨nofun, nofun⟩
  | some stored =>
    cases key with
    | none =>
      refine refuse_eq_ok.trans ?_
      rw [pure_eq_ok, Option.some_inj, Decidable.not_not]
      constructor
      · intro given
        obtain ⟨own, rfl⟩ := given
        exact ⟨rfl, nofun, own⟩
      · intro given
        obtain ⟨rfl, _, own⟩ := given
        exact ⟨own, rfl⟩
    | some k =>
      refine (refuse_eq_ok.trans (and_congr_right fun _ => refuse_eq_ok)).trans ?_
      rw [pure_eq_ok, Option.some_inj, Decidable.not_not, Decidable.not_not]
      constructor
      · intro given
        obtain ⟨carries, own, rfl⟩ := given
        refine ⟨rfl, ?_, own⟩
        intro _ same
        cases same
        exact carries
      · intro given
        obtain ⟨rfl, carries, own⟩ := given
        exact ⟨carries k rfl, own, rfl⟩

theorem bundleByKey_eq_ok (h : s.storage.InOrder) {key : String} {b : Bundle} :
    bundleByKey s ctx key = .ok b ↔
      (s.store.bundlesForKey key).find? (s.store.isActive ctx.now) = some b ∧
        b.accountId = ctx.accountId := by
  unfold bundleByKey
  rw [activeBundleForKey?_eq h]
  simp only [bind_eq_ok, Except.ok.injEq, exists_eq_left']
  cases found : (s.store.bundlesForKey key).find? (s.store.isActive ctx.now) with
  | none => exact ⟨nofun, nofun⟩
  | some stored =>
    refine refuse_eq_ok.trans ?_
    rw [pure_eq_ok, Option.some_inj, Decidable.not_not]
    constructor
    · intro given
      obtain ⟨own, rfl⟩ := given
      exact ⟨rfl, own⟩
    · intro given
      obtain ⟨rfl, own⟩ := given
      exact ⟨own, rfl⟩

/-- a bundle that is named, a new one, or the active one of the key -/
theorem targetBundle_eq_ok {spec : BundleSpecifier} {batch : Batch} {id : Uuid}
    {claimed : List String} {rename : Bool} {t : Target} :
    targetBundle s ctx spec batch id claimed rename = .ok t ↔
      (∃ named b, spec.bundleId = some named ∧ t = .existing b ∧
          bundleById s ctx named spec.bundleExternalKey = .ok b) ∨
        (∃ p, spec.bundleId = none ∧ batch.establishesBundle = true ∧ t = .new p ∧
          planBundle s ctx id ctx.accountId claimed rename spec.bundleExternalKey = .ok p) ∨
        ∃ key b, spec.bundleId = none ∧ batch.establishesBundle = false ∧
          spec.bundleExternalKey = some key ∧ t = .existing b ∧ bundleByKey s ctx key = .ok b := by
  unfold targetBundle
  cases named : spec.bundleId with
  | some bundleId =>
    simp only [bind_eq_ok, pure_eq_ok]
    constructor
    · intro given
      obtain ⟨b, hb, rfl⟩ := given
      exact .inl ⟨bundleId, b, rfl, rfl, hb⟩
    · intro given
      rcases given with ⟨_, b, same, rfl, hb⟩ | ⟨_, h, _⟩ | ⟨_, _, h, _⟩
      · cases same
        exact ⟨b, hb, rfl⟩
      · cases h
      · cases h
  | none =>
    cases brings : batch.establishesBundle with
    | true =>
      show (planBundle _ _ _ _ _ _ _ >>= fun p => pure (Target.new p)) = _ ↔ _
      simp only [bind_eq_ok, pure_eq_ok]
      constructor
      · intro given
        obtain ⟨p, hp, rfl⟩ := given
        exact .inr (.inl ⟨p, trivial, trivial, rfl, hp⟩)
      · intro given
        rcases given with ⟨_, _, h, _⟩ | ⟨p, _, _, rfl, hp⟩ | ⟨_, _, _, h, _⟩
        · cases h
        · exact ⟨p, hp, rfl⟩
        · cases h
    | false =>
      cases keyed : spec.bundleExternalKey with
      | none =>
        constructor
        · intro h
          cases h
        · rintro (⟨_, _, h, _⟩ | ⟨_, _, h, _⟩ | ⟨_, _, _, _, h, _⟩) <;> cases h
      | some key =>
        show (bundleByKey _ _ _ >>= fun b => pure (Target.existing b)) = _ ↔ _
        simp only [bind_eq_ok, pure_eq_ok]
        constructor
        · intro given
          obtain ⟨b, hb, rfl⟩ := given
          exact .inr (.inr ⟨key, b, trivial, trivial, rfl, rfl, hb⟩)
        · intro given
          rcases given with ⟨_, _, h, _⟩ | ⟨_, _, h, _⟩ | ⟨_, b, _, _, same, rfl, hb⟩
          · cases h
          · cases h
          · cases same
            exact ⟨b, hb, rfl⟩

end

/-! ## batches -/

/-- the records a batch finds in its bundle -/
def Target.stored (s : Store) : Target → List SubscriptionRecord
  | .existing b => s.recordsForBundle b.id
  | .new _ => []

/-- what the plans of a batch are checked against, read from the store -/
def checksFor (s : Store) (ctx : Context) (c : Catalog) (p : Progress) (spec : BundleSpecifier)
    (batch : Batch) (t : Target) : BatchChecks :=
  let snapshot := Snapshot.take t.bundle.id t.bundle.externalKey (t.stored s) ctx.now
  { catalog := c
    batch := batch
    target := t
    snapshot := snapshot
    requested := requestedStart ctx spec batch snapshot
    joining := (p.after t batch).joiningBundle t.bundle.id
    processedDate := ctx.now
    migrated := spec.migrated }

section
variable (s : Service) (ctx : Context) (c : Catalog) (ids : Nat → Uuid) (rename : Bool)

/-- a batch that was let through when the call had come as far as `p` -/
structure Planned (p : Progress) (spec : BundleSpecifier) (batch : Batch) (b : PlannedBatch) :
    Prop where
  classified : Batch.classify c spec.entitlements = .ok batch
  nonempty : batch.isEmpty = false
  target : targetBundle s ctx spec batch (ids p.drawn) p.keys rename = .ok b.target
  records : (checksFor s.store ctx c p spec batch b.target).plannedRecords ids
    (p.drawn + b.target.drawn) none batch.entitlements = .ok b.records

/-- the batches of specifiers, and how far they bring the call -/
inductive PlannedAll : Progress → List BundleSpecifier → List PlannedBatch → Progress → Prop
  | nil (p : Progress) : PlannedAll p [] [] p
  | skip {p q : Progress} {spec : BundleSpecifier} {batch : Batch} {rest : List BundleSpecifier}
      {bs : List PlannedBatch} (classified : Batch.classify c spec.entitlements = .ok batch)
      (empty : batch.isEmpty = true) (later : PlannedAll p rest bs q) :
      PlannedAll p (spec :: rest) bs q
  | plan {p q : Progress} {spec : BundleSpecifier} {batch : Batch} {b : PlannedBatch}
      {rest : List BundleSpecifier} {bs : List PlannedBatch}
      (planned : Planned s ctx c ids rename p spec batch b)
      (later : PlannedAll (p.after b.target batch) rest bs q) :
      PlannedAll p (spec :: rest) (b :: bs) q

variable {s ctx c ids rename}

theorem stored_eq (h : s.storage.InOrder) (t : Target) :
    t.records s.storage = .ok (t.stored s.store) := by
  cases t with
  | existing b =>
    show liftM (s.storage.recordsForBundle b.id) = _
    unfold Storage.recordsForBundle
    rw [h.read]
    rfl
  | new _ => rfl

theorem planBatch_eq_ok (h : s.storage.InOrder) {p q : Progress} {spec : BundleSpecifier}
    {planned : Option PlannedBatch} :
    planBatch s ctx c ids rename p spec = .ok (planned, q) ↔
      ∃ batch, Batch.classify c spec.entitlements = .ok batch ∧
        (batch.isEmpty = true ∧ planned = none ∧ q = p ∨
          ∃ b, planned = some b ∧ q = p.after b.target batch ∧
            Planned s ctx c ids rename p spec batch b) := by
  unfold planBatch
  rw [bind_eq_ok]
  refine exists_congr fun batch => and_congr_right fun classified => ?_
  by_cases empty : batch.isEmpty = true
  · rw [if_pos empty, pure_eq_ok, Prod.mk.injEq]
    constructor
    · intro given
      obtain ⟨rfl, rfl⟩ := given
      exact .inl ⟨empty, rfl, rfl⟩
    · intro given
      rcases given with ⟨_, rfl, rfl⟩ | ⟨b, _, _, through⟩
      · exact ⟨rfl, rfl⟩
      · rw [through.nonempty] at empty
        cases empty
  · rw [if_neg empty]
    simp only [bind_eq_ok, stored_eq h, pure_eq_ok, Prod.mk.injEq]
    constructor
    · intro given
      obtain ⟨t, ht, _, same, records, hr, rfl, rfl⟩ := given
      cases same
      exact .inr ⟨⟨t, records⟩, rfl, rfl, classified, by simpa using empty, ht, hr⟩
    · intro given
      rcases given with ⟨h, _⟩ | ⟨b, rfl, rfl, through⟩
      · exact absurd h empty
      · exact ⟨b.target, through.target, _, rfl, b.records, through.records, rfl, rfl⟩

theorem planBatches_eq_ok (h : s.storage.InOrder) {p : Progress} {specs : List BundleSpecifier}
    {bs : List PlannedBatch} :
    planBatches s ctx c ids rename p specs = .ok bs ↔
      ∃ q, PlannedAll s ctx c ids rename p specs bs q := by
  induction specs generalizing p bs with
  | nil =>
    constructor
    · intro ok
      cases ok
      exact ⟨p, .nil p⟩
    · intro given
      obtain ⟨_, ⟨⟩⟩ := given
      rfl
  | cons spec rest ih =>
    unfold planBatches
    simp only [bind_eq_ok, Prod.exists, planBatch_eq_ok h, pure_eq_ok, ih]
    constructor
    · rintro ⟨planned, next, ⟨batch, classified, ⟨empty, rfl, rfl⟩ | ⟨b, rfl, rfl, through⟩⟩, later,
        ⟨q, all⟩, rfl⟩
      · exact ⟨q, .skip classified empty all⟩
      · exact ⟨q, .plan through all⟩
    · intro given
      obtain ⟨q, all⟩ := given
      cases all with
      | skip classified empty later =>
        exact ⟨none, p, ⟨_, classified, .inl ⟨empty, rfl, rfl⟩⟩, bs, ⟨q, later⟩, rfl⟩
      | plan through later =>
        exact ⟨some _, _, ⟨_, through.classified, .inr ⟨_, rfl, rfl, through⟩⟩, _, ⟨q, later⟩, rfl⟩

end

end SubscriptionBundles
