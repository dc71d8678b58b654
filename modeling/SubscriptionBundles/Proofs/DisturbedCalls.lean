import SubscriptionBundles.Proofs.SplitCalls

/-!
# Calls that tell their disturbances

A specifier that earlier ones of its call disturb is refused in a call of its own, or leaves other
keys or subscriptions in other bundles.

* `PlannedAll.split`, `CallsFor.split`   a call, and calls of their own, up to one specifier;
* `Store.records_of_commit`              where two stores hold the same records, batch by batch;
* `Planned.inherited_of_disturbed`       what is disturbed is refused, leaves other records, or takes
                                         an inherited key;
* `Store.HoldsLonger`                    a key that has been given up is longer and stays so.
-/

namespace SubscriptionBundles

open Service (Turn)

/-! ## splitting a call -/

section
variable {s : Service} {ctx : Context} {c : Catalog} {ids : Nat → Uuid} {rename : Bool}
  {p q r : Progress} {spec : BundleSpecifier} {batch : Batch} {b : PlannedBatch}

theorem PlannedAll.split {specs more : List BundleSpecifier} {bs : List PlannedBatch}
    (all : PlannedAll s ctx c ids rename p (specs ++ more) bs r) :
    ∃ q first later, bs = first ++ later ∧ PlannedAll s ctx c ids rename p specs first q ∧
      PlannedAll s ctx c ids rename q more later r := by
  induction specs generalizing p bs with
  | nil => exact ⟨p, [], bs, rfl, .nil p, all⟩
  | cons spec rest ih =>
    cases all with
    | skip classified empty others =>
      obtain ⟨q, first, later, rfl, here, there⟩ := ih others
      exact ⟨q, first, later, rfl, .skip classified empty here, there⟩
    | @plan _ _ _ _ b _ _ planned others =>
      obtain ⟨q, first, later, rfl, here, there⟩ := ih others
      exact ⟨q, b :: first, later, rfl, .plan planned here, there⟩

/-- a specifier that creates something has its batch -/
theorem PlannedAll.head_of_creates {rest : List BundleSpecifier} {bs : List PlannedBatch}
    (all : PlannedAll s ctx c ids rename p (spec :: rest) bs q) (creates : spec.creates = true) :
    ∃ batch b later, bs = b :: later ∧ Planned s ctx c ids rename p spec batch b := by
  cases all with
  | skip classified empty _ =>
    rw [Batch.classify_isEmpty classified] at empty
    unfold BundleSpecifier.creates at creates
    rw [creates] at empty
    cases empty
  | plan here _ => exact ⟨_, _, _, rfl, here⟩

theorem CallsFor.split {before after : List BundleSpecifier} {parts : List Turn}
    (calls : CallsFor ctx rename (before ++ spec :: after) parts) :
    ∃ pre u post, parts = pre ++ u :: post ∧ CallsFor ctx rename before pre ∧
      (u.context = ctx ∧ u.request = .create [spec] rename) ∧ CallsFor ctx rename after post := by
  induction before generalizing parts with
  | nil =>
    cases calls with
    | cons call others => exact ⟨[], _, _, rfl, .nil, call, others⟩
  | cons first before ih =>
    cases calls with
    | @cons _ v _ _ call others =>
      obtain ⟨pre, u, post, rfl, here, middle, there⟩ := ih others
      exact ⟨v :: pre, u, post, rfl, .cons call here, middle, there⟩

/-- who asks for a base or standalone creates something -/
theorem BundleSpecifier.creates_of_anchors (brings : 0 < spec.anchors c) : spec.creates = true := by
  obtain ⟨e, he, _⟩ := List.countP_pos_iff.1 brings
  obtain ⟨entitlement, mem, resolves⟩ := List.mem_filterMap.1 he
  refine List.any_eq_true.2 ⟨entitlement, mem, ?_⟩
  cases asked : entitlement.plan with
  | some _ => rfl
  | none =>
    unfold EntitlementSpecifier.resolve? at resolves
    rw [asked] at resolves
    cases resolves

theorem BundleSpecifier.takes?_eq_some {key : String} (h : spec.takes? c = some key) :
    spec.bundleId = none ∧ 0 < spec.anchors c ∧ spec.bundleExternalKey = some key := by
  unfold takes? at h
  split at h
  · next given => exact ⟨given.1, given.2, h⟩
  · cases h

theorem Store.Disturbed.creates {store : Store} {earlier : List BundleSpecifier}
    (h : store.Disturbed c ctx rename earlier spec) : spec.creates = true := by
  cases h with
  | crowded _ brings => exact spec.creates_of_anchors brings
  | rekeyed _ _ brings => exact spec.creates_of_anchors brings
  | misled creates => exact creates
  | inherited taken => exact spec.creates_of_anchors (spec.takes?_eq_some taken).2.1

theorem takenKeys_append (c : Catalog) (a b : List BundleSpecifier) :
    takenKeys c (a ++ b) = takenKeys c a ++ takenKeys c b :=
  List.filterMap_append

/-! ## the records of a specifier -/

/-- what stands in the middle of two lists that are equal -/
theorem middle_of_append {α β : Type} {f : α → β} {a b rest : List α} {a' b' rest' : List β}
    (same : (a ++ (b ++ rest)).map f = a' ++ (b' ++ rest')) (first : a.length = a'.length)
    (second : b.length = b'.length) : b.map f = b' := by
  rw [List.map_append, List.map_append] at same
  have tails := (List.append_inj same (by rw [List.length_map, first])).2
  exact (List.append_inj tails (by rw [List.length_map, second])).1

/-- two rows of batches that leave the same records, up to names, where they stand alike -/
theorem Store.records_of_commit {store : Store} {now : Instant} {σ : Uuid → Uuid}
    {first first' later later' : List PlannedBatch} {b b' : PlannedBatch}
    {added : List SubscriptionRecord}
    (same : ((store.commit now (first ++ b :: later)).relabel σ).records =
      ((store.commit now first').commit now (b' :: later')).records ++ added)
    (before : (first.flatMap (·.records)).length = (first'.flatMap (·.records)).length)
    (here : b.records.length = b'.records.length) : b.records.map (.relabel σ σ) = b'.records := by
  have rows : ((store.records ++ first.flatMap (·.records)) ++
      (b.records ++ later.flatMap (·.records))).map (.relabel σ σ) =
        (store.records ++ first'.flatMap (·.records)) ++
          (b'.records ++ (later'.flatMap (·.records) ++ added)) := by
    simpa [commit, relabel] using same
  exact middle_of_append rows (by rw [List.length_append, List.length_append, before]) here

theorem Planned.exists_record (h : Planned s ctx c ids rename p spec batch b) : ∃ r, r ∈ b.records := by
  obtain ⟨e, rest, first⟩ := Batch.exists_entitlement h.nonempty
  have length := BatchChecks.plannedRecords_length h.records
  rw [first, List.length_cons] at length
  exact List.exists_mem_of_length_pos (by omega)

section
variable {earlier : List BundleSpecifier} {bs : List PlannedBatch} {batch' : Batch}
  {b' : PlannedBatch} {p' : Progress} {ids' ids'' : Nat → Uuid} {s' : Service}
  (order : s.storage.InOrder) (all : PlannedAll s ctx c ids rename .start earlier bs p) (takes : s.store.Takes bs)
  (order' : s'.storage.InOrder) (left : s'.store = s.store.commit ctx.now bs)
  (alone : Planned s' ctx c ids' rename q spec batch' b')
include order all takes order' left alone

/-- a crowded bundle takes no base or standalone -/
theorem Planned.uncrowded {id : Uuid} (stored : id ∈ s.store.bundleIds)
    (named : spec.bundleId = some id) (brings : 0 < spec.anchors c) : anchorsInto c earlier id = 0 := by
  have none := alone.liveCount_eq_zero order' brings named
  rw [left, liveCount_stored order all takes stored] at none
  omega

section
variable (sound : s.store.Sound)
include sound

/-- the bundle that it names carries the key it is left with -/
theorem Planned.leftKey_of_named {old : Bundle} (stored : old ∈ s.store.bundles)
    (named : spec.bundleId = some old.id) :
    b'.target.bundle.externalKey = old.leftKey ctx.accountId rename (takenKeys c earlier) := by
  obtain ⟨found, mem, same, _, target⟩ := alone.of_named order' named
  rw [left] at mem
  have kept : old.after ctx.now bs ∈ (s.store.commit ctx.now bs).bundles :=
    Store.mem_commit.2 (.inl ⟨old, stored, rfl⟩)
  have one := (takes.sound sound).bundle_eq mem kept (by rw [same, Bundle.after_id])
  rw [target, ← all.externalKey_after order sound stored, ← one]
  rfl

/-- the bundle of its key is new, or one that the key finds -/
theorem Planned.foundBy_of_keyed {key : String} (unnamed : spec.bundleId = none)
    (keyed : spec.bundleExternalKey = some key) :
    0 < spec.anchors c ∧ s.store.foundBy c ctx rename earlier key = none ∨
      spec.anchors c = 0 ∧ (b'.target.bundle.id ∈ s.store.bundleIds →
        ∃ found, s.store.foundBy c ctx rename earlier key = some found ∧
          found.id = b'.target.bundle.id) := by
  have lookup := all.bundlesForKey_find? order sound takes key
  have brings := Batch.establishesBundle_iff alone.classified
  rw [alone.anchors_eq] at brings
  rcases targetBundle_eq_ok.1 alone.target with
    ⟨_, _, named, _⟩ | ⟨planned, _, establishes, _, hp⟩ | ⟨key', found, _, plain, keyed', target, hf⟩
  · rw [unnamed] at named
    cases named
  · left
    obtain ⟨_, free⟩ := (planBundle_eq_ok order').1 hp
    have none := find?_active_eq_none.2 (free key keyed).2.2
    rw [left, lookup, Option.or_eq_none_iff, Option.map_eq_none_iff] at none
    exact ⟨brings.1 establishes, none.1⟩
  · right
    rw [keyed] at keyed'
    cases keyed'
    refine ⟨?_, ?_⟩
    · have : ¬0 < spec.anchors c := by
        rw [← brings, plain]
        exact Bool.false_ne_true
      omega
    · intro old
      obtain ⟨finds, _⟩ := (bundleByKey_eq_ok order').1 hf
      rw [left, lookup, Option.or_eq_some_iff] at finds
      rw [target] at old ⊢
      rcases finds with stored | ⟨_, new⟩
      · obtain ⟨before, hb, rfl⟩ := Option.map_eq_some_iff.1 stored
        exact ⟨before, hb, (Bundle.after_id _ _ _).symm⟩
      · obtain ⟨b, hb, hn⟩ := List.mem_filterMap.1 (List.mem_of_find?_eq_some new)
        exact absurd old (takes.not_mem_of_newBundle? hb hn)

/-- a specifier that leaves the same records is disturbed by a key that was inherited at most -/
theorem Planned.inherited_of_disturbed {σ : Uuid → Uuid} (fixed : ∀ id ∈ s.store.bundleIds, σ id = id)
    (here : Planned s ctx c ids'' rename p' spec batch b)
    (same : b.records.map (.relabel σ σ) = b'.records)
    (disturbed : s.store.Disturbed c ctx rename earlier spec) :
    ∃ old ∈ s.store.bundles, ∃ key, spec.takes? c = some key ∧ old.accountId = ctx.accountId ∧
      old.leftKey ctx.accountId rename (takenKeys c earlier) = some key ∧
        old.externalKey ≠ some key := by
  obtain ⟨r, hr⟩ := here.exists_record
  have hr' : r.relabel σ σ ∈ b'.records := by
    rw [← same]
    exact List.mem_map_of_mem hr
  have key : b'.target.bundle.externalKey = b.target.bundle.externalKey := by
    rw [← here.bundleExternalKey r hr, ← alone.bundleExternalKey _ hr']
    rfl
  have home : b'.target.bundle.id = σ b.target.bundle.id := by
    rw [← here.within r hr, ← alone.within _ hr']
    rfl
  cases disturbed with
  | crowded named brings given =>
    obtain ⟨stored, mem, rfl, _, _⟩ := here.of_named order named
    have none := alone.uncrowded order all takes order' left (List.mem_map_of_mem mem) named brings
    omega
  | @rekeyed old stored named _ gone =>
    obtain ⟨found, mem, one, _, target⟩ := here.of_named order named
    obtain rfl : found = old := sound.bundle_eq mem stored one
    rw [alone.leftKey_of_named order all takes order' left sound stored named, target] at key
    exact absurd key gone
  | @misled key _ unnamed keyed other =>
    have finds := alone.foundBy_of_keyed order all takes order' left sound unnamed keyed
    -- the call of all has read the store as nothing had been done
    have nothing : PlannedAll s ctx c ids'' rename .start [] [] .start := .nil _
    have found := here.foundBy_of_keyed order nothing (.nil sound) order
      (s.store.commit_nil ctx.now).symm sound unnamed keyed
    rcases finds with ⟨brings, none⟩ | ⟨plain, finds⟩
    · rcases found with ⟨_, none'⟩ | ⟨plain, _⟩
      · exact absurd (none.trans none'.symm) other
      · omega
    · rcases found with ⟨brings, _⟩ | ⟨_, found⟩
      · omega
      · have stored : b.target.bundle.id ∈ s.store.bundleIds := by
          have aim := here.aim order
          generalize b.target = target at aim
          cases aim with
          | new _ brings =>
            rw [here.anchors_eq] at brings
            omega
          | named _ stored | keyed _ _ _ stored => exact List.mem_map_of_mem stored
        rw [home, fixed _ stored] at finds
        obtain ⟨x, hx, one⟩ := finds stored
        obtain ⟨y, hy, two⟩ := found stored
        have mem : ∀ {earlier z}, s.store.foundBy c ctx rename earlier key = some z →
            z ∈ s.store.bundles := fun hz => List.mem_of_find?_eq_some hz
        rw [hx, hy, sound.bundle_eq (mem hx) (mem hy) (one.trans two.symm)] at other
        exact absurd rfl other
  | @inherited old key taken stored own gone other =>
    exact ⟨old, stored, key, taken, own, gone, other⟩

end

end

/-! ## keys that grow -/

/-- a bundle carries a key of more than so many characters -/
def Store.HoldsLonger (s : Store) (id : Uuid) (n : Nat) : Prop :=
  ∃ b ∈ s.bundles, b.id = id ∧ ∃ key, b.externalKey = some key ∧ n < key.length

theorem Bundle.exists_leftKey {old : Bundle} {key : String} (held : old.externalKey = some key)
    (account : Uuid) (rename : Bool) (taken : List String) :
    ∃ next, old.leftKey account rename taken = some next ∧ key.length ≤ next.length := by
  unfold leftKey
  rw [held, Option.map_some]
  split
  · exact ⟨_, rfl, by rw [length_cancelledKey]; omega⟩
  · exact ⟨_, rfl, Nat.le_refl _⟩

/-- a key that was given up once is given up with more keys taken -/
theorem Bundle.leftKey_of_given {old : Bundle} {account : Uuid} {rename : Bool}
    {taken more : List String} {key : String} (left : old.leftKey account rename taken = some key)
    (other : old.externalKey ≠ some key) (within : ∀ k ∈ taken, k ∈ more) :
    rename = true ∧ old.leftKey account rename more = some key := by
  unfold leftKey at left ⊢
  obtain ⟨held, carries, left⟩ := Option.map_eq_some_iff.1 left
  rw [carries, Option.map_some]
  split at left
  · next gives =>
    simp only [Bool.and_eq_true, beq_iff_eq, List.contains_iff_mem] at gives
    obtain ⟨flag, own, taken⟩ := gives
    refine ⟨flag, ?_⟩
    rw [if_pos, left]
    simp [flag, own, within held taken]
  · rw [left] at carries
    exact absurd carries other

section
variable {specs : List BundleSpecifier} {bs : List PlannedBatch} (order : s.storage.InOrder)
  (sound : s.store.Sound) (all : PlannedAll s ctx c ids rename .start specs bs q)
include order sound all

/-- no call shortens a key -/
theorem Store.HoldsLonger.commit {id : Uuid} {n : Nat} (h : s.store.HoldsLonger id n) :
    (s.store.commit ctx.now bs).HoldsLonger id n := by
  obtain ⟨old, stored, rfl, key, held, long⟩ := h
  obtain ⟨next, left, longer⟩ := Bundle.exists_leftKey held ctx.accountId rename (takenKeys c specs)
  refine ⟨old.after ctx.now bs, Store.mem_commit.2 (.inl ⟨old, stored, rfl⟩), Bundle.after_id _ _ _,
    next, ?_, Nat.lt_of_lt_of_le long longer⟩
  rw [all.externalKey_after order sound stored, left]

/-- a call that takes a key from a bundle makes its key longer -/
theorem holdsLonger_of_taken {old : Bundle} (stored : old ∈ s.store.bundles) {key : String}
    (held : old.externalKey = some key) (own : old.accountId = ctx.accountId) (flag : rename = true)
    (taken : key ∈ takenKeys c specs) :
    (s.store.commit ctx.now bs).HoldsLonger old.id key.length := by
  refine ⟨old.after ctx.now bs, Store.mem_commit.2 (.inl ⟨old, stored, rfl⟩), Bundle.after_id _ _ _,
    cancelledKey old.id key, ?_, by rw [length_cancelledKey]; omega⟩
  rw [all.externalKey_after order sound stored]
  unfold Bundle.leftKey
  rw [held, Option.map_some, if_pos]
  simp [flag, own, taken]

/-- a bundle is left with its key, whatever is named otherwise -/
theorem not_holdsLonger_of_leftKey (takes : s.store.Takes bs) {old : Bundle}
    (stored : old ∈ s.store.bundles) {key : String}
    (left : old.leftKey ctx.accountId rename (takenKeys c specs) = some key) {σ : Uuid → Uuid}
    (inj : σ.Injective) (fixed : σ old.id = old.id) :
    ¬((s.store.commit ctx.now bs).relabel σ).HoldsLonger old.id key.length := by
  intro holds
  obtain ⟨_, hx, named, grown, carries, long⟩ := holds
  obtain ⟨found, mem, rfl⟩ := List.mem_map.1 hx
  have one : found = old.after ctx.now bs := by
    refine (takes.sound sound).bundle_eq mem (Store.mem_commit.2 (.inl ⟨old, stored, rfl⟩)) ?_
    rw [Bundle.after_id]
    exact inj (named.trans fixed.symm)
  have ends := all.externalKey_after order sound stored
  rw [left, ← one] at ends
  cases carries.symm.trans ends
  exact Nat.lt_irrefl _ long

end

end

end SubscriptionBundles
