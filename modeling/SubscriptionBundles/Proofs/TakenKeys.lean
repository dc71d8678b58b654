import SubscriptionBundles.Proofs.AnchorCounts

/-!
# The keys of a call

A creation gives keys to its new bundles and, if it is told to, takes them from older ones of the
account.

* `BundleSpecifier.takes?`, `takenKeys`   the keys of new bundles;
* `PlannedAll.taken_free`                 they differ, and no active bundle carries one;
* `Bundle.leftKey`                        the key that an older bundle is left with;
* `Bundle.after`                          an older bundle when the call is done;
* `PlannedAll.externalKey_after`          it carries the key that it is left with.
-/

namespace SubscriptionBundles

/-- the key of the new bundle that a specifier asks for -/
def BundleSpecifier.takes? (c : Catalog) (spec : BundleSpecifier) : Option String :=
  if spec.bundleId = none ∧ 0 < spec.anchors c then spec.bundleExternalKey else none

def takenKeys (c : Catalog) (specifiers : List BundleSpecifier) : List String :=
  specifiers.filterMap (·.takes? c)

/-- the key of a bundle once the new bundles of an account have taken theirs -/
def Bundle.leftKey (account : Uuid) (rename : Bool) (taken : List String) (b : Bundle) :
    Option String :=
  b.externalKey.map fun key =>
    if rename && (b.accountId == account && taken.contains key) then cancelledKey b.id key else key

/-- a bundle that was there, once batches are committed -/
def Bundle.after (now : Instant) (bs : List PlannedBatch) (b : Bundle) : Bundle :=
  b.renamedBy now (bs.flatMap (·.renames))

section
variable (now : Instant) (bs : List PlannedBatch) (b : Bundle)

@[simp] theorem Bundle.after_id : (b.after now bs).id = b.id := b.renamedBy_id now _

@[simp] theorem Bundle.after_accountId : (b.after now bs).accountId = b.accountId :=
  b.renamedBy_accountId now _

theorem Store.isActive_after (s : Store) (processed : Instant) :
    s.isActive now (b.after processed bs) = s.isActive now b :=
  s.isActive_renamedBy now processed _ b

end

theorem Store.mem_commit {s : Store} {now : Instant} {bs : List PlannedBatch} {x : Bundle} :
    x ∈ (s.commit now bs).bundles ↔
      (∃ b ∈ s.bundles, b.after now bs = x) ∨ x ∈ bs.filterMap (·.newBundle?) :=
  List.mem_append.trans (or_congr_left List.mem_map)

/-- where bundles of an account give keys up, each is left with the key it should be left with -/
theorem externalKey_renamedBy {s : Store} (now : Instant) (sound : s.Sound)
    {renames : List (Uuid × String)} {account : Uuid} {rename : Bool} {taken : List String}
    (given : ∀ r, r ∈ renames ↔ rename = true ∧ ∃ key ∈ taken, ∃ old ∈ s.bundles,
      old.accountId = account ∧ old.externalKey = some key ∧ r = (old.id, cancelledKey old.id key))
    {old : Bundle} (stored : old ∈ s.bundles) :
    (old.renamedBy now renames).externalKey = old.leftKey account rename taken := by
  unfold Bundle.leftKey
  by_cases renamed : old.id ∈ renames.map (·.1)
  · obtain ⟨r, hr, same, left⟩ := @Bundle.renamedBy_of_mem now _ _ renamed
    obtain ⟨flag, key, taken, found, hf, own, held, rfl⟩ := (given r).1 hr
    have one : found = old := sound.bundle_eq hf stored same
    subst one
    rw [left, held, Option.map_some, if_pos]
    · rfl
    · simp [flag, own, taken]
  · rw [Bundle.renamedBy_of_not_mem renamed]
    cases held : old.externalKey with
    | none => rfl
    | some key =>
      rw [Option.map_some, if_neg]
      intro gives
      simp only [Bool.and_eq_true, beq_iff_eq, List.contains_iff_mem] at gives
      obtain ⟨flag, own, taken⟩ := gives
      exact renamed (List.mem_map.2 ⟨_, (given _).2 ⟨flag, key, taken, old, stored, own, held, rfl⟩, rfl⟩)

theorem eq_of_nodup_filterMap {α κ : Type} {key : α → Option κ} {l : List α}
    (h : (l.filterMap key).Nodup) {a b : α} (ha : a ∈ l) (hb : b ∈ l) {k : κ} (hka : key a = some k)
    (hkb : key b = some k) : a = b := by
  have apart := List.pairwise_filterMap.1 h
  refine List.Pairwise.forall_of_forall_of_flip (R := fun a b => ∀ k, key a = some k →
    key b = some k → a = b) (fun _ _ _ _ _ => rfl) ?_ ?_ ha hb k hka hkb
  · refine apart.imp ?_
    intro a b apart k hka hkb
    exact absurd rfl (apart k hka k hkb)
  · refine apart.imp ?_
    intro a b apart k hkb hka
    exact absurd rfl (apart k hka k hkb)

theorem PlannedBatch.filterMap_takenKey? (bs : List PlannedBatch) :
    bs.filterMap (·.target.takenKey?) =
      (bs.filterMap (·.newBundle?)).filterMap (·.externalKey) := by
  rw [List.filterMap_filterMap]
  exact congrArg (List.filterMap · bs) (funext PlannedBatch.takenKey?_eq)

/-- the key of a new bundle is taken -/
theorem PlannedBatch.key_taken {bs : List PlannedBatch} {new : Bundle}
    (added : new ∈ bs.filterMap (·.newBundle?)) {key : String} (keyed : new.externalKey = some key) :
    key ∈ bs.filterMap (·.target.takenKey?) := by
  rw [filterMap_takenKey?]
  exact List.mem_filterMap.2 ⟨new, added, keyed⟩

section
variable {s : Service} {ctx : Context} {c : Catalog} {ids : Nat → Uuid} {rename : Bool}
  {p q : Progress} {spec : BundleSpecifier} {batch : Batch} {b : PlannedBatch}

/-! ## one batch -/

theorem takes?_of_isEmpty (classified : Batch.classify c spec.entitlements = .ok batch)
    (empty : batch.isEmpty = true) : spec.takes? c = none := by
  unfold BundleSpecifier.takes?
  rw [anchors_eq_zero classified empty, if_neg]
  intro given
  obtain ⟨_, brings⟩ := given
  exact Nat.lt_irrefl 0 brings

theorem Planned.takenKey?_eq (order : s.storage.InOrder)
    (h : Planned s ctx c ids rename p spec batch b) : b.target.takenKey? = spec.takes? c := by
  have aim := h.aim order
  unfold BundleSpecifier.takes? BundleSpecifier.anchors
  rw [← Batch.anchors_eq h.classified]
  generalize b.target = target at aim
  cases aim with
  | named named =>
    rw [named, if_neg (fun h => nomatch h.1)]
    rfl
  | new unnamed brings =>
    rw [if_pos ⟨unnamed, brings⟩]
    rfl
  | keyed unnamed plain =>
    rw [plain, if_neg (fun h => Nat.lt_irrefl 0 h.2)]
    rfl

/-- a key that is taken was not claimed before and is not held actively -/
theorem Planned.taken_free (order : s.storage.InOrder)
    (h : Planned s ctx c ids rename p spec batch b) {key : String}
    (taken : b.target.takenKey? = some key) : key ∉ p.keys ∧ s.store.KeyFree ctx.now key := by
  have aim := h.aim order
  generalize b.target = target at aim taken
  cases aim with
  | named | keyed => cases taken
  | new _ _ free => exact (free key taken).2

/-! ## all batches -/

namespace PlannedAll
variable {specs : List BundleSpecifier} {bs : List PlannedBatch} (order : s.storage.InOrder)
include order

theorem taken_eq (all : PlannedAll s ctx c ids rename p specs bs q) :
    bs.filterMap (·.target.takenKey?) = takenKeys c specs := by
  unfold takenKeys
  induction all with
  | nil p => rfl
  | skip classified empty _ ih =>
    rw [List.filterMap_cons_none (takes?_of_isEmpty classified empty)]
    exact ih
  | plan here _ ih =>
    rw [List.filterMap_cons, List.filterMap_cons, here.takenKey?_eq order, ih]

/-- no key is taken twice -/
theorem taken_free (all : PlannedAll s ctx c ids rename p specs bs q) :
    (bs.filterMap (·.target.takenKey?)).Nodup ∧
      ∀ key ∈ bs.filterMap (·.target.takenKey?), key ∉ p.keys ∧ s.store.KeyFree ctx.now key := by
  induction all with
  | nil p => exact ⟨.nil, nofun⟩
  | skip _ _ _ ih => exact ih
  | @plan p q spec batch b rest bs here _ ih =>
    obtain ⟨distinct, free⟩ := ih
    have kept : ∀ key, key ∉ (p.after b.target batch).keys →
        key ∉ b.target.takenKey?.toList ∧ key ∉ p.keys := by
      intro key claimed
      exact ⟨fun h => claimed (List.mem_append_left _ h), fun h => claimed (List.mem_append_right _ h)⟩
    rw [List.filterMap_cons]
    cases taken : b.target.takenKey? with
    | none =>
      exact ⟨distinct, fun key hk => ⟨(kept key (free key hk).1).2, (free key hk).2⟩⟩
    | some own =>
      show (own :: _).Nodup ∧ ∀ key ∈ own :: _, _
      refine ⟨List.nodup_cons.2 ⟨?_, distinct⟩, ?_⟩
      · intro again
        have other := (kept own (free own again).1).1
        rw [taken] at other
        exact other List.mem_cons_self
      · intro key hk
        rcases List.mem_cons.1 hk with rfl | hk
        · exact here.taken_free order taken
        · exact ⟨(kept key (free key hk).1).2, (free key hk).2⟩

/-- new bundles of one key are one -/
theorem new_eq (all : PlannedAll s ctx c ids rename p specs bs q) {a b : Bundle}
    (ha : a ∈ bs.filterMap (·.newBundle?)) (hb : b ∈ bs.filterMap (·.newBundle?)) {key : String}
    (held : a.externalKey = some key) (carries : b.externalKey = some key) : a = b := by
  have distinct := (all.taken_free order).1
  rw [PlannedBatch.filterMap_takenKey?] at distinct
  exact eq_of_nodup_filterMap distinct ha hb held carries

theorem mem_renames (all : PlannedAll s ctx c ids rename p specs bs q) {r : Uuid × String} :
    r ∈ bs.flatMap (·.renames) ↔ rename = true ∧ ∃ key ∈ takenKeys c specs,
      ∃ old ∈ s.store.bundles, old.accountId = ctx.accountId ∧ old.externalKey = some key ∧
        r = (old.id, cancelledKey old.id key) := by
  rw [← all.taken_eq order, List.mem_flatMap]
  constructor
  · intro given
    obtain ⟨b, hb, hr⟩ := given
    obtain ⟨_, _, _, _, here⟩ := all.of_mem b hb
    rw [here.renames_eq order] at hr
    obtain ⟨flag, key, taken, old⟩ := SubscriptionBundles.mem_renames.1 hr
    exact ⟨flag, key, List.mem_filterMap.2 ⟨b, hb, taken⟩, old⟩
  · intro given
    obtain ⟨flag, key, taken, old⟩ := given
    obtain ⟨b, hb, taken⟩ := List.mem_filterMap.1 taken
    obtain ⟨_, _, _, _, here⟩ := all.of_mem b hb
    refine ⟨b, hb, ?_⟩
    rw [here.renames_eq order]
    exact SubscriptionBundles.mem_renames.2 ⟨flag, key, taken, old⟩

/-- what gives a key up is not active -/
theorem renamed_inactive (all : PlannedAll s ctx c ids rename p specs bs q) :
    ∀ r ∈ bs.flatMap (·.renames), ∃ old ∈ s.store.bundles, r.1 = old.id ∧
      s.store.isActive ctx.now old = false := by
  intro r hr
  obtain ⟨_, key, taken, old, stored, _, held, rfl⟩ := (all.mem_renames order).1 hr
  rw [← all.taken_eq order] at taken
  exact ⟨old, stored, rfl, ((all.taken_free order).2 key taken).2 old stored held⟩

theorem externalKey_after (sound : s.store.Sound)
    (all : PlannedAll s ctx c ids rename p specs bs q) {old : Bundle} (stored : old ∈ s.store.bundles) :
    (old.after ctx.now bs).externalKey = old.leftKey ctx.accountId rename (takenKeys c specs) :=
  externalKey_renamedBy ctx.now sound (fun _ => all.mem_renames order) stored

end PlannedAll

end

end SubscriptionBundles
