import Mathlib.Data.List.Nodup
import SubscriptionBundles.Proofs.Outcomes
import SubscriptionBundles.Proofs.StoreChanges
import SubscriptionBundles.Service.Creation

/-!
# Committing batches

The writes of all batches of a call, one after another, come to one step that can be said at once.

* `Store.Sound`             identifiers are distinct and records are in stored bundles;
* `Store.commit`            the store with the batches of a call in it;
* `Store.Takes`             what the store must find in order to take batches;
* `Store.Takes.writes`      it then accepts all their writes, and is left as `commit` says.
-/

namespace SubscriptionBundles

/-! ## the store -/

/-- an entry is found by its key where keys are distinct -/
theorem find?_of_nodup {α : Type} {key : α → Uuid} {l : List α} (distinct : (l.map key).Nodup)
    {a : α} (ha : a ∈ l) : l.find? (key · == key a) = some a := by
  obtain ⟨found, hf⟩ := Option.isSome_iff_exists.1
    (find?_isSome_iff_mem.2 (List.mem_map_of_mem (f := key) ha))
  have same : key found = key a := by simpa using List.find?_some hf
  rw [hf, List.inj_on_of_nodup_map distinct (List.mem_of_find?_eq_some hf) ha same]

namespace Store

def bundleIds (s : Store) : List Uuid := s.bundles.map (·.id)

def recordIds (s : Store) : List Uuid := s.records.map (·.id)

structure Sound (s : Store) : Prop where
  bundles : s.bundleIds.Nodup
  records : s.recordIds.Nodup
  homes : ∀ r ∈ s.records, r.bundleId ∈ s.bundleIds

section
variable {s : Store} (sound : s.Sound)
include sound

/-- what is stored is told apart by its identifier -/
theorem Sound.bundle_eq {a b : Bundle} (ha : a ∈ s.bundles) (hb : b ∈ s.bundles)
    (same : a.id = b.id) : a = b :=
  List.inj_on_of_nodup_map sound.bundles ha hb same

theorem Sound.record_eq {a b : SubscriptionRecord} (ha : a ∈ s.records) (hb : b ∈ s.records)
    (same : a.id = b.id) : a = b :=
  List.inj_on_of_nodup_map sound.records ha hb same

theorem Sound.bundle?_eq {b : Bundle} (stored : b ∈ s.bundles) : s.bundle? b.id = some b :=
  find?_of_nodup sound.bundles stored

theorem Sound.record?_eq {r : SubscriptionRecord} (stored : r ∈ s.records) :
    s.record? r.id = some r :=
  find?_of_nodup sound.records stored

/-- the same within a bundle -/
theorem Sound.find?_recordsForBundle {r : SubscriptionRecord} {id : Uuid}
    (within : r ∈ s.recordsForBundle id) :
    (s.recordsForBundle id).find? (fun q => q.id == r.id) = some r :=
  find?_of_nodup (sound.records.sublist (List.filter_sublist.map _)) within

end

/-- the identifiers are distinct and name nothing that is stored -/
structure Fresh (s : Store) (ids : List Uuid) : Prop where
  distinct : ids.Nodup
  bundles : ∀ id ∈ s.bundleIds, id ∉ ids
  records : ∀ id ∈ s.recordIds, id ∉ ids

theorem Fresh.sublist {s : Store} {ids less : List Uuid} (h : s.Fresh ids)
    (part : less.Sublist ids) : s.Fresh less :=
  ⟨part.nodup h.distinct, fun id old new => h.bundles id old (part.subset new),
    fun id old new => h.records id old (part.subset new)⟩

theorem bundleIds_rename (s : Store) (now : Instant) (renames : List (Uuid × String)) :
    (s.rename now renames).bundleIds = s.bundleIds :=
  map_id_rename now renames

theorem recordIds_append (s : Store) (es : List TransitionEvent) :
    (s.append es).recordIds = s.recordIds := by
  simp [recordIds, append, SubscriptionRecord.withEvents]

theorem Sound.append {s : Store} (sound : s.Sound) (es : List TransitionEvent) :
    (s.append es).Sound := by
  refine ⟨sound.bundles, ?_, ?_⟩
  · rw [recordIds_append]
    exact sound.records
  · intro r hr
    obtain ⟨old, ho, rfl⟩ := List.mem_map.1 hr
    exact sound.homes old ho

theorem recordIds_charge (s : Store) (id : Uuid) (date : Instant) :
    (s.charge id date).recordIds = s.recordIds := by
  unfold recordIds charge changeRecord
  rw [List.map_map]
  refine List.map_congr_left fun r _ => ?_
  show (if _ then _ else r).id = r.id
  split <;> rfl

theorem sound_empty : empty.Sound := ⟨.nil, .nil, by simp [empty]⟩

end Store

/-! ## batches -/

namespace PlannedBatch

/-- the bundle that comes with a batch -/
def newBundle? (b : PlannedBatch) : Option Bundle :=
  match b.target with
  | .existing _ => none
  | .new p => some p.bundle

def renames (b : PlannedBatch) : List (Uuid × String) :=
  match b.target with
  | .existing _ => []
  | .new p => p.renames

theorem bundle_of_newBundle? {b : PlannedBatch} {new : Bundle} (h : b.newBundle? = some new) :
    b.target.bundle = new := by
  unfold newBundle? at h
  split at h
  · cases h
  · next p target =>
    cases h
    rw [target]
    rfl

def writes (b : PlannedBatch) (now : Instant) : List Write :=
  b.renames.map (fun r => .updateKey r.1 r.2 now) ++
    b.newBundle?.toList.map .createBundle ++ [.createRecords b.records]

/-- identifiers in the order they are drawn in -/
def ids (b : PlannedBatch) : List Uuid :=
  b.newBundle?.toList.map (·.id) ++ b.records.map (·.id)

theorem filterMap_recordEffects (records : List SubscriptionRecord) :
    (records.flatMap recordEffects).filterMap Effect.write? = [] := by
  induction records with
  | nil => rfl
  | cons r rest ih =>
    rw [List.flatMap_cons, List.filterMap_append, ih]
    rfl

theorem filterMap_renames (now : Instant) (renames : List (Uuid × String)) :
    (renames.map fun r => Effect.write (.updateKey r.1 r.2 now)).filterMap Effect.write? =
      renames.map fun r => .updateKey r.1 r.2 now := by
  rw [List.filterMap_map]
  show renames.filterMap (fun r => some (Write.updateKey r.1 r.2 now)) = _
  rw [List.filterMap_eq_map']

theorem filterMap_effects (b : PlannedBatch) (now : Instant) :
    (b.effects now).filterMap Effect.write? = b.writes now := by
  obtain ⟨target, records⟩ := b
  unfold effects writes
  rw [List.filterMap_append]
  show _ ++ (Write.createRecords records :: (records.flatMap recordEffects).filterMap _) = _
  rw [filterMap_recordEffects]
  cases target with
  | existing _ => rfl
  | new p =>
    show (p.effects now).filterMap _ ++ _ = _
    unfold PlannedBundle.effects
    rw [List.filterMap_append, filterMap_renames]
    rfl

theorem filterMap_flatMap_effects (bs : List PlannedBatch) (now : Instant) :
    (bs.flatMap (·.effects now)).filterMap Effect.write? = bs.flatMap (·.writes now) := by
  induction bs with
  | nil => rfl
  | cons b bs ih =>
    rw [List.flatMap_cons, List.flatMap_cons, List.filterMap_append, filterMap_effects, ih]

end PlannedBatch

/-- records of one bundle count there and nowhere else -/
theorem countP_within {rs : List SubscriptionRecord} {home : Uuid}
    (within : ∀ r ∈ rs, r.bundleId = home) (kind : SubscriptionRecord → Bool) (id : Uuid) :
    rs.countP (fun r => r.bundleId == id && kind r) = if home = id then rs.countP kind else 0 := by
  by_cases here : home = id
  · rw [if_pos here]
    refine List.countP_congr fun r hr => ?_
    rw [within r hr, here, beq_self_eq_true, Bool.true_and]
  · rw [if_neg here, List.countP_eq_zero]
    intro r hr held
    rw [Bool.and_eq_true, beq_iff_eq, within r hr] at held
    exact here held.1

/-! ## committing -/

namespace Store

def commit (s : Store) (now : Instant) (bs : List PlannedBatch) : Store where
  bundles :=
    s.bundles.map (Bundle.renamedBy now (bs.flatMap (·.renames))) ++
      bs.filterMap (·.newBundle?)
  records := s.records ++ bs.flatMap (·.records)

/-- only stored bundles are renamed, what is new has new names, and every batch has a bundle -/
structure Takes (s : Store) (bs : List PlannedBatch) : Prop where
  renames : ∀ b ∈ bs, ∀ r ∈ b.renames, r.1 ∈ s.bundleIds
  bundles : (s.bundleIds ++ (bs.filterMap (·.newBundle?)).map (·.id)).Nodup
  records : (s.recordIds ++ (bs.flatMap (·.records)).map (·.id)).Nodup
  homes : ∀ b ∈ bs, b.newBundle? = none → b.target.bundle.id ∈ s.bundleIds
  within : ∀ b ∈ bs, ∀ r ∈ b.records, r.bundleId = b.target.bundle.id

section
variable (s : Store) (now : Instant)

theorem commit_nil : s.commit now [] = s := by
  have same : Bundle.renamedBy now [] = id := rfl
  simp [commit, same]

theorem bundleIds_commit (bs : List PlannedBatch) :
    (s.commit now bs).bundleIds = s.bundleIds ++ (bs.filterMap (·.newBundle?)).map (·.id) := by
  simp [bundleIds, commit]

theorem recordIds_commit (bs : List PlannedBatch) :
    (s.commit now bs).recordIds = s.recordIds ++ (bs.flatMap (·.records)).map (·.id) := by
  simp [recordIds, commit]

end

namespace Takes
variable {s : Store} {now : Instant} {b : PlannedBatch} {bs : List PlannedBatch}

/-- a batch that comes later does not rename what comes now -/
theorem renamedBy_new (h : s.Takes (b :: bs)) {new : Bundle} (hn : b.newBundle? = some new) :
    new.renamedBy now (bs.flatMap (·.renames)) = new := by
  refine Bundle.renamedBy_of_not_mem ?_
  intro mem
  obtain ⟨r, hr, id⟩ := List.mem_map.1 mem
  obtain ⟨later, hl, hr⟩ := List.mem_flatMap.1 hr
  have stored := h.renames later (List.mem_cons_of_mem _ hl) r hr
  rw [id] at stored
  refine (List.nodup_append.1 h.bundles).2.2 _ stored new.id ?_ rfl
  rw [List.filterMap_cons_some hn]
  exact List.mem_cons_self

theorem commit_cons (h : s.Takes (b :: bs)) :
    (s.commit now [b]).commit now bs = s.commit now (b :: bs) := by
  unfold commit
  congr 1
  · show (s.bundles.map _ ++ [b].filterMap _).map _ ++ _ = _
    rw [List.map_append, List.map_map, List.append_assoc]
    congr 1
    · refine List.map_congr_left fun old _ => ?_
      rw [List.flatMap_singleton, List.flatMap_cons, Bundle.renamedBy_append]
      rfl
    · cases hn : b.newBundle? with
      | none =>
        rw [List.filterMap_cons_none hn, List.filterMap_cons_none hn]
        rfl
      | some new =>
        rw [List.filterMap_cons_some hn, List.filterMap_cons_some hn]
        show new.renamedBy now _ :: _ = _
        rw [h.renamedBy_new hn]
        rfl
  · show (s.records ++ [b].flatMap _) ++ _ = _
    simp

theorem home (h : s.Takes (b :: bs)) : b.target.bundle.id ∈ (s.commit now [b]).bundleIds := by
  rw [bundleIds_commit, List.mem_append]
  cases hn : b.newBundle? with
  | none => exact .inl (h.homes b List.mem_cons_self hn)
  | some new =>
    rw [List.filterMap_cons_some hn, PlannedBatch.bundle_of_newBundle? hn]
    exact .inr List.mem_cons_self

theorem tail (h : s.Takes (b :: bs)) : (s.commit now [b]).Takes bs := by
  have kept : ∀ id ∈ s.bundleIds, id ∈ (s.commit now [b]).bundleIds := by
    intro id hid
    rw [bundleIds_commit]
    exact List.mem_append_left _ hid
  refine ⟨?_, ?_, ?_, ?_, ?_⟩
  · intro later hl r hr
    exact kept _ (h.renames later (List.mem_cons_of_mem _ hl) r hr)
  · rw [bundleIds_commit, List.append_assoc, ← List.map_append, ← List.filterMap_append]
    exact h.bundles
  · rw [recordIds_commit, List.append_assoc, ← List.map_append, ← List.flatMap_append]
    exact h.records
  · intro later hl hn
    exact kept _ (h.homes later (List.mem_cons_of_mem _ hl) hn)
  · exact fun later hl => h.within later (List.mem_cons_of_mem _ hl)

/-- the renames of a batch, then its bundle -/
theorem opened (h : s.Takes (b :: bs)) :
    (b.renames.map (fun r => Write.updateKey r.1 r.2 now) ++
      b.newBundle?.toList.map Write.createBundle).foldlM apply s =
        .ok { s with bundles := (s.commit now [b]).bundles } := by
  have renamed := rename_of_stored (List.nodup_append.1 h.bundles).1 now
    (h.renames b List.mem_cons_self)
  rw [List.foldlM_append, renamed]
  show List.foldlM apply _ _ = _
  unfold commit
  rw [List.flatMap_singleton]
  cases hn : b.newBundle? with
  | none =>
    rw [List.filterMap_cons_none hn, List.filterMap_nil, List.append_nil]
    rfl
  | some new =>
    rw [List.filterMap_cons_some hn, List.filterMap_nil]
    have fresh : new.id ∉ (s.rename now b.renames).bundles.map (·.id) := by
      rw [map_id_rename]
      intro stored
      refine (List.nodup_append.1 h.bundles).2.2 _ stored new.id ?_ rfl
      rw [List.filterMap_cons_some hn]
      exact List.mem_cons_self
    show ((s.rename now b.renames).createBundle new >>= pure) = _
    rw [createBundle_of_fresh fresh]
    rfl

theorem writes_head (h : s.Takes (b :: bs)) :
    (b.writes now).foldlM apply s = .ok (s.commit now [b]) := by
  have filled : ({ s with bundles := (s.commit now [b]).bundles } : Store).createRecords
      b.records = .ok (s.commit now [b]) := by
    rw [createRecords_of_fresh]
    · simp [commit]
    · intro r hr
      rw [h.within b List.mem_cons_self r hr]
      exact h.home
    · intro r hr stored
      refine (List.nodup_append.1 h.records).2.2 _ stored r.id ?_ rfl
      rw [List.flatMap_cons, List.map_append]
      exact List.mem_append_left _ (List.mem_map_of_mem hr)
  unfold PlannedBatch.writes
  rw [List.foldlM_append, h.opened]
  show (createRecords _ b.records >>= pure) = _
  rw [filled]
  rfl

theorem writes (h : s.Takes bs) :
    (bs.flatMap (·.writes now)).foldlM apply s = .ok (s.commit now bs) := by
  induction bs generalizing s with
  | nil =>
    rw [commit_nil]
    rfl
  | cons b bs ih =>
    rw [List.flatMap_cons, List.foldlM_append, h.writes_head]
    show List.foldlM apply _ _ = _
    rw [ih h.tail, h.commit_cons]

theorem not_mem_of_newBundle? (h : s.Takes bs) (hb : b ∈ bs) {new : Bundle}
    (hn : b.newBundle? = some new) : new.id ∉ s.bundleIds := by
  intro old
  refine (List.nodup_append.1 h.bundles).2.2 _ old new.id ?_ rfl
  exact List.mem_map_of_mem (List.mem_filterMap.2 ⟨b, hb, hn⟩)

/-- no other batch goes into a new bundle -/
theorem countP_new (h : s.Takes bs) (hb : b ∈ bs) {new : Bundle} (hn : b.newBundle? = some new)
    (kind : SubscriptionRecord → Bool) :
    (bs.flatMap (·.records)).countP (fun r => r.bundleId == new.id && kind r) =
      b.records.countP kind := by
  have unstored := h.not_mem_of_newBundle? hb hn
  obtain ⟨l₁, l₂, rfl⟩ := List.append_of_mem hb
  have added := (List.nodup_append.1 h.bundles).2.1
  rw [List.filterMap_append, List.filterMap_cons_some hn, List.map_append, List.map_cons] at added
  have single := List.perm_middle.nodup_iff.1 added
  have others : ∀ l : List PlannedBatch, (∀ b' ∈ l, b' ∈ l₁ ++ b :: l₂ ∧ b' ∈ l₁ ++ l₂) →
      (l.flatMap (·.records)).countP (fun r => r.bundleId == new.id && kind r) = 0 := by
    intro l known
    rw [List.countP_eq_zero]
    intro r hr held
    obtain ⟨b', hb', hr⟩ := List.mem_flatMap.1 hr
    obtain ⟨mem, other⟩ := known b' hb'
    simp only [Bool.and_eq_true, beq_iff_eq, h.within b' mem r hr] at held
    cases hn' : b'.newBundle? with
    | none =>
      refine unstored ?_
      rw [← held.1]
      exact h.homes b' mem hn'
    | some new' =>
      refine (List.nodup_cons.1 single).1 ?_
      rw [← List.map_append, ← List.filterMap_append, ← held.1,
        PlannedBatch.bundle_of_newBundle? hn']
      exact List.mem_map_of_mem (List.mem_filterMap.2 ⟨b', other, hn'⟩)
  have own : b.records.countP (fun r => r.bundleId == new.id && kind r) = b.records.countP kind := by
    rw [countP_within (h.within b hb), PlannedBatch.bundle_of_newBundle? hn, if_pos rfl]
  rw [List.flatMap_append, List.flatMap_cons, List.countP_append, List.countP_append, own,
    others l₁ fun b' hb' => ⟨List.mem_append_left _ hb', List.mem_append_left _ hb'⟩,
    others l₂ fun b' hb' =>
      ⟨List.mem_append_right _ (List.mem_cons_of_mem _ hb'), List.mem_append_right _ hb'⟩]
  omega

theorem sound (h : s.Takes bs) (sound : s.Sound) : (s.commit now bs).Sound := by
  refine ⟨?_, ?_, ?_⟩
  · rw [bundleIds_commit]
    exact h.bundles
  · rw [recordIds_commit]
    exact h.records
  · intro r hr
    rw [bundleIds_commit, List.mem_append]
    rcases List.mem_append.1 hr with hr | hr
    · exact .inl (sound.homes r hr)
    · obtain ⟨b, hb, hr⟩ := List.mem_flatMap.1 hr
      rw [h.within b hb r hr]
      cases hn : b.newBundle? with
      | none => exact .inl (h.homes b hb hn)
      | some new =>
        rw [PlannedBatch.bundle_of_newBundle? hn]
        exact .inr (List.mem_map_of_mem (List.mem_filterMap.2 ⟨b, hb, hn⟩))

end Takes

end Store

end SubscriptionBundles
