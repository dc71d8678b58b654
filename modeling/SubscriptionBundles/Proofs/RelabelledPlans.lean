import SubscriptionBundles.Proofs.AddOnCap
import SubscriptionBundles.Proofs.Bases
import SubscriptionBundles.Proofs.Relabelling

/-!
# Plans under other identifiers

Nothing that a creation checks depends on the identifiers it draws.  Under other ones it plans the
same batches, with these in the place of the old ones.

* `Store.relabel`                  a store whose bundles and subscriptions are named otherwise;
* `BatchChecks.Yields`             checks that ask no more than others, for a bundle named otherwise;
* `Yields.plannedRecords`          they let the same plans through;
* `PlannedAll.relabel`             the batches of a call under other identifiers;
* `Store.commit_relabel`           what they leave is the relabelled store.
-/

namespace SubscriptionBundles

/-! ## other names -/

section
variable (σ : Uuid → Uuid)

def Bundle.relabel (b : Bundle) : Bundle := { b with id := σ b.id }

/-- a bundle that exists keeps its name -/
def Target.relabel : Target → Target
  | .existing b => .existing b
  | .new p => .new { p with bundle := p.bundle.relabel σ }

def PlannedBatch.relabel (b : PlannedBatch) : PlannedBatch :=
  ⟨b.target.relabel σ, b.records.map (.relabel σ σ)⟩

def Progress.relabel (p : Progress) : Progress :=
  { p with joining := p.joining.map fun x => (σ x.1, x.2) }

def Store.relabel (s : Store) : Store :=
  ⟨s.bundles.map (.relabel σ), s.records.map (.relabel σ σ)⟩

theorem Target.takenKey?_relabel (t : Target) : (t.relabel σ).takenKey? = t.takenKey? := by
  cases t <;> rfl

theorem Target.drawn_relabel (t : Target) : (t.relabel σ).drawn = t.drawn := by
  cases t <;> rfl

theorem PlannedBatch.renames_relabel (b : PlannedBatch) : (b.relabel σ).renames = b.renames := by
  unfold renames relabel
  cases b.target <;> rfl

theorem PlannedBatch.newBundle?_relabel (b : PlannedBatch) :
    (b.relabel σ).newBundle? = b.newBundle?.map (.relabel σ) := by
  unfold newBundle? relabel
  cases b.target <;> rfl

end

theorem relabel_id (r : SubscriptionRecord) : r.relabel id id = r := by
  have same : TransitionEvent.relabel id = id := rfl
  unfold SubscriptionRecord.relabel
  rw [same, List.map_id]
  rfl

/-- a record keeps its own names if they stay -/
theorem SubscriptionRecord.Follows.relabel_eq {r : SubscriptionRecord} {name : String}
    (h : r.Follows name) {σ : Uuid → Uuid} (own : σ r.id = r.id) (home : σ r.bundleId = r.bundleId) :
    r.relabel σ σ = r := by
  have kept : r.events.map (.relabel σ) = r.events := by
    refine (List.map_congr_left ?_).trans (List.map_id _)
    intro e he
    have same := h.own e he
    show { e with subscriptionId := σ e.subscriptionId } = e
    rw [same, own, ← same]
  unfold relabel
  rw [own, home, kept]

/-! ## what is on its way -/

section
variable {σ : Uuid → Uuid}

theorem Progress.joiningBundle_relabel (inj : σ.Injective) (p : Progress) (id : Uuid) :
    (p.relabel σ).joiningBundle (σ id) = p.joiningBundle id := by
  unfold joiningBundle relabel
  rw [List.filter_map, List.map_map]
  refine congrArg (List.map _) (List.filter_congr ?_)
  intro x _
  show (σ x.1 == σ id) = (x.1 == id)
  rw [Bool.eq_iff_iff, beq_iff_eq, beq_iff_eq, inj.eq_iff]

theorem Progress.relabel_after (p : Progress) {t : Target} (batch : Batch)
    (home : (t.relabel σ).bundle.id = σ t.bundle.id) :
    (p.after t batch).relabel σ = (p.relabel σ).after (t.relabel σ) batch := by
  unfold relabel after
  rw [home, Target.takenKey?_relabel, Target.drawn_relabel, List.map_append, List.map_map]
  rfl

end

/-! ## checks for a bundle that is named otherwise -/

namespace BatchChecks

/-- `k'` asks no more of a plan than `k` -/
structure Yields (k k' : BatchChecks) (σ : Uuid → Uuid) : Prop where
  catalog : k'.catalog = k.catalog
  batch : k'.batch = k.batch
  home : k'.target.bundle.id = σ k.target.bundle.id
  key : k'.target.bundle.externalKey = k.target.bundle.externalKey
  requested : k'.requested = k.requested
  processedDate : k'.processedDate = k.processedDate
  migrated : k'.migrated = k.migrated
  anchor : ∀ category, k'.snapshot.anchorFor? category = k.snapshot.anchorFor? category
  limit : ∀ plan, checkAddOnLimit plan k.snapshot.subscriptions k.joining = .ok () →
    checkAddOnLimit plan k'.snapshot.subscriptions k'.joining = .ok ()

namespace Yields
variable {k k' : BatchChecks} {σ : Uuid → Uuid} (h : k.Yields k' σ)
include h

theorem startDate {fixed : Option Instant} {plan : Plan} {started : Instant}
    (starts : k.startDate fixed plan = .ok started) : k'.startDate fixed plan = .ok started := by
  unfold BatchChecks.startDate at starts ⊢
  rw [h.batch, h.catalog, h.requested, h.anchor]
  cases fixed with
  | none => exact bundleStartDate_label _ starts
  | some date =>
    cases brought : k.batch.base with
    | none =>
      rw [brought] at starts
      exact bundleStartDate_label _ starts
    | some base =>
      rw [brought] at starts
      exact starts

theorem newSubscription (id : Uuid) (e : Entitlement) (started : Instant) :
    k'.newSubscription (σ id) e started = (k.newSubscription id e started).relabel σ σ := by
  unfold BatchChecks.newSubscription NewSubscription.relabel
  rw [h.home, h.key, h.requested, h.processedDate, h.migrated]

theorem plannedRecords {ids ids' : Nat → Uuid} {drawn drawn' : Nat} {fixed : Option Instant}
    {es : List Entitlement} {rs : List SubscriptionRecord}
    (drawnAs : ∀ i < es.length, ids' (drawn' + i) = σ (ids (drawn + i)))
    (planned : k.plannedRecords ids drawn fixed es = .ok rs) :
    k'.plannedRecords ids' drawn' fixed es = .ok (rs.map (.relabel σ σ)) := by
  induction es generalizing drawn drawn' fixed rs with
  | nil =>
    cases planned
    rfl
  | cons e rest ih =>
    obtain ⟨started, r, later, hs, hl, hr, tail, rfl⟩ := plannedRecords_cons_eq_ok.1 planned
    have first : ids' drawn' = σ (ids drawn) := drawnAs 0 (Nat.zero_lt_succ _)
    have record := congrArg (Except.map (SubscriptionRecord.relabel σ σ)) hr
    rw [← NewSubscription.record_relabel, ← h.newSubscription, ← first, ← h.catalog] at record
    refine plannedRecords_cons_eq_ok.2
      ⟨started, r.relabel σ σ, _, h.startDate hs, h.limit _ hl, record, ?_, rfl⟩
    have same : k'.fix fixed started = k.fix fixed started := by
      unfold fix
      rw [h.batch]
    rw [same]
    refine ih ?_ tail
    intro i hi
    have next := drawnAs (i + 1) (Nat.succ_lt_succ hi)
    rw [Nat.add_right_comm drawn' 1, Nat.add_right_comm drawn 1]
    exact next

end Yields

end BatchChecks

/-! ## planned batches -/

section
variable {s : Service} {ctx : Context} {c : Catalog} {ids : Nat → Uuid} {rename : Bool}
  {p q : Progress} {spec : BundleSpecifier} {batch : Batch} {b : PlannedBatch} {σ : Uuid → Uuid}
  (order : s.storage.InOrder) (fixed : ∀ id ∈ s.store.bundleIds, σ id = id)
include order fixed

theorem Planned.home_relabel (h : Planned s ctx c ids rename p spec batch b) :
    (b.target.relabel σ).bundle.id = σ b.target.bundle.id := by
  cases old : b.newBundle? with
  | none =>
    obtain ⟨stored, hs, _, target⟩ := h.stored order old
    rw [target]
    exact (fixed _ (List.mem_map_of_mem hs)).symm
  | some new =>
    unfold PlannedBatch.newBundle? at old
    cases target : b.target with
    | existing _ =>
      rw [target] at old
      cases old
    | new planned => rfl

variable (inj : σ.Injective)
include inj

theorem Planned.relabel (h : Planned s ctx c ids rename p spec batch b) :
    Planned s ctx c (σ ∘ ids) rename (p.relabel σ) spec batch (b.relabel σ) := by
  have home := h.home_relabel order fixed
  refine ⟨h.classified, h.nonempty, ?_, ?_⟩
  · show targetBundle s ctx spec batch (σ (ids p.drawn)) p.keys rename = .ok (b.target.relabel σ)
    rw [targetBundle_eq_ok]
    rcases targetBundle_eq_ok.1 h.target with
      ⟨id, found, named, target, hf⟩ | ⟨planned, unnamed, brings, target, hp⟩ |
      ⟨key, found, unnamed, plain, keyed, target, hf⟩
    · rw [target]
      exact .inl ⟨id, found, named, rfl, hf⟩
    · obtain ⟨rfl, free⟩ := (planBundle_eq_ok order).1 hp
      rw [target]
      exact .inr (.inl ⟨_, unnamed, brings, rfl, (planBundle_eq_ok order).2 ⟨rfl, free⟩⟩)
    · rw [target]
      exact .inr (.inr ⟨key, found, unnamed, plain, keyed, rfl, hf⟩)
  · have joining : ((p.relabel σ).after (b.target.relabel σ) batch).joiningBundle
        (b.target.relabel σ).bundle.id = (p.after b.target batch).joiningBundle b.target.bundle.id := by
      rw [← p.relabel_after batch home, home, Progress.joiningBundle_relabel inj]
    have yields : (checksFor s.store ctx c p spec batch b.target).Yields
        (checksFor s.store ctx c (p.relabel σ) spec batch (b.target.relabel σ)) σ := by
      refine ⟨rfl, rfl, home, ?_, ?_, rfl, rfl, ?_, ?_⟩
      · show (b.target.relabel σ).bundle.externalKey = b.target.bundle.externalKey
        cases b.target <;> rfl
      · unfold checksFor
        cases b.target <;> rfl
      · intro category
        unfold checksFor
        cases b.target <;> rfl
      · intro plan within
        unfold checksFor at within ⊢
        rw [joining]
        cases target : b.target with
        | existing _ | new _ =>
          rw [target] at within
          exact within
    refine yields.plannedRecords ?_ h.records
    intro i _
    show σ (ids (p.drawn + (b.target.relabel σ).drawn + i)) = _
    rw [Target.drawn_relabel]

theorem PlannedAll.relabel {specs : List BundleSpecifier} {bs : List PlannedBatch}
    (all : PlannedAll s ctx c ids rename p specs bs q) :
    PlannedAll s ctx c (σ ∘ ids) rename (p.relabel σ) specs (bs.map (.relabel σ)) (q.relabel σ) := by
  induction all with
  | nil p => exact .nil _
  | skip classified empty _ ih => exact .skip classified empty ih
  | @plan p q spec batch b rest bs here _ ih =>
    rw [p.relabel_after batch (here.home_relabel order fixed)] at ih
    exact .plan (here.relabel order fixed inj) ih

end

/-! ## the store they leave -/

theorem Store.commit_relabel {s : Store} {c : Catalog} (sound : s.Sound) (on : s.OnPlans c)
    {σ : Uuid → Uuid} (bundles : ∀ id ∈ s.bundleIds, σ id = id)
    (records : ∀ id ∈ s.recordIds, σ id = id) (now : Instant) (bs : List PlannedBatch) :
    s.commit now (bs.map (.relabel σ)) = (s.commit now bs).relabel σ := by
  have renames : (bs.map (PlannedBatch.relabel σ)).flatMap (·.renames) = bs.flatMap (·.renames) := by
    rw [List.flatMap_map]
    exact List.flatMap_congr fun b _ => b.renames_relabel σ
  unfold commit relabel
  rw [renames]
  congr 1
  · rw [List.map_append, List.map_map]
    congr 1
    · refine List.map_congr_left ?_
      intro b hb
      have kept : σ (b.renamedBy now (bs.flatMap (·.renames))).id =
          (b.renamedBy now (bs.flatMap (·.renames))).id := by
        rw [Bundle.renamedBy_id]
        exact bundles _ (List.mem_map_of_mem hb)
      show _ = Bundle.relabel σ _
      unfold Bundle.relabel
      rw [kept]
    · rw [List.filterMap_map, List.map_filterMap]
      exact List.filterMap_congr fun b _ => b.newBundle?_relabel σ
  · rw [List.map_append]
    congr 1
    · refine ((List.map_congr_left ?_).trans (List.map_id _)).symm
      intro r hr
      obtain ⟨_, _, _, follows⟩ := on r hr
      exact follows.relabel_eq (records _ (List.mem_map_of_mem hr)) (bundles _ (sound.homes r hr))
    · rw [List.flatMap_map, List.map_flatMap]
      rfl

end SubscriptionBundles
