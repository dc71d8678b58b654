import SubscriptionBundles.Proofs.PlanInForce
import SubscriptionBundles.Proofs.Planning

/-!
# New records

The records of a batch that was let through, one for each of its entitlements.

* `NewSubscription.record_eq_ok`          the record of a new subscription;
* `BatchChecks.plannedRecords_ids`        the identifiers are drawn in order;
* `BatchChecks.plannedRecords_map`        what a record shows of its entitlement;
* `BatchChecks.plannedRecords_started`    the start that it was checked to have;
* `BatchChecks.plannedRecords_limits`     every plan is within its limit;
* `BatchChecks.plannedRecords_head`       the first plan is checked against the stored bundle;
* `Planned.no_live_anchor`                a bundle that is given a base or standalone has no live one;
* `Planned.bundleExternalKey`             a record copies the key of its bundle.
-/

namespace SubscriptionBundles

/-! ## one record -/

theorem phaseEvents_fit {id : Uuid} {plan : String} {processed : Instant} {sequence : UInt32}
    {later : List (PhaseType × Instant)} :
    ∀ e ∈ phaseEvents id plan processed sequence later, e.subscriptionId = id ∧
      ∃ phase, e.kind = .phase plan phase := by
  induction later generalizing sequence with
  | nil =>
    intro e he
    cases he
  | cons p later ih =>
    intro e he
    rcases List.mem_cons.1 he with rfl | he
    · exact ⟨rfl, p.1, rfl⟩
    · exact ih e he

theorem NewSubscription.record_eq_ok {c : Catalog} {n : NewSubscription} {r : SubscriptionRecord}
    (h : n.record c = .ok r) :
    ∃ phase later, n.plan.splitSchedule n.initialPhase (n.alignedOn c.planAlignment)
        n.effectiveDate = .ok (phase, later) ∧
      r = { id := n.id
            bundleId := n.bundleId
            bundleExternalKey := n.bundleExternalKey
            category := n.plan.category
            bundleStartDate := n.bundleStartDate
            alignStartDate := n.alignStartDate
            chargedThroughDate := none
            migrated := n.migrated
            createdUtc := n.processedDate
            events := ⟨n.id, 0, n.effectiveDate, n.processedDate,
                .create n.plan.name phase n.plan.priceListName⟩ ::
              phaseEvents n.id n.plan.name n.processedDate 1 later } := by
  unfold record creationEvents at h
  obtain ⟨events, he, h⟩ := bind_eq_ok.1 h
  obtain ⟨⟨phase, later⟩, hs, he⟩ := bind_eq_ok.1 he
  cases he
  cases h
  exact ⟨phase, later, hs, rfl⟩

/-- nothing in a new record ends it -/
theorem NewSubscription.record_isLiveAt {c : Catalog} {n : NewSubscription} {r : SubscriptionRecord}
    (h : n.record c = .ok r) (now : Instant) : r.isLiveAt now = true := by
  obtain ⟨phase, later, _, rfl⟩ := record_eq_ok h
  rw [SubscriptionRecord.isLiveAt_iff]
  intro e he hc
  rcases List.mem_cons.1 he with rfl | he
  · cases hc
  · obtain ⟨_, p, hp⟩ := phaseEvents_fit e he
    rw [hp] at hc
    cases hc

theorem NewSubscription.record_follows {c : Catalog} {n : NewSubscription} {r : SubscriptionRecord}
    (h : n.record c = .ok r) (dated : n.effectiveDate = n.alignStartDate) :
    r.Follows n.plan.name := by
  obtain ⟨phase, later, _, rfl⟩ := record_eq_ok h
  refine ⟨phase, n.plan.priceListName, _, by rw [dated], ?_⟩
  intro e he
  obtain ⟨hid, p, hp⟩ := phaseEvents_fit e he
  rw [hp]
  refine ⟨hid, by simp [EventKind.fits], ?_⟩
  intro hc
  cases hc

/-! ## the records of a batch -/

namespace BatchChecks
variable {k : BatchChecks} {ids : Nat → Uuid} {drawn : Nat} {fixed : Option Instant}

theorem plannedRecords_cons_eq_ok {e : Entitlement} {rest : List Entitlement}
    {rs : List SubscriptionRecord} :
    k.plannedRecords ids drawn fixed (e :: rest) = .ok rs ↔
      ∃ started r later, k.startDate fixed e.plan = .ok started ∧
        checkAddOnLimit e.plan k.snapshot.subscriptions k.joining = .ok () ∧
        (k.newSubscription (ids drawn) e started).record k.catalog = .ok r ∧
        k.plannedRecords ids (drawn + 1) (k.fix fixed started) rest = .ok later ∧
        rs = r :: later := by
  conv =>
    lhs
    unfold plannedRecords
  simp only [bind_eq_ok, pure_eq_ok]
  constructor
  · intro given
    obtain ⟨started, hs, _, hl, r, hr, later, h, rfl⟩ := given
    exact ⟨started, r, later, hs, hl, hr, h, rfl⟩
  · intro given
    obtain ⟨started, r, later, hs, hl, hr, h, rfl⟩ := given
    exact ⟨started, hs, (), hl, r, hr, later, h, rfl⟩

section
variable {es : List Entitlement} {rs : List SubscriptionRecord}
  (h : k.plannedRecords ids drawn fixed es = .ok rs)
include h

theorem plannedRecords_map {β : Type} (f : SubscriptionRecord → β) (g : Entitlement → β)
    (agree : ∀ id e started r,
      (k.newSubscription id e started).record k.catalog = .ok r → f r = g e) :
    rs.map f = es.map g := by
  induction es generalizing drawn fixed rs with
  | nil =>
    cases h
    rfl
  | cons e rest ih =>
    obtain ⟨started, r, later, _, _, hr, tail, rfl⟩ := plannedRecords_cons_eq_ok.1 h
    rw [List.map_cons, List.map_cons, agree _ _ _ _ hr, ih tail]

/-- the same for what is counted -/
theorem plannedRecords_countP (f : SubscriptionRecord → Bool) (g : Entitlement → Bool)
    (agree : ∀ id e started r,
      (k.newSubscription id e started).record k.catalog = .ok r → f r = g e) :
    rs.countP f = es.countP g := by
  have same := congrArg (List.countP id) (plannedRecords_map h f g agree)
  rw [List.countP_map, List.countP_map] at same
  exact same

theorem plannedRecords_ids : rs.map (·.id) = (List.range' drawn es.length).map ids := by
  induction es generalizing drawn fixed rs with
  | nil =>
    cases h
    rfl
  | cons e rest ih =>
    obtain ⟨started, r, later, _, _, hr, tail, rfl⟩ := plannedRecords_cons_eq_ok.1 h
    obtain ⟨_, _, _, rfl⟩ := NewSubscription.record_eq_ok hr
    rw [List.map_cons, List.length_cons, List.range'_succ, List.map_cons, ih tail]
    rfl

/-- every record is made for an entitlement, from the start that the checks give it while `F` holds
of the start fixed so far -/
theorem plannedRecords_started {F : Option Instant → Prop} (first : F fixed)
    (kept : ∀ f plan started, F f → k.startDate f plan = .ok started → F (k.fix f started)) :
    ∀ r ∈ rs, ∃ e ∈ es, ∃ id f started, F f ∧ k.startDate f e.plan = .ok started ∧
      (k.newSubscription id e started).record k.catalog = .ok r := by
  induction es generalizing drawn fixed rs with
  | nil =>
    cases h
    exact List.forall_mem_nil _
  | cons e rest ih =>
    obtain ⟨started, made, later, starts, _, hm, tail, rfl⟩ := plannedRecords_cons_eq_ok.1 h
    intro r hr
    rcases List.mem_cons.1 hr with rfl | hr
    · exact ⟨e, List.mem_cons_self, _, fixed, started, first, starts, hm⟩
    · obtain ⟨e', he', found⟩ := ih tail (kept fixed e.plan started first starts) r hr
      exact ⟨e', List.mem_cons_of_mem _ he', found⟩

theorem plannedRecords_of_mem : ∀ r ∈ rs, ∃ e ∈ es, ∃ id started,
    (k.newSubscription id e started).record k.catalog = .ok r := by
  intro r hr
  obtain ⟨e, he, id, _, started, _, _, made⟩ :=
    plannedRecords_started h (F := fun _ => True) trivial (fun _ _ _ _ _ => trivial) r hr
  exact ⟨e, he, id, started, made⟩

theorem plannedRecords_limits :
    ∀ e ∈ es, checkAddOnLimit e.plan k.snapshot.subscriptions k.joining = .ok () := by
  induction es generalizing drawn fixed rs with
  | nil =>
    intro e he
    cases he
  | cons e rest ih =>
    obtain ⟨_, _, _, _, hl, _, tail, _⟩ := plannedRecords_cons_eq_ok.1 h
    intro e' he'
    rcases List.mem_cons.1 he' with rfl | he'
    · exact hl
    · exact ih tail e' he'

theorem plannedRecords_length : rs.length = es.length := by
  have := congrArg List.length (plannedRecords_ids h)
  simpa using this

theorem plannedRecords_bundleId : ∀ r ∈ rs, r.bundleId = k.target.bundle.id := by
  intro r hr
  obtain ⟨e, _, id, started, made⟩ := plannedRecords_of_mem h r hr
  obtain ⟨_, _, _, rfl⟩ := NewSubscription.record_eq_ok made
  rfl

theorem plannedRecords_isLiveAt (now : Instant) : ∀ r ∈ rs, r.isLiveAt now = true := by
  intro r hr
  obtain ⟨e, _, id, started, made⟩ := plannedRecords_of_mem h r hr
  exact NewSubscription.record_isLiveAt made now

end

theorem plannedRecords_head {e : Entitlement} {rest : List Entitlement}
    {rs : List SubscriptionRecord} (h : k.plannedRecords ids drawn none (e :: rest) = .ok rs) :
    ∃ started, bundleStartDate k.catalog e.plan k.target.label
      (k.snapshot.anchorFor? e.plan.category) k.requested = .ok started := by
  obtain ⟨started, _, _, hs, _⟩ := plannedRecords_cons_eq_ok.1 h
  exact ⟨started, hs⟩

end BatchChecks

/-! ## what the first plan is checked against -/

theorem bundleStartDate_of_anchors {c : Catalog} {plan : Plan} {label : String}
    {anchor : Option Subscription} {requested started : Instant}
    (kind : plan.category.anchorsBundle = true)
    (h : bundleStartDate c plan label anchor requested = .ok started) :
    anchor.any (·.isActiveOrPending) = false ∧ started = requested := by
  unfold bundleStartDate at h
  split at h
  · next hc =>
    rw [hc] at kind
    cases kind
  · obtain ⟨free, same⟩ := refuse_eq_ok.1 h
    cases same
    exact ⟨by simpa using free, rfl⟩

theorem latest?_eq_none_iff {s : Snapshot} {qualifies : Member → Bool} :
    s.latest? qualifies = none ↔ ∀ m ∈ s.members, qualifies m = false := by
  unfold Snapshot.latest?
  rw [Option.map_eq_none_iff, latestBy_eq_none_iff, List.filter_eq_nil_iff]
  simp

theorem mem_of_latest? {s : Snapshot} {qualifies : Member → Bool} {found : Subscription}
    (h : s.latest? qualifies = some found) :
    ∃ m ∈ s.members, qualifies m = true ∧ m.subscription = found := by
  unfold Snapshot.latest? at h
  obtain ⟨m, hm, rfl⟩ := Option.map_eq_some_iff.1 h
  obtain ⟨mem, hq⟩ := List.mem_filter.1 (mem_of_latestBy _ hm)
  exact ⟨m, mem, hq, rfl⟩

theorem anchorFor?_of_anchors (s : Snapshot) {category : ProductCategory}
    (kind : category.anchorsBundle = true) : s.anchorFor? category =
      (s.latest? fun m => m.record.category != .addOn && m.subscription.isActiveOrPending).or
        s.base? := by
  cases category with
  | addOn => cases kind
  | base | standalone => rfl

/-- a base or standalone that finds no live anchor is alone -/
theorem anchorFor?_not_live {s : Snapshot} {category : ProductCategory}
    (kind : category.anchorsBundle = true)
    (h : (s.anchorFor? category).any (·.isActiveOrPending) = false) :
    ∀ m ∈ s.members, m.record.category.anchorsBundle = true →
      m.subscription.isActiveOrPending = false := by
  intro m hm hk
  cases live : m.subscription.isActiveOrPending with
  | false => rfl
  | true =>
    exfalso
    rw [anchorFor?_of_anchors s kind] at h
    cases found : s.latest? fun m =>
        m.record.category != .addOn && m.subscription.isActiveOrPending with
    | none =>
      have := latest?_eq_none_iff.1 found m hm
      rw [live, Bool.and_true] at this
      unfold ProductCategory.anchorsBundle at hk
      rw [hk] at this
      cases this
    | some other =>
      obtain ⟨m', _, hq, rfl⟩ := mem_of_latest? found
      rw [found, Option.some_or, Option.any_some] at h
      rw [h, Bool.and_false] at hq
      cases hq

section
variable {s : Service} {ctx : Context} {c : Catalog} {ids : Nat → Uuid} {rename : Bool}
  {p : Progress} {spec : BundleSpecifier} {batch : Batch} {b : PlannedBatch}

theorem Planned.no_live_anchor (h : Planned s ctx c ids rename p spec batch b)
    (brings : 0 < batch.anchors) :
    ∀ r ∈ b.target.stored s.store, r.category.anchorsBundle = true → r.isLiveAt ctx.now = false := by
  obtain ⟨e, rest, first, kind⟩ :=
    Batch.head_of_establishes h.classified ((Batch.establishesBundle_iff h.classified).2 brings)
  have records := h.records
  rw [first] at records
  obtain ⟨started, hs⟩ := BatchChecks.plannedRecords_head records
  have alone := anchorFor?_not_live kind (bundleStartDate_of_anchors kind hs).1
  intro r hr hk
  rw [← SubscriptionRecord.isActiveOrPending_eq]
  exact alone ⟨r, .rebuild r [] ctx.now⟩ (List.mem_map.2 ⟨r, hr, rfl⟩) hk

/-- a record carries the key of its bundle as the call found it -/
theorem Planned.bundleExternalKey (h : Planned s ctx c ids rename p spec batch b) :
    ∀ r ∈ b.records, r.bundleExternalKey = b.target.bundle.externalKey := by
  intro r hr
  obtain ⟨_, _, _, _, made⟩ := BatchChecks.plannedRecords_of_mem h.records r hr
  obtain ⟨_, _, _, rfl⟩ := NewSubscription.record_eq_ok made
  rfl

end

end SubscriptionBundles
