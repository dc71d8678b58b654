import SubscriptionBundles.Proofs.Bases
import SubscriptionBundles.Proofs.Listings
import SubscriptionBundles.Proofs.LiveCounts
import SubscriptionBundles.Proofs.NewRecords

/-!
# The base that is listed first

The base of a bundle is the one created last, a listing begins with the one aligned first.  These are
two subscriptions once a base has been replaced, unless the new one is aligned before all that it
replaces.

* `latestBy_eq_getLast?`          of ascending keys the last is the latest;
* `Service.run_inCreationOrder`   records are stored in the order of their creation;
* `Subscription.Listed.exists_first`  a listing begins with the base aligned first;
* `Subscription.Listed.first_iff`  when that is the one stored last;
* `Service.base_listed_first_iff` when a bundle's base is listed first.
-/

namespace SubscriptionBundles

open Service (Turn)

theorem latestBy_eq_getLast? {α κ : Type} [LE κ] [DecidableLE κ] {key : α → κ} {l : List α}
    (ascending : l.Pairwise fun a b => key a ≤ key b) : latestBy key l = l.getLast? := by
  induction l with
  | nil => rfl
  | cons a l ih =>
    obtain ⟨first, ascending⟩ := List.pairwise_cons.1 ascending
    unfold latestBy
    rw [ih ascending]
    cases l with
    | nil => rfl
    | cons b l =>
      rw [List.getLast?_eq_some_getLast (List.cons_ne_nil b l)]
      show (if key a ≤ key _ then _ else _) = _
      rw [if_pos (first _ (List.getLast_mem _)), List.getLast?_cons_cons,
        List.getLast?_eq_some_getLast (List.cons_ne_nil b l)]

/-! ## records in the order of their creation -/

def Store.InCreationOrder (s : Store) : Prop :=
  s.records.Pairwise fun a b => a.createdUtc ≤ b.createdUtc

theorem Planned.createdUtc {s : Service} {ctx : Context} {c : Catalog} {ids : Nat → Uuid}
    {rename : Bool} {p : Progress} {spec : BundleSpecifier} {batch : Batch} {b : PlannedBatch}
    (h : Planned s ctx c ids rename p spec batch b) :
    ∀ r ∈ b.records, r.createdUtc = ctx.now := by
  intro r hr
  obtain ⟨_, _, _, _, made⟩ := BatchChecks.plannedRecords_of_mem h.records r hr
  obtain ⟨_, _, _, rfl⟩ := NewSubscription.record_eq_ok made
  rfl

/-- a step keeps the order if nothing stored was created after it -/
theorem Step.inCreationOrder {s : Service} {c : Catalog} {t : Turn}
    {a : Except SubscriptionError Answer} {store : Store} (h : Step s c t a store)
    (ordered : s.store.InCreationOrder) (past : ∀ r ∈ s.store.records, r.createdUtc ≤ t.context.now) :
    store.InCreationOrder ∧ ∀ r ∈ store.records, r.createdUtc ≤ t.context.now := by
  rcases h.created_or_grew with ⟨_, _, bs, _, _, _, _, planned, _, rfl⟩ | ⟨grow, records, grew⟩
  · have new : ∀ r ∈ bs.flatMap (·.records), r.createdUtc = t.context.now := by
      intro r hr
      obtain ⟨b, hb, hr⟩ := List.mem_flatMap.1 hr
      obtain ⟨_, _, _, _, here⟩ := planned.of_mem b hb
      exact here.createdUtc r hr
    refine ⟨List.pairwise_append.2 ⟨ordered, ?_, ?_⟩, ?_⟩
    · refine List.pairwise_of_forall_mem_list fun a ha b hb => ?_
      rw [new a ha, new b hb]
      exact Instant.le_refl _
    · intro a ha b hb
      rw [new b hb]
      exact past a ha
    · intro r hr
      rcases List.mem_append.1 hr with old | fresh
      · exact past r old
      · rw [new r fresh]
        exact Instant.le_refl _
  · unfold Store.InCreationOrder
    rw [records, List.pairwise_map]
    refine ⟨ordered.imp_of_mem fun {a b} ha hb before => ?_, ?_⟩
    · rw [(grew a ha).created, (grew b hb).created]
      exact before
    · intro r hr
      obtain ⟨old, ho, rfl⟩ := List.mem_map.1 hr
      rw [(grew old ho).created]
      exact past old ho

namespace Service
variable (c : Catalog) (max : Nat) (cached : Bool) {turns : List Turn}

theorem run_inCreationOrder (distinct : DistinctIds turns) (timely : Timely turns) :
    ((new c max cached).after turns).store.InCreationOrder := by
  have every : ((new c max cached).after turns).store.InCreationOrder ∧
      ∀ now, (∀ u ∈ turns, u.context.now ≤ now) →
        ∀ r ∈ ((new c max cached).after turns).store.records, r.createdUtc ≤ now := by
    refine after_induction (P := fun turns s => s.store.InCreationOrder ∧
      ∀ now, (∀ u ∈ turns, u.context.now ≤ now) → ∀ r ∈ s.store.records, r.createdUtc ≤ now) ?_ ?_
    · exact ⟨.nil, fun _ _ r hr => nomatch hr⟩
    · intro earlier t part given
      obtain ⟨ordered, past⟩ := given
      have step := reached_step c max cached distinct part
      obtain ⟨ordered', past'⟩ :=
        step.inCreationOrder ordered (past t.context.now (timely.initial part).concat)
      refine ⟨ordered', fun now latest r hr => ?_⟩
      have present := latest t (List.mem_append_right _ List.mem_cons_self)
      have created := past' r hr
      rw [Instant.le_def] at *
      omega
  exact every.1

end Service

/-! ## the first of a listing -/

section
variable {records : List SubscriptionRecord} {now : Instant} {listed : List Subscription}
  {b : SubscriptionRecord}

/-- where there is a base, the first is the base aligned first -/
theorem Subscription.Listed.exists_first (h : Listed records now listed) (stored : b ∈ records)
    (base : b.category = .base) :
    ∃ f ∈ records, ∃ rest, listed = .rebuild f [] now :: rest ∧ f.category = .base ∧
      ∀ r ∈ records, r.category = .base → f.alignStartDate ≤ r.alignStartDate := by
  have mem {r : SubscriptionRecord} (hr : r ∈ records) : .rebuild r [] now ∈ listed :=
    h.complete.mem_iff.2 (List.mem_map_of_mem hr)
  cases listed with
  | nil => cases mem stored
  | cons first rest =>
    obtain ⟨f, hf, rfl⟩ := List.mem_map.1 (h.complete.mem_iff.1 List.mem_cons_self)
    have kind : f.category = .base := by
      rcases List.mem_cons.1 (mem stored) with same | later
      · exact (congrArg Subscription.category same).symm.trans base
      · exact (List.pairwise_cons.1 h.basesFirst).1 _ later base
    refine ⟨f, hf, rest, rfl, kind, ?_⟩
    intro r hr other
    rcases List.mem_cons.1 (mem hr) with same | later
    · rw [show r.alignStartDate = f.alignStartDate from congrArg Subscription.alignStartDate same]
      exact Instant.le_refl _
    · exact (List.pairwise_cons.1 h.byDate).1 _ later (iff_of_true kind other)

/-- the first is the one of its rank that is stored first -/
theorem Subscription.Listed.first_stored (h : Listed records now listed) {s : Subscription}
    (first : listed.head? = some s) :
    (records.map (.rebuild · [] now)).find? (·.rank == s.rank) = some s := by
  rw [← List.head?_filter, ← h.stable, List.head?_filter]
  cases listed with
  | nil => cases first
  | cons a rest =>
    cases first
    exact List.find?_cons_of_pos (beq_self_eq_true _)

variable {before : List SubscriptionRecord} (distinct : (records.map (·.id)).Nodup)
  (last : records.filter (·.category == .base) = before ++ [b])
include distinct last

/-- of bases aligned alike the one stored last is not listed first -/
theorem Subscription.Listed.aligned_apart (h : Listed records now listed)
    (first : listed.head? = some (.rebuild b [] now)) :
    ∀ r ∈ before, r.alignStartDate ≠ b.alignStartDate := by
  intro r hr same
  have base : ∀ q ∈ before ++ [b], (q.category == .base) = true := by
    intro q hq
    rw [← last] at hq
    exact (List.mem_filter.1 hq).2
  have own := base b (List.mem_append_right _ List.mem_cons_self)
  let alike (q : SubscriptionRecord) : Bool :=
    (Subscription.rebuild q [] now).rank == (Subscription.rebuild b [] now).rank
  have found := h.first_stored first
  rw [List.find?_map] at found
  obtain ⟨q, hq, rebuilt⟩ := Option.map_eq_some_iff.1 found
  have name : q.id = b.id := congrArg Subscription.id rebuilt
  -- only bases are of its rank
  have among : (before ++ [b]).find? alike = some q := by
    rw [← last, List.find?_filter, ← hq]
    refine congrArg (List.find? · records) (funext fun a => ?_)
    show decide ((a.category == .base) = true ∧ alike a = true) = alike a
    cases held : alike a with
    | false => simp
    | true =>
      have kind : (a.category == .base) = (b.category == .base) :=
        (Prod.mk.inj (beq_iff_eq.1 held)).1
      simp [kind.trans own]
  have mine : alike r = true := by
    refine beq_iff_eq.2 (Prod.ext ?_ same)
    exact (base r (List.mem_append_left _ hr)).trans own.symm
  rw [List.find?_append] at among
  cases earlier : before.find? alike with
  | none => exact List.find?_eq_none.1 earlier r hr mine
  | some p =>
    rw [earlier] at among
    cases among
    have nodup : ((before ++ [b]).map (·.id)).Nodup := by
      rw [← last]
      exact distinct.sublist (List.filter_sublist.map _)
    rw [List.map_append, List.nodup_append] at nodup
    exact nodup.2.2 _ (List.mem_map_of_mem (List.mem_of_find?_eq_some earlier)) _
      List.mem_cons_self name

/-- the base stored last is listed first if all others are aligned after it -/
theorem Subscription.Listed.first_iff (h : Listed records now listed) :
    listed.head? = some (.rebuild b [] now) ↔
      ∀ r ∈ before, b.alignStartDate < r.alignStartDate := by
  have bases : ∀ q, q ∈ records ∧ q.category = .base ↔ q ∈ before ++ [b] := by
    intro q
    rw [← last, List.mem_filter, beq_iff_eq]
  obtain ⟨stored, base⟩ := (bases b).2 (List.mem_append_right _ List.mem_cons_self)
  obtain ⟨f, hf, rest, rfl, kind, earliest⟩ := h.exists_first stored base
  constructor
  · intro first r hr
    obtain ⟨hr', other⟩ := (bases r).2 (List.mem_append_left _ hr)
    have aligned : f.alignStartDate = b.alignStartDate :=
      congrArg Subscription.alignStartDate (Option.some.inj first)
    have late := earliest r hr' other
    have apart := h.aligned_apart distinct last first r hr
    rw [aligned, Instant.le_def] at late
    rw [ne_eq, ← Instant.place_inj] at apart
    rw [Instant.lt_def]
    omega
  · intro later
    rcases List.mem_append.1 ((bases f).1 ⟨hf, kind⟩) with replaced | same
    · have late := later f replaced
      have early := earliest b stored base
      rw [Instant.lt_def] at late
      rw [Instant.le_def] at early
      omega
    · rw [List.mem_singleton.1 same]
      rfl

end

/-! ## every run -/

namespace Service

theorem baseSubscription_answer {s : Service} (order : s.storage.InOrder) (ctx : Context)
    (id : Uuid) : (s.baseSubscription ctx id).1 = match s.store.baseRecord? id with
      | some r => .ok (.rebuild r [] ctx.now)
      | none => .error (.noSuchBaseSubscription id) := by
  show (liftM (s.storage.baseRecord? id) >>= _) = _
  unfold Storage.baseRecord?
  rw [order.read]
  show (match s.store.baseRecord? id with | some r => _ | none => _) = _
  cases s.store.baseRecord? id <;> rfl

theorem baseSubscription_eq_ok {s : Service} (order : s.storage.InOrder) {ctx : Context} {id : Uuid}
    {base : Subscription} (answered : (s.baseSubscription ctx id).1 = .ok base) :
    ∃ b, s.store.baseRecord? id = some b ∧ base = .rebuild b [] ctx.now := by
  rw [baseSubscription_answer order] at answered
  cases found : s.store.baseRecord? id with
  | none =>
    rw [found] at answered
    cases answered
  | some b =>
    rw [found] at answered
    exact ⟨b, rfl, (Except.ok.inj answered).symm⟩

/-- the bases that a bundle has had -/
def basesOf (s : Service) (id : Uuid) : List SubscriptionRecord :=
  (s.store.recordsForBundle id).filter (·.category == .base)

section
variable {s : Service} (order : s.storage.InOrder) (sound : s.store.Sound)
  (ordered : s.store.InCreationOrder) {ctx : Context} {id : Uuid} {base : Subscription}
  (answered : (s.baseSubscription ctx id).1 = .ok base)
include order sound ordered answered

/-- the base of a bundle is the last that it has had -/
theorem exists_base_last : ∃ before b, s.basesOf id = before ++ [b] ∧
    base = .rebuild b [] ctx.now ∧ ∀ r ∈ before, r.id ≠ b.id := by
  obtain ⟨b, latest, rfl⟩ := baseSubscription_eq_ok order answered
  have ascending : (s.basesOf id).Pairwise fun a b => a.createdUtc ≤ b.createdUtc :=
    (ordered.sublist List.filter_sublist).sublist List.filter_sublist
  obtain ⟨before, last⟩ :=
    List.getLast?_eq_some_iff.1 ((latestBy_eq_getLast? ascending).symm.trans latest)
  have nodup : ((s.basesOf id).map (·.id)).Nodup :=
    sound.records.sublist ((List.filter_sublist.trans List.filter_sublist).map _)
  rw [last, List.map_append, List.nodup_append] at nodup
  exact ⟨before, b, last, rfl,
    fun r hr => nodup.2.2 _ (List.mem_map_of_mem hr) _ List.mem_cons_self⟩

theorem base_listed_first : ∃ first rest, (s.subscriptionsForBundle ctx id).1 = .ok (first :: rest) ∧
    first.category = .base ∧ (∀ r ∈ s.basesOf id, first.alignStartDate ≤ r.alignStartDate) ∧
    (first = base ↔ ∀ r ∈ s.basesOf id, r.id ≠ base.id → base.alignStartDate < r.alignStartDate) := by
  obtain ⟨before, b, last, rfl, apart⟩ := exists_base_last order sound ordered answered
  have whole := Subscription.listing_listed (s.store.recordsForBundle id) ctx.now
  have ids : ((s.store.recordsForBundle id).map (·.id)).Nodup :=
    sound.records.sublist (List.filter_sublist.map _)
  have mem : b ∈ s.basesOf id := by
    rw [last]
    exact List.mem_append_right _ List.mem_cons_self
  obtain ⟨stored, kind⟩ := List.mem_filter.1 mem
  obtain ⟨f, _, rest, eq, first, earliest⟩ := whole.exists_first stored (beq_iff_eq.1 kind)
  refine ⟨.rebuild f [] ctx.now, rest, ?_, first, ?_, ?_⟩
  · rw [subscriptionsForBundle_answer order, eq]
  · intro r hr
    obtain ⟨within, other⟩ := List.mem_filter.1 hr
    exact earliest r within (beq_iff_eq.1 other)
  · have head := whole.first_iff ids last
    rw [eq, List.head?_cons, Option.some_inj] at head
    rw [head, last]
    constructor
    · intro later r hr other
      rcases List.mem_append.1 hr with hr | hr
      · exact later r hr
      · exact absurd (congrArg SubscriptionRecord.id (List.mem_singleton.1 hr)) other
    · intro later r hr
      exact later r (List.mem_append_left _ hr) (apart r hr)

end

variable (c : Catalog) (max : Nat) (cached : Bool) {turns : List Turn}

/-- A bundle that has a base lists a base first, of all that it has had the one aligned first.  That is
the base created last exactly if all others are aligned after it. -/
theorem base_listed_first_iff (distinct : DistinctIds turns) (timely : Timely turns) {ctx : Context}
    {id : Uuid} {base : Subscription}
    (answered : (((new c max cached).after turns).baseSubscription ctx id).1 = .ok base) :
    let s := (new c max cached).after turns
    ∃ first rest, (s.subscriptionsForBundle ctx id).1 = .ok (first :: rest) ∧
      first.category = .base ∧ (∀ r ∈ s.basesOf id, first.alignStartDate ≤ r.alignStartDate) ∧
      (first = base ↔
        ∀ r ∈ s.basesOf id, r.id ≠ base.id → base.alignStartDate < r.alignStartDate) := by
  obtain ⟨serves, sound, _⟩ := run_sound c max cached distinct
  exact base_listed_first serves.inOrder sound (run_inCreationOrder c max cached distinct timely)
    answered

end Service

/-! ## a pistol that replaces another -/

namespace Shop

/-- the first pistol is cancelled, the second takes its place in the bundle -/
def replaced : List Turn :=
  let pistol := BundleSpecifier.new [.forPlan "pistol-monthly"]
  [turn 1 (.create [pistol] false), turn 2 (.cancel [.ofNat 1001] ⟨.immediate, none⟩),
    turn 3 (.create [pistol.withBundleId (.ofNat 1000)] false)]

end Shop

theorem base_listed_first_iff_replaced :
    let s := (Service.new Shop.catalog 255 true).after Shop.replaced
    let ctx := Context.ofNow Shop.owner (Shop.midnight 20003)
    DistinctIds Shop.replaced ∧ Timely Shop.replaced ∧
      ∃ base, (s.baseSubscription ctx (.ofNat 1000)).1 = .ok base ∧
        ∃ first rest, (s.subscriptionsForBundle ctx (.ofNat 1000)).1 = .ok (first :: rest) ∧
          first.category = .base ∧
          (∀ r ∈ s.basesOf (.ofNat 1000), first.alignStartDate ≤ r.alignStartDate) ∧
          (first = base ↔ ∀ r ∈ s.basesOf (.ofNat 1000), r.id ≠ base.id →
            base.alignStartDate < r.alignStartDate) := by
  intro s ctx
  have distinct : DistinctIds Shop.replaced := by decide +kernel
  have timely : Timely Shop.replaced := by decide +kernel
  have held : (s.baseSubscription ctx (.ofNat 1000)).1.isOk = true := by decide +kernel
  obtain ⟨base, answered⟩ := exists_of_isOk held
  exact ⟨distinct, timely, base, answered,
    Service.base_listed_first_iff Shop.catalog 255 true distinct timely answered⟩

/-- the pistol that was replaced is listed before the base of the bundle -/
theorem replaced_base_not_first :
    let s := (Service.new Shop.catalog 255 true).after Shop.replaced
    let ctx := Context.ofNow Shop.owner (Shop.midnight 20003)
    DistinctIds Shop.replaced ∧ Timely Shop.replaced ∧
      ∃ base, (s.baseSubscription ctx (.ofNat 1000)).1 = .ok base ∧
        ∃ listed, (s.subscriptionsForBundle ctx (.ofNat 1000)).1 = .ok listed ∧
          listed.head? ≠ some base := by
  intro s ctx
  have distinct : DistinctIds Shop.replaced := by decide +kernel
  have timely : Timely Shop.replaced := by decide +kernel
  have held : ∃ base ∈ (s.baseSubscription ctx (.ofNat 1000)).1.toOption,
      ∃ listed ∈ (s.subscriptionsForBundle ctx (.ofNat 1000)).1.toOption,
        listed.head? ≠ some base := by decide +kernel
  obtain ⟨base, found, listed, shown, other⟩ := held
  exact ⟨distinct, timely, base, mem_toOption.1 found, listed, mem_toOption.1 shown, other⟩

end SubscriptionBundles
