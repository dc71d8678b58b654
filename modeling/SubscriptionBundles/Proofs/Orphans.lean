import SubscriptionBundles.Proofs.ActiveStates
import SubscriptionBundles.Proofs.AnchoredAddOns
import SubscriptionBundles.Proofs.SweptAddOns

/-!
# Add-ons without a base

An active add-on has an active base in its bundle, with two exceptions.  A cancellation leaves an
add-on alone that has an end of its own, and that may lie after the end of its base.  And an add-on
that joins a base with an end date is given none.

* `Store.NoOrphans`                 the law at an instant;
* `Planned.addOn_covered`           a new add-on is covered, or its base has an end date;
* `Service.LeavesAlone`             a cancellation after which an add-on outlives its base;
* `Service.JoinsEnding`             a creation that adds to a base with an end date;
* `Service.turn_cases`              what a turn does to add-ons and their bases;
* `Service.active_add_on_has_base`  but for these, no add-on of a run is active without its base.
-/

namespace SubscriptionBundles

open Service (Turn)

/-! ## the law -/

namespace Store

def hasActiveBase (s : Store) (now : Instant) (id : Uuid) : Bool :=
  s.records.any fun b =>
    b.bundleId == id && b.category == .base && (Subscription.rebuild b [] now).state == .active

def NoOrphans (s : Store) (now : Instant) : Prop :=
  ∀ r ∈ s.records, r.category = .addOn → (Subscription.rebuild r [] now).state = .active →
    s.hasActiveBase now r.bundleId = true

instance (s : Store) (now : Instant) : Decidable (s.NoOrphans now) :=
  inferInstanceAs (Decidable (∀ r ∈ s.records, _ → _ → _))

end Store

/-! ## new add-ons -/

section
variable {s : Service} {ctx : Context} {c : Catalog} {ids : Nat → Uuid} {rename : Bool}
  {p q : Progress} {spec : BundleSpecifier} {batch : Batch} {pb : PlannedBatch}

/-- a new add-on comes with its base, or finds one that is running -/
theorem Planned.addOn_covered (on : s.store.OnPlans c)
    (h : Planned s ctx c ids rename p spec batch pb) {r : SubscriptionRecord} (hr : r ∈ pb.records)
    (addOn : r.category = .addOn) :
    (∃ b ∈ pb.records, b.Covers r) ∨
      ∃ b, s.store.baseRecord? r.bundleId = some b ∧
        (b.Covers r ∨ ∃ date, (Subscription.rebuild b [] ctx.now).endDate = some date ∧
          r.alignStartDate < date) := by
  have covers {b : SubscriptionRecord} (anchors : b.Anchors c r)
      (lives : ∀ now, b.isLiveAt now = true) : b.Covers r := by
    refine ⟨anchors.base, anchors.home, ?_, fun now _ _ => lives now⟩
    rw [anchors.start]
    exact anchors.later
  refine (h.addOn_anchored on hr addOn).imp ?_ ?_
  · intro given
    obtain ⟨b, hb, anchors⟩ := given
    exact ⟨b, hb, covers anchors fun now => BatchChecks.plannedRecords_isLiveAt h.records now b hb⟩
  · intro given
    obtain ⟨b, hb, anchors, ends⟩ := given
    refine ⟨b, hb, ?_⟩
    cases ended : (Subscription.rebuild b [] ctx.now).endDate with
    | some date => exact .inr ⟨date, rfl, ends date ended⟩
    | none =>
      have lasting : b.neverEnds = true := by
        rw [← b.endDate_isNone_eq ctx.now, ended]
        rfl
      exact .inl (covers anchors fun now => b.isLiveAt_of_neverEnds lasting now)

end

/-! ## one turn -/

/-- the same subscriptions later on, none of them cancelled meanwhile -/
def Store.Kept (s later : Store) : Prop :=
  ∃ keep, later.records = s.records.map keep ∧ ∀ r ∈ s.records, r.Kept (keep r)

namespace Store.Kept
variable {s later : Store}

theorem of_records (same : later.records = s.records) : s.Kept later := by
  refine ⟨id, ?_, fun r _ => .refl r⟩
  rw [same, List.map_id]

theorem charge (s : Store) (id : Uuid) (date : Instant) : s.Kept (s.charge id date) := by
  refine ⟨_, rfl, ?_⟩
  intro r _
  show r.Kept (if _ then _ else r)
  split
  · exact ⟨⟨rfl, rfl, rfl, rfl, rfl, [], by simp⟩, fun _ he _ => he⟩
  · exact .refl r

theorem append (s : Store) {e : TransitionEvent} (other : e.kind ≠ .cancel) : s.Kept (s.append [e]) := by
  refine ⟨_, rfl, ?_⟩
  intro r _
  refine ⟨.withEvents [e] r, ?_⟩
  intro f hf cancel
  rcases List.mem_append.1 hf with hf | hf
  · exact hf
  · have same := List.mem_singleton.1 (List.mem_filter.1 hf).1
    rw [same] at cancel
    exact absurd cancel other

end Store.Kept

namespace Service
variable {s : Service} {c : Catalog} {max : Nat} {t : Turn}

/-- a turn adds subscriptions, or cancels some, or does neither -/
theorem turn_cases (h : s.Serves c max) (sound : s.store.Sound) (fresh : s.store.Fresh t.drawn) :
    (∃ specifiers rename bs q, t.request = .create specifiers rename ∧
        PlannedAll s t.context c t.ids rename .start specifiers bs q ∧ s.store.Takes bs ∧
        (s.turn t).2.store = s.store.commit t.context.now bs) ∨
      (∃ ids terms w, t.request = .cancel ids terms ∧
        ids.foldlM (sweepSubscription s.storage t.context c terms) .start = .ok w ∧
        (s.turn t).2.store = s.store.append w.events) ∨
      s.store.Kept (s.turn t).2.store := by
  have step := (handle_step h sound t fresh).1
  change Step s c t (s.turn t).1 (s.turn t).2.store at step
  generalize answer : (s.turn t).1 = a at step
  generalize left : (s.turn t).2.store = store at step
  cases step with
  | refused | read | rekeyed => exact .inr (.inr (.of_records rfl))
  | bundleCreated =>
    refine .inr (.inr (.of_records ?_))
    simp [Store.commit]
  | charged => exact .inr (.inr (.charge _ _ _))
  | created request planned takes =>
    exact .inl ⟨_, _, _, _, request, planned, takes, rfl⟩
  | continued _ request =>
    obtain ⟨ctx, draws, _⟩ := t
    rcases request with ⟨ids, terms, rfl⟩ | ⟨id, day, start, rfl⟩
    · obtain ⟨w, swept, ends⟩ := cancel_of_ok h sound answer
      exact .inr (.inl ⟨ids, terms, w, rfl, swept, left.symm.trans ends⟩)
    · obtain ⟨r, _, date, ends⟩ := updateBillCycleDay_of_ok h sound answer
      refine .inr (.inr ?_)
      rw [left.symm.trans ends]
      refine .append _ ?_
      intro same
      cases same

/-- a call that cancels a base and finds an add-on of it ended already, which ends later -/
def LeavesAlone (s : Service) (c : Catalog) (t : Turn) (id : Uuid) : Prop :=
  ∃ ids terms, t.request = .cancel ids terms ∧
    ∃ b ∈ s.store.records, ∃ r ∈ s.store.records, r.id = id ∧ r.category = .addOn ∧
      b.category = .base ∧ b.bundleId = r.bundleId ∧
      Sweep.PassesOver s.storage t.context c terms ids b r ∧
      ∃ b' ∈ (s.turn t).2.store.records, ∃ r' ∈ (s.turn t).2.store.records,
        b'.id = b.id ∧ r'.id = r.id ∧ r'.Outlives b'

/-- a call that adds an add-on to a base with an end date after the start of the add-on -/
def JoinsEnding (s : Service) (t : Turn) (id : Uuid) : Prop :=
  id ∉ s.store.recordIds ∧ ∃ r ∈ (s.turn t).2.store.records, r.id = id ∧ r.category = .addOn ∧
    ∃ b, s.store.baseRecord? r.bundleId = some b ∧
      ∃ date, (Subscription.rebuild b [] t.context.now).endDate = some date ∧
        r.alignStartDate < date

/-- every add-on has a base that covers it, unless it is excused -/
def Based (s : Service) (excused : Uuid → Prop) : Prop :=
  ∀ r ∈ s.store.records, r.category = .addOn →
    (∃ b ∈ s.store.records, b.Covers r) ∨ excused r.id

theorem Based.turn (h : s.Serves c max) (sound : s.store.Sound) (fresh : s.store.Fresh t.drawn)
    (on : s.store.OnPlans c) {excused : Uuid → Prop} (based : s.Based excused) :
    (s.turn t).2.Based fun id => excused id ∨ s.LeavesAlone c t id ∨ s.JoinsEnding t id := by
  intro r' hr' addOn
  rcases turn_cases h sound fresh with ⟨_, _, bs, q, _, planned, takes, left⟩ |
    ⟨ids, terms, w, request, swept, left⟩ | ⟨keep, left, kept⟩
  · rw [left] at hr' ⊢
    rcases List.mem_append.1 hr' with old | new
    · refine (based r' old addOn).imp ?_ .inl
      intro given
      obtain ⟨b, hb, covers⟩ := given
      exact ⟨b, List.mem_append_left _ hb, covers⟩
    · obtain ⟨pb, hpb, hr⟩ := List.mem_flatMap.1 new
      obtain ⟨_, _, _, _, here⟩ := planned.of_mem pb hpb
      rcases here.addOn_covered on hr addOn with ⟨b, hb, covers⟩ | ⟨b, hb, covers | ending⟩
      · exact .inl ⟨b, List.mem_append_right _ (List.mem_flatMap.2 ⟨pb, hpb, hb⟩), covers⟩
      · exact .inl ⟨b, List.mem_append_left _ (mem_of_baseRecord? hb).1, covers⟩
      · refine .inr (.inr (.inr ⟨?_, r', ?_, rfl, addOn, b, hb, ending⟩))
        · intro old
          exact (List.nodup_append.1 takes.records).2.2 _ old _ (List.mem_map_of_mem new) rfl
        · rw [left]
          exact hr'
  · rw [left] at hr' ⊢
    obtain ⟨r, hr, rfl⟩ := List.mem_map.1 hr'
    rcases based r hr addOn with ⟨b, hb, covers⟩ | excused
    · obtain ⟨_, _, _, follows⟩ := on r hr
      have hb' : b.withEvents w.events ∈ (s.store.append w.events).records := List.mem_map_of_mem hb
      rcases covers.or_outlives (.withEvents w.events b) (.withEvents w.events r) with
        covers' | outlives
      · exact .inl ⟨_, hb', covers'⟩
      · rcases covers_or_passesOver h.inOrder sound hb hr covers addOn follows swept with
          covers' | passed
        · exact .inl ⟨_, hb', covers'⟩
        · refine .inr (.inr (.inl ⟨ids, terms, request, b, hb, r, hr, rfl, addOn, covers.base,
            covers.home, passed, b.withEvents w.events, ?_, r.withEvents w.events, ?_, rfl, rfl,
            outlives⟩))
          · rw [left]
            exact hb'
          · rw [left]
            exact hr'
    · exact .inr (.inl excused)
  · rw [left] at hr' ⊢
    obtain ⟨r, hr, rfl⟩ := List.mem_map.1 hr'
    rw [(kept r hr).category] at addOn
    rw [(kept r hr).id]
    refine (based r hr addOn).imp ?_ .inl
    intro given
    obtain ⟨b, hb, covers⟩ := given
    exact ⟨keep b, List.mem_map_of_mem hb, covers.later (kept b hb) (kept r hr).toGrew⟩

/-! ## every run -/

/-- some turn of a row excuses an add-on for being without its base -/
def Excuses (s : Service) (c : Catalog) (turns : List Turn) (id : Uuid) : Prop :=
  ∃ earlier t, earlier ++ [t] <+: turns ∧
    ((s.after earlier).LeavesAlone c t id ∨ (s.after earlier).JoinsEnding t id)

variable (c : Catalog) (max : Nat) (cached : Bool) {turns : List Turn}

theorem run_based (distinct : DistinctIds turns) :
    ((new c max cached).after turns).Based ((new c max cached).Excuses c turns) := by
  refine after_induction (P := fun turns s => s.Based ((new c max cached).Excuses c turns)) ?_ ?_
  · intro r hr
    cases hr
  · intro earlier t part based
    obtain ⟨serves, sound, fresh⟩ := reached c max cached distinct part
    have before : earlier <+: turns := (List.prefix_append earlier [t]).trans part
    have on := run_onPlans c max cached (distinct.initial before)
    intro r hr addOn
    refine (based.turn serves sound fresh on r hr addOn).imp_right ?_
    intro excused
    rcases excused with ⟨past, u, early, excused⟩ | now
    · exact ⟨past, u, early.trans (List.prefix_append earlier [t]), excused⟩
    · exact ⟨earlier, t, List.prefix_refl _, now⟩

theorem active_add_on_has_base (distinct : DistinctIds turns) :
    ∀ r ∈ ((new c max cached).after turns).store.records, r.category = .addOn →
      ∀ now, (Subscription.rebuild r [] now).state = .active →
        ((new c max cached).after turns).store.hasActiveBase now r.bundleId = true ∨
          (new c max cached).Excuses c turns r.id := by
  intro r hr addOn now active
  refine (run_based c max cached distinct r hr addOn).imp_left ?_
  intro given
  obtain ⟨b, hb, covers⟩ := given
  have on := run_onPlans c max cached distinct
  obtain ⟨_, _, _, follows⟩ := on r hr
  obtain ⟨_, _, _, followsBase⟩ := on b hb
  obtain ⟨started, live⟩ := (follows.active_iff now).1 active
  have activeBase : (Subscription.rebuild b [] now).state = .active := by
    refine (followsBase.active_iff now).2 ⟨?_, covers.lives now started live⟩
    have start := covers.start
    rw [Instant.le_def] at *
    omega
  unfold Store.hasActiveBase
  rw [List.any_eq_true]
  exact ⟨b, hb, by simp [covers.home, covers.base, activeBase]⟩

end Service

/-! ## a laser without its pistol -/

namespace Shop

/-- the pistol is paid ahead and cancelled, and its laser with it -/
def disarmed : List Turn :=
  [turn 1 (.create [pair] false), turn 2 (.setChargedThrough (.ofNat 1001) (midnight 20030)),
    turn 3 (.cancel [.ofNat 1001] ⟨.endOfTerm, none⟩)]

/-- the laser is paid further ahead and cancelled first, so it ends on its own -/
def outlived : List Turn :=
  [turn 1 (.create [pair] false), turn 2 (.setChargedThrough (.ofNat 1002) (midnight 20030)),
    turn 3 (.cancel [.ofNat 1002] ⟨.endOfTerm, none⟩),
    turn 4 (.cancel [.ofNat 1001] ⟨.immediate, none⟩)]

end Shop

theorem active_add_on_has_base_disarmed :
    let s := (Service.new Shop.catalog 255 true).after Shop.disarmed
    DistinctIds Shop.disarmed ∧
      ∃ r ∈ s.store.records, r.category = .addOn ∧
        (Subscription.rebuild r [] (Shop.midnight 20029)).state = .active ∧
        (s.store.hasActiveBase (Shop.midnight 20029) r.bundleId = true ∨
          (Service.new Shop.catalog 255 true).Excuses Shop.catalog Shop.disarmed r.id) := by
  have distinct : DistinctIds Shop.disarmed := by decide +kernel
  have held : ∃ r ∈ ((Service.new Shop.catalog 255 true).after Shop.disarmed).store.records,
      r.category = .addOn ∧
        (Subscription.rebuild r [] (Shop.midnight 20029)).state = .active := by decide +kernel
  obtain ⟨r, hr, addOn, active⟩ := held
  exact ⟨distinct, r, hr, addOn, active, Service.active_add_on_has_base Shop.catalog 255 true
    distinct r hr addOn _ active⟩

theorem outlived_not_noOrphans :
    DistinctIds Shop.outlived ∧ Timely Shop.outlived ∧
      (∀ t ∈ Shop.outlived, t.context.now ≤ Shop.midnight 20004) ∧
      ¬((Service.new Shop.catalog 255 true).after Shop.outlived).store.NoOrphans
        (Shop.midnight 20004) := by
  decide +kernel

end SubscriptionBundles
