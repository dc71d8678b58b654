import SubscriptionBundles.Proofs.Bases
import SubscriptionBundles.Proofs.Relabelling
import SubscriptionBundles.Proofs.Runs

/-!
# Previews of a start

A dry run of a start and a creation of the same plan in the same bundle ask the same of the plan.
They choose its date apart, and differ where an add-on without a date finds a base that starts
later: the creation waits for the base, the dry run refuses.

* `DryRunArguments.specifier`           the creation that a start previews;
* `startRecord_eq_ok`                   what a previewed record has gone through;
* `plannedAll_specifier_iff`            what the creation goes through;
* `Service.simulate_answer`             a dry run shows what its simulation comes to;
* `Service.simulate_eq_ok_iff`          when a preview is given;
* `Service.start_preview_kept`          a preview that is given is kept;
* `Service.start_preview_given_iff`     which creations have one.
-/

namespace SubscriptionBundles

open Service (Turn)

/-! ## one plan -/

/-- the creation that a start on a bundle previews -/
def DryRunArguments.specifier (args : DryRunArguments) (bundle : Uuid) (migrated : Bool) :
    BundleSpecifier :=
  ⟨some bundle, none, [⟨args.plan, args.overrides⟩], args.effectiveDate, migrated⟩

/-- the date asked for, or the present -/
def DryRunArguments.requested (args : DryRunArguments) (ctx : Context) : Instant :=
  (args.effectiveDate.map ctx.instantOf).getD ctx.now

def Batch.single (e : Entitlement) : Batch :=
  match e.category with
  | .base => ⟨some e, [], []⟩
  | .addOn => ⟨none, [e], []⟩
  | .standalone => ⟨none, [], [e]⟩

namespace Batch
variable (e : Entitlement)

theorem entitlements_single : (single e).entitlements = [e] := by
  unfold single
  cases e.category <;> rfl

theorem isEmpty_single : (single e).isEmpty = false := by
  unfold isEmpty
  rw [entitlements_single]
  rfl

theorem establishesBundle_single :
    (single e).establishesBundle = e.category.anchorsBundle := by
  unfold single
  cases e.category <;> rfl

theorem addOnPlans_single (addOn : e.category = .addOn) : (single e).addOnPlans = [e.plan] := by
  unfold single
  rw [addOn]
  rfl

theorem add_empty : empty.add e = .ok (single e) := by
  unfold add single
  cases e.category <;> rfl

theorem isMixed_single : (single e).isMixed = false := by
  unfold single
  cases e.category <;> rfl

theorem classify_single {c : Catalog} {specifier : PlanSpecifier} {overrides : List PriceOverride}
    {batch : Batch} :
    classify c [⟨some specifier, overrides⟩] = .ok batch ↔
      ∃ plan, c.resolvePlan specifier overrides = .ok plan ∧
        batch = single ⟨plan, specifier, overrides⟩ := by
  constructor
  · intro h
    rcases gather_cons_eq_ok (classify_eq_ok h).1 with ⟨none, _⟩ | ⟨e, next, _, resolves, added, rest⟩
    · cases none
    · cases rest
      unfold EntitlementSpecifier.resolve? at resolves
      rw [Option.bind_some] at resolves
      cases found : c.resolvePlan specifier overrides with
      | error _ =>
        simp [found] at resolves
      | ok plan =>
        simp only [found, Option.some.injEq] at resolves
        subst resolves
        rw [add_empty] at added
        cases added
        exact ⟨plan, rfl, rfl⟩
  · intro given
    obtain ⟨plan, found, rfl⟩ := given
    have gathered : gather c empty [⟨some specifier, overrides⟩] =
        .ok (single ⟨plan, specifier, overrides⟩) := by
      show (liftM (c.resolvePlan specifier overrides) >>= _) = _
      rw [bind_eq_ok]
      refine ⟨plan, liftM_eq_ok.2 found, ?_⟩
      rw [add_empty]
      rfl
    unfold classify
    rw [gathered, bind_eq_ok]
    refine ⟨_, rfl, ?_⟩
    rw [isMixed_single]
    rfl

end Batch

/-! ## the record that is previewed -/

section
variable {ctx : Context} {c : Catalog} {snapshot : Snapshot} {specifier : PlanSpecifier}
  {overrides : List PriceOverride} {requested : Instant}

/-- the subscription that starts a plan in a bundle -/
def Snapshot.starting (snapshot : Snapshot) (ctx : Context) (specifier : PlanSpecifier) (plan : Plan)
    (id : Uuid) (requested started : Instant) (migrated : Bool) : NewSubscription where
  id := id
  bundleId := snapshot.bundleId
  bundleExternalKey := snapshot.bundleExternalKey
  plan := plan
  initialPhase := specifier.phaseType
  bundleStartDate := started
  alignStartDate := requested
  effectiveDate := requested
  processedDate := ctx.now
  migrated := migrated

theorem startRecord_eq_ok {r : SubscriptionRecord} :
    startRecord ctx c snapshot specifier overrides requested = .ok r ↔
      ∃ plan started, c.resolvePlan specifier overrides = .ok plan ∧
        bundleStartDate c plan snapshot.bundleId.written (snapshot.anchorFor? plan.category)
          requested = .ok started ∧
        checkAddOnLimit plan snapshot.subscriptions [plan] = .ok () ∧
        (snapshot.starting ctx specifier plan (syntheticId snapshot.bundleId plan requested)
          requested started false).record c = .ok r := by
  unfold startRecord
  simp only [bind_eq_ok, liftM_eq_ok]
  constructor
  · intro given
    obtain ⟨plan, found, started, hs, _, hl, hr⟩ := given
    exact ⟨plan, started, found, hs, hl, hr⟩
  · intro given
    obtain ⟨plan, started, found, hs, hl, hr⟩ := given
    exact ⟨plan, found, started, hs, (), hl, hr⟩

/-- another identifier for the subscription -/
theorem Snapshot.relabel_starting {plan : Plan} {old : Uuid} {started : Instant} {migrated : Bool}
    {r : SubscriptionRecord} (h : (snapshot.starting ctx specifier plan old requested started
      migrated).record c = .ok r) (new : Uuid) :
    (snapshot.starting ctx specifier plan old requested started migrated).relabel id
      (r.id.replace new) =
        snapshot.starting ctx specifier plan new requested started migrated := by
  obtain ⟨_, _, _, rfl⟩ := NewSubscription.record_eq_ok h
  show { snapshot.starting ctx specifier plan old requested started migrated with
    id := old.replace new old } = _
  rw [Uuid.replace_self]
  rfl

theorem simulate_start_eq_ok {args : DryRunArguments} (starts : args.action = .startBilling)
    (given : args.plan = some specifier) {sim : Simulation} :
    simulate ctx c snapshot args = .ok sim ↔
      ∃ r, startRecord ctx c snapshot specifier args.overrides (args.requested ctx) = .ok r ∧
        sim = ⟨args.action, r.events, some r⟩ := by
  unfold simulate simulateStart requiredPlan
  rw [starts, given]
  show ((startRecord ctx c snapshot specifier args.overrides (args.requested ctx)) >>= _) = _ ↔ _
  rw [bind_eq_ok]
  exact exists_congr fun r => and_congr_right fun _ => pure_eq_ok.trans eq_comm

end

/-! ## the creation that is previewed -/

/-- a bundle and its subscriptions -/
def Store.snapshotOf (s : Store) (b : Bundle) (now : Instant) : Snapshot :=
  .take b.id b.externalKey (s.recordsForBundle b.id) now

/-- the base of the bundle starts later -/
def Store.AwaitsBase (s : Store) (now : Instant) (id : Uuid) : Prop :=
  ∃ base, s.baseRecord? id = some base ∧ now < (Subscription.rebuild base [] now).startDate

/-- the date that the creation chooses -/
def DryRunArguments.dateIn (args : DryRunArguments) (s : Service) (ctx : Context) (b : Bundle)
    (plan : Plan) (specifier : PlanSpecifier) (migrated : Bool) : Instant :=
  requestedStart ctx (args.specifier b.id migrated) (.single ⟨plan, specifier, args.overrides⟩)
    (s.store.snapshotOf b ctx.now)

theorem checkAddOnLimit_single (plan : Plan) (existing : List Subscription) (e : Entitlement)
    (alone : e.plan = plan) (t : Target) :
    checkAddOnLimit plan existing ((Progress.start.after t (.single e)).joiningBundle t.bundle.id) =
      checkAddOnLimit plan existing [plan] := by
  subst alone
  by_cases addOn : e.plan.category = .addOn
  · have joining : (Progress.start.after t (.single e)).joiningBundle t.bundle.id = [e.plan] := by
      unfold Progress.joiningBundle Progress.after
      rw [Batch.addOnPlans_single e addOn]
      simp [Progress.start]
    rw [joining]
  · unfold checkAddOnLimit
    cases hc : e.plan.category with
    | addOn => exact absurd hc addOn
    | base | standalone => rfl

section
variable {s : Service} {ctx : Context} {c : Catalog} {ids : Nat → Uuid} {rename : Bool}
  {b : Bundle} {args : DryRunArguments} {specifier : PlanSpecifier} {migrated : Bool} {plan : Plan}

theorem plannedAll_specifier_iff (order : s.storage.InOrder) (sound : s.store.Sound)
    (stored : b ∈ s.store.bundles) (own : b.accountId = ctx.accountId)
    (given : args.plan = some specifier) {bs : List PlannedBatch} :
    (∃ q, PlannedAll s ctx c ids rename .start [args.specifier b.id migrated] bs q) ↔
      ∃ plan started r, c.resolvePlan specifier args.overrides = .ok plan ∧
        bundleStartDate c plan (Target.existing b).label
          ((s.store.snapshotOf b ctx.now).anchorFor? plan.category)
          (args.dateIn s ctx b plan specifier migrated) = .ok started ∧
        checkAddOnLimit plan (s.store.snapshotOf b ctx.now).subscriptions [plan] = .ok () ∧
        ((s.store.snapshotOf b ctx.now).starting ctx specifier plan (ids 0)
          (args.dateIn s ctx b plan specifier migrated) started migrated).record c = .ok r ∧
        bs = [⟨.existing b, [r]⟩] := by
  constructor
  · intro planned
    obtain ⟨q, all⟩ := planned
    cases all with
    | @skip _ _ _ batch _ _ classified empty _ =>
      unfold DryRunArguments.specifier at classified
      rw [given, Batch.classify_single] at classified
      obtain ⟨plan, _, rfl⟩ := classified
      rw [Batch.isEmpty_single] at empty
      cases empty
    | @plan _ _ _ batch pb _ _ here later =>
      cases later
      have classified := here.classified
      unfold DryRunArguments.specifier at classified
      rw [given, Batch.classify_single] at classified
      obtain ⟨plan, found, rfl⟩ := classified
      obtain ⟨other, ho, same, _, target⟩ := here.of_named order rfl
      obtain rfl : other = b := sound.bundle_eq ho stored same
      have records := here.records
      rw [target, Batch.entitlements_single] at records
      obtain ⟨started, r, rest, hs, hl, hr, none, eq⟩ :=
        BatchChecks.plannedRecords_cons_eq_ok.1 records
      cases none
      refine ⟨plan, started, r, found, hs, ?_, hr, ?_⟩
      · rw [← checkAddOnLimit_single plan _ ⟨plan, specifier, args.overrides⟩ rfl (.existing other)]
        exact hl
      · rw [← eq, ← target]
  · intro made
    obtain ⟨plan, started, r, found, hs, hl, hr, rfl⟩ := made
    have here : Planned s ctx c ids rename .start (args.specifier b.id migrated)
        (.single ⟨plan, specifier, args.overrides⟩) ⟨.existing b, [r]⟩ := by
      refine ⟨?_, Batch.isEmpty_single _, ?_, ?_⟩
      · unfold DryRunArguments.specifier
        rw [given, Batch.classify_single]
        exact ⟨plan, found, rfl⟩
      · rw [targetBundle_eq_ok]
        refine .inl ⟨b.id, b, rfl, rfl, ?_⟩
        exact (bundleById_eq_ok order).2 ⟨sound.bundle?_eq stored, nofun, own⟩
      · rw [Batch.entitlements_single, BatchChecks.plannedRecords_cons_eq_ok]
        refine ⟨started, r, [], hs, ?_, hr, rfl, rfl⟩
        rw [← checkAddOnLimit_single plan _ ⟨plan, specifier, args.overrides⟩ rfl (.existing b)] at hl
        exact hl
    exact ⟨_, .plan here (.nil _)⟩

/-! ## the date -/

theorem Instant.max_of_not_lt {a b : Instant} (h : ¬a < b) : max a b = a := by
  rw [Instant.max_def]
  split
  · next le =>
    refine Instant.place_inj.1 ?_
    rw [Instant.le_def] at le
    rw [Instant.lt_def] at h
    omega
  · rfl

/-- a creation chooses the date of the dry run, or waits for a base that starts later -/
theorem requestedStart_single (args : DryRunArguments) (id : Uuid) (migrated : Bool) (e : Entitlement)
    (ctx : Context) (snapshot : Snapshot) :
    requestedStart ctx (args.specifier id migrated) (.single e) snapshot = args.requested ctx ∨
      args.effectiveDate = none ∧ e.category = .addOn ∧
        ∃ base, snapshot.base? = some base ∧ ctx.now < base.startDate := by
  unfold requestedStart DryRunArguments.requested DryRunArguments.specifier
  cases dated : args.effectiveDate with
  | some date => exact .inl rfl
  | none =>
    cases found : snapshot.base? with
    | none => exact .inl rfl
    | some base =>
      show (if (Batch.single e).establishesBundle then _ else _) = _ ∨ _
      rw [Batch.establishesBundle_single]
      cases kind : e.category with
      | base | standalone => exact .inl rfl
      | addOn =>
        by_cases later : ctx.now < base.startDate
        · exact .inr ⟨rfl, rfl, base, rfl, later⟩
        · exact .inl (Instant.max_of_not_lt later)

/-- an add-on that asks for no date finds a base that starts later -/
def DryRunArguments.Waits (args : DryRunArguments) (c : Catalog) (s : Store) (now : Instant)
    (id : Uuid) : Prop :=
  args.effectiveDate = none ∧
    (∃ e, EntitlementSpecifier.resolve? c ⟨args.plan, args.overrides⟩ = some e ∧
      e.category = .addOn) ∧
    s.AwaitsBase now id

section
variable (found : c.resolvePlan specifier args.overrides = .ok plan)
  (given : args.plan = some specifier)
include found given

theorem resolve?_of_given : EntitlementSpecifier.resolve? c ⟨args.plan, args.overrides⟩ =
    some ⟨plan, specifier, args.overrides⟩ := by
  rw [given]
  exact resolve?_of_ok rfl found

/-- who does not wait starts on the date of the dry run -/
theorem dateIn_of_prompt (migrated : Bool) (prompt : ¬args.Waits c s.store ctx.now b.id) :
    args.dateIn s ctx b plan specifier migrated = args.requested ctx := by
  refine (requestedStart_single args b.id migrated _ ctx _).resolve_right ?_
  intro waits
  obtain ⟨undated, addOn, base, hb, later⟩ := waits
  have base? := Snapshot.base?_take s.store b.id b.externalKey ctx.now
  obtain ⟨r, hr, rfl⟩ := Option.map_eq_some_iff.1 (base?.symm.trans hb)
  exact prompt ⟨undated, ⟨_, resolve?_of_given found given, addOn⟩, r, hr, later⟩

theorem not_waits_of_started {label : String} {started : Instant}
    (starts : bundleStartDate c plan label ((s.store.snapshotOf b ctx.now).anchorFor? plan.category)
      (args.requested ctx) = .ok started) : ¬args.Waits c s.store ctx.now b.id := by
  intro waits
  obtain ⟨undated, ⟨e, resolves, addOn⟩, r, hr, later⟩ := waits
  rw [resolve?_of_given found given] at resolves
  cases resolves
  change plan.category = .addOn at addOn
  obtain ⟨base, anchor, late, _⟩ := (bundleStartDate_addOn_iff addOn).1 starts
  have base? := Snapshot.base?_take s.store b.id b.externalKey ctx.now
  rw [hr, Option.map_some] at base?
  rw [addOn] at anchor
  cases base?.symm.trans anchor
  unfold DryRunArguments.requested at late
  rw [undated] at late
  exact late later

end

/-! ## one against the other -/

section
variable (order : s.storage.InOrder) (sound : s.store.Sound) (stored : b ∈ s.store.bundles)
  (own : b.accountId = ctx.accountId) (given : args.plan = some specifier)
include order sound stored own given

/-- the creation asks no more of a plan than the dry run -/
theorem plannedAll_of_startRecord {r : SubscriptionRecord}
    (h : startRecord ctx c (s.store.snapshotOf b ctx.now) specifier args.overrides
      (args.requested ctx) = .ok r) :
    ∃ q, PlannedAll s ctx c ids rename .start [args.specifier b.id false]
      [⟨.existing b, [r.relabel id (r.id.replace (ids 0))]⟩] q := by
  obtain ⟨plan, started, found, hs, hl, hr⟩ := startRecord_eq_ok.1 h
  have date := dateIn_of_prompt found given false (not_waits_of_started found given hs)
  have relabelled := congrArg (Except.map (·.relabel id (r.id.replace (ids 0)))) hr
  rw [← NewSubscription.record_relabel, Snapshot.relabel_starting hr] at relabelled
  refine (plannedAll_specifier_iff order sound stored own given).2
    ⟨plan, started, _, found, ?_, hl, ?_, rfl⟩
  · rw [date]
    exact bundleStartDate_label _ hs
  · rw [date]
    exact relabelled

theorem startRecord_of_plannedAll (prompt : ¬args.Waits c s.store ctx.now b.id)
    {bs : List PlannedBatch} {q : Progress}
    (all : PlannedAll s ctx c ids rename .start [args.specifier b.id migrated] bs q) :
    ∃ r, startRecord ctx c (s.store.snapshotOf b ctx.now) specifier args.overrides
      (args.requested ctx) = .ok r := by
  obtain ⟨plan, started, made, found, hs, hl, hr, _⟩ :=
    (plannedAll_specifier_iff order sound stored own given).1 ⟨q, all⟩
  rw [dateIn_of_prompt found given migrated prompt] at hs hr
  have unmigrated := NewSubscription.record_of_migrated hr false
  let synthetic := syntheticId b.id plan (args.requested ctx)
  have renamed := congrArg (Except.map (·.relabel id fun _ => synthetic)) unmigrated
  rw [← NewSubscription.record_relabel] at renamed
  exact ⟨_, startRecord_eq_ok.2 ⟨plan, started, found, bundleStartDate_label _ hs, hl, renamed⟩⟩

end

end

/-! ## a laser for a pistol -/

namespace Shop

/-- a pistol on the date, or at once -/
def armed (date : Option Date) : List Turn :=
  [turn 1 (.create [⟨none, none, [.forPlan "pistol-monthly"], date, false⟩] false)]

def laserStart : DryRunArguments := .startBilling (.forPlan "laser-monthly")

/-- the laser that is previewed, created in the bundle of the pistol -/
def lasered : Turn := turn 2 (.create [laserStart.specifier (.ofNat 1000) false] false)

/-- the bundle of the pistol -/
def holster : Bundle := .new (.ofNat 1000) owner none (midnight 20001)

end Shop

/-! ## the calls -/

theorem Store.commit_existing (s : Store) (now : Instant) (b : Bundle)
    (records : List SubscriptionRecord) :
    s.commit now [⟨.existing b, records⟩] = { s with records := s.records ++ records } := by
  have same : Bundle.renamedBy now [] = id := rfl
  simp [commit, PlannedBatch.renames, PlannedBatch.newBundle?, same]

namespace Service

section
variable {s : Service} {c : Catalog} {max : Nat} (h : s.Serves c max) (sound : s.store.Sound)
  {ctx : Context} {b : Bundle} (stored : b ∈ s.store.bundles)
include h sound stored

/-- a dry run shows what its simulation comes to -/
theorem simulate_answer (args : DryRunArguments) :
    (s.simulate ctx b.id args).1 =
      (SubscriptionBundles.simulate ctx c (s.store.snapshotOf b ctx.now) args).map
        (·.toBundle b (s.store.snapshotOf b ctx.now) ctx.now) := by
  have decided : s.simulate ctx b.id args = s.carryOut .simulateSubscriptionsForBundle (do
      let sim ← SubscriptionBundles.simulate ctx c (s.store.snapshotOf b ctx.now) args
      return ⟨[.count (.dryRun args.action)],
        fun _ => .ok (sim.toBundle b (s.store.snapshotOf b ctx.now) ctx.now)⟩) := by
    unfold simulate Storage.recordsForBundle
    rw [(requireBundle_eq_ok h.inOrder).2 (sound.bundle?_eq stored), h.inOrder.read, h.catalog_eq]
    rfl
  rw [decided]
  cases SubscriptionBundles.simulate ctx c (s.store.snapshotOf b ctx.now) args with
  | error e => rfl
  | ok sim =>
    exact (@carryOut_of_ok c max _ .simulateSubscriptionsForBundle s h
      ⟨[.count (.dryRun args.action)],
        fun _ => .ok (sim.toBundle b (s.store.snapshotOf b ctx.now) ctx.now)⟩ _ rfl).2.2

theorem simulate_eq_ok_iff {args : DryRunArguments} {preview : DryRunBundle} :
    (s.simulate ctx b.id args).1 = .ok preview ↔
      ∃ sim, SubscriptionBundles.simulate ctx c (s.store.snapshotOf b ctx.now) args = .ok sim ∧
        preview = sim.toBundle b (s.store.snapshotOf b ctx.now) ctx.now := by
  rw [simulate_answer h sound stored]
  cases SubscriptionBundles.simulate ctx c (s.store.snapshotOf b ctx.now) args with
  | error e =>
    constructor
    · intro given
      cases given
    · intro given
      obtain ⟨_, given, _⟩ := given
      cases given
  | ok sim =>
    constructor
    · intro given
      exact ⟨sim, rfl, (Except.ok.inj given).symm⟩
    · intro given
      obtain ⟨_, same, rfl⟩ := given
      cases same
      rfl

end

end Service

/-! ## what is previewed is kept -/

namespace Service

/-- the creation of a turn adds the record that was previewed, under the identifier it draws -/
def KeepsPreview (s : Service) (c : Catalog) (t : Turn) (b : Bundle) (args : DryRunArguments)
    (preview : DryRunBundle) : Prop :=
  let snapshot := s.store.snapshotOf b t.context.now
  ∃ sim record, SubscriptionBundles.simulate t.context c snapshot args = .ok sim ∧
    sim.synthetic = some record ∧ preview = sim.toBundle b snapshot t.context.now ∧
    let created := record.relabel id (record.id.replace (t.ids 0))
    (s.turn t).1 = .ok (.created [⟨b, Subscription.listing [created] t.context.now⟩]) ∧
      (s.turn t).2.store = { s.store with records := s.store.records ++ [created] }

section
variable (c : Catalog) (max : Nat) (cached : Bool) {turns : List Turn} {t : Turn}
  (distinct : DistinctIds (turns ++ [t])) {b : Bundle}
  (stored : b ∈ ((new c max cached).after turns).store.bundles)
  (own : b.accountId = t.context.accountId) {args : DryRunArguments}
  (starts : args.action = .startBilling) {rename : Bool}
include distinct stored own starts

theorem start_preview_kept {preview : DryRunBundle}
    (given : (((new c max cached).after turns).simulate t.context b.id args).1 = .ok preview)
    (request : t.request = .create [args.specifier b.id false] rename) :
    ((new c max cached).after turns).KeepsPreview c t b args preview := by
  obtain ⟨serves, sound, fresh⟩ := reached c max cached distinct (List.prefix_refl _)
  generalize (new c max cached).after turns = s at *
  obtain ⟨sim, simulated, rfl⟩ := (simulate_eq_ok_iff serves sound stored).1 given
  cases planned : args.plan with
  | none =>
    unfold SubscriptionBundles.simulate simulateStart requiredPlan at simulated
    rw [starts, planned] at simulated
    cases simulated
  | some specifier =>
    obtain ⟨record, started, rfl⟩ := (simulate_start_eq_ok starts planned).1 simulated
    obtain ⟨q, all⟩ := @plannedAll_of_startRecord s t.context c t.ids rename b args specifier
      serves.inOrder sound stored own planned record started
    obtain ⟨ctx, ids, _⟩ := t
    obtain rfl := request
    obtain ⟨answer, left⟩ := create_of_planned serves sound fresh all
    exact ⟨_, record, simulated, rfl, rfl, answer, left.trans (s.store.commit_existing _ b _)⟩

end

end Service

theorem start_preview_kept_laser :
    let s := (Service.new Shop.catalog 255 true).after (Shop.armed none)
    DistinctIds (Shop.armed none ++ [Shop.lasered]) ∧ Shop.holster ∈ s.store.bundles ∧
      ∃ preview, (s.simulate Shop.lasered.context Shop.holster.id Shop.laserStart).1 = .ok preview ∧
        s.KeepsPreview Shop.catalog Shop.lasered Shop.holster Shop.laserStart preview := by
  have held : let s := (Service.new Shop.catalog 255 true).after (Shop.armed none)
      (DistinctIds (Shop.armed none ++ [Shop.lasered]) ∧ Shop.holster ∈ s.store.bundles) ∧
        (s.simulate Shop.lasered.context Shop.holster.id Shop.laserStart).1.isOk = true := by
    decide +kernel
  obtain ⟨⟨distinct, stored⟩, answered⟩ := held
  obtain ⟨preview, given⟩ := exists_of_isOk answered
  exact ⟨distinct, stored, preview, given,
    Service.start_preview_kept Shop.catalog 255 true distinct stored rfl rfl given rfl⟩

/-! ## what has no preview -/

namespace Service

section
variable (c : Catalog) (max : Nat) (cached : Bool) {turns : List Turn} {t : Turn}
  (distinct : DistinctIds (turns ++ [t])) {b : Bundle}
  (stored : b ∈ ((new c max cached).after turns).store.bundles)
  (own : b.accountId = t.context.accountId) {args : DryRunArguments}
  (starts : args.action = .startBilling) {rename migrated : Bool}
include distinct stored own starts

theorem start_preview_given_iff {specifier : PlanSpecifier} (planned : args.plan = some specifier)
    (request : t.request = .create [args.specifier b.id migrated] rename) {a : Answer}
    (created : (((new c max cached).after turns).turn t).1 = .ok a) :
    let s := (new c max cached).after turns
    (∃ preview, (s.simulate t.context b.id args).1 = .ok preview) ↔
      ¬args.Waits c s.store t.context.now b.id := by
  obtain ⟨serves, sound, _⟩ := reached c max cached distinct (List.prefix_refl _)
  have step := reached_step c max cached distinct (List.prefix_refl _)
  generalize (new c max cached).after turns = s at *
  constructor
  · intro given
    obtain ⟨preview, given⟩ := given
    obtain ⟨sim, simulated, _⟩ := (simulate_eq_ok_iff serves sound stored).1 given
    obtain ⟨record, started, _⟩ := (simulate_start_eq_ok starts planned).1 simulated
    obtain ⟨plan, _, found, hs, _⟩ := startRecord_eq_ok.1 started
    exact not_waits_of_started found planned hs
  · intro prompt
    rw [created] at step
    have ends := step.of_ok
    rw [request] at ends
    obtain ⟨bs, q, all, _⟩ := ends
    obtain ⟨record, started⟩ :=
      startRecord_of_plannedAll serves.inOrder sound stored own planned prompt all
    have simulated := (simulate_start_eq_ok starts planned).2 ⟨record, started, rfl⟩
    exact ⟨_, (simulate_eq_ok_iff serves sound stored).2 ⟨_, simulated, rfl⟩⟩

end

end Service

theorem start_preview_given_iff_laser :
    let s := (Service.new Shop.catalog 255 true).after (Shop.armed none)
    DistinctIds (Shop.armed none ++ [Shop.lasered]) ∧ Shop.holster ∈ s.store.bundles ∧
      (∃ a, (s.turn Shop.lasered).1 = .ok a) ∧
      ((∃ preview, (s.simulate Shop.lasered.context Shop.holster.id Shop.laserStart).1 =
          .ok preview) ↔
        ¬Shop.laserStart.Waits Shop.catalog s.store (Shop.midnight 20002) Shop.holster.id) := by
  have held : let s := (Service.new Shop.catalog 255 true).after (Shop.armed none)
      (DistinctIds (Shop.armed none ++ [Shop.lasered]) ∧ Shop.holster ∈ s.store.bundles) ∧
        (s.turn Shop.lasered).1.isOk = true := by decide +kernel
  obtain ⟨⟨distinct, stored⟩, answered⟩ := held
  obtain ⟨a, created⟩ := exists_of_isOk answered
  exact ⟨distinct, stored, ⟨a, created⟩, Service.start_preview_given_iff Shop.catalog 255 true
    distinct stored rfl rfl rfl rfl created⟩

/-- the pistol starts later, the creation of the laser waits for it and its dry run is refused -/
theorem waiting_laser_not_previewed :
    let s := (Service.new Shop.catalog 255 true).after (Shop.armed (some (Shop.midnight 20030).date))
    Shop.holster ∈ s.store.bundles ∧ (s.turn Shop.lasered).1.isOk = true ∧
      (s.simulate Shop.lasered.context Shop.holster.id Shop.laserStart).1 =
        .error (.invalidRequestedDate (Shop.midnight 20002) (Shop.midnight 20030)) := by
  decide +kernel

end SubscriptionBundles
