import SubscriptionBundles.Proofs.PlannedBatches
import SubscriptionBundles.Proofs.Sweeps
import SubscriptionBundles.Service.Request

/-!
# What a call does

A call that is refused leaves the store as it was.  A call that is answered does one of a few
things to it, and each of them can be said in one step.

* `Turn.drawn`                the identifiers a turn may draw;
* `Step`                      how a turn may end, and the store it may leave;
* `Step.of_ok`                the same for an answered turn, request by request;
* `Service.handle_step`       every turn ends so, if its identifiers are fresh.
-/

namespace SubscriptionBundles

/-! ## requests -/

namespace Request

def changes : Request → Bool
  | create _ _ | createBundle _ _ _ | updateExternalKey _ _ | cancel _ _ | updateBillCycleDay _ _ _
  | setChargedThrough _ _ => true
  | _ => false

/-- how many identifiers a request may need -/
def mayDraw : Request → Nat
  | create specifiers _ => (specifiers.map (·.mayDraw)).sum
  | createBundle _ _ _ => 1
  | _ => 0

end Request

def Service.Turn.drawn (t : Service.Turn) : List Uuid := (List.range t.request.mayDraw).map t.ids

open Service (Turn)

/-! ## steps -/

section
variable (s : Service) (c : Catalog) (t : Turn)

/-- how a turn ends, and the store it leaves -/
inductive Step : Except SubscriptionError Answer → Store → Prop
  | refused (e : SubscriptionError) : Step (.error e) s.store
  | read (a : Answer) (reads : t.request.changes = false) : Step (.ok a) s.store
  | created {specifiers : List BundleSpecifier} {rename : Bool} {bs : List PlannedBatch}
      {q : Progress} (request : t.request = .create specifiers rename)
      (planned : PlannedAll s t.context c t.ids rename .start specifiers bs q)
      (takes : s.store.Takes bs) :
      Step (.ok (.created (bs.map (·.answer t.context.now)))) (s.store.commit t.context.now bs)
  | bundleCreated {account : Uuid} {key : Option String} {rename : Bool} {p : PlannedBundle}
      (request : t.request = .createBundle account key rename)
      (planned : planBundle s t.context (t.ids 0) account [] rename key = .ok p)
      (takes : s.store.Takes [⟨.new p, []⟩]) :
      Step (.ok (.bundle p.bundle)) (s.store.commit t.context.now [⟨.new p, []⟩])
  | rekeyed {id : Uuid} {key : String} (request : t.request = .updateExternalKey id key)
      (stored : id ∈ s.store.bundleIds) :
      Step (.ok .done) (s.store.rename t.context.now [(id, key)])
  | continued {events : List TransitionEvent} (a : Answer)
      (request : (∃ ids terms, t.request = .cancel ids terms) ∨
        ∃ id day start, t.request = .updateBillCycleDay id day start)
      (continues : ∀ e ∈ events, e.Continues s.store t.context.now) :
      Step (.ok a) (s.store.append events)
  | charged {id : Uuid} {date : Instant} (request : t.request = .setChargedThrough id date) :
      Step (.ok .done) (s.store.charge id date)

end

section
variable {s : Service} {c : Catalog} {t : Turn} {max : Nat}

/-- what an answered turn leaves, request by request -/
theorem Step.of_ok {a : Answer} {store : Store} (h : Step s c t (.ok a) store) :
    match t.request with
    | .create specifiers rename =>
      ∃ bs q, PlannedAll s t.context c t.ids rename .start specifiers bs q ∧ s.store.Takes bs ∧
        a = .created (bs.map (·.answer t.context.now)) ∧ store = s.store.commit t.context.now bs
    | .createBundle account key rename =>
      ∃ p, planBundle s t.context (t.ids 0) account [] rename key = .ok p ∧
        s.store.Takes [⟨.new p, []⟩] ∧ store = s.store.commit t.context.now [⟨.new p, []⟩]
    | .updateExternalKey id key => store = s.store.rename t.context.now [(id, key)]
    | .cancel _ _ | .updateBillCycleDay _ _ _ =>
      ∃ events : List TransitionEvent, (∀ e ∈ events, e.Continues s.store t.context.now) ∧
        store = s.store.append events
    | .setChargedThrough id date => store = s.store.charge id date
    | _ => store = s.store := by
  cases h with
  | created request planned takes =>
    rw [request]
    exact ⟨_, _, planned, takes, rfl, rfl⟩
  | bundleCreated request planned takes =>
    rw [request]
    exact ⟨_, planned, takes, rfl⟩
  | rekeyed request | charged request => rw [request]
  | continued _ request continues =>
    rcases request with ⟨_, _, request⟩ | ⟨_, _, _, request⟩
    · rw [request]
      exact ⟨_, continues, rfl⟩
    · rw [request]
      exact ⟨_, continues, rfl⟩
  | read _ reads =>
    cases request : t.request with
    | create | createBundle | updateExternalKey | cancel | updateBillCycleDay | setChargedThrough =>
      rw [request] at reads
      cases reads
    | _ => rfl

theorem Step.of_error {e : SubscriptionError} {store : Store} (h : Step s c t (.error e) store) :
    store = s.store := by
  cases h
  rfl

theorem Step.of_reads {α : Type} {o : Outcome α} (f : α → Answer) (reads : t.request.changes = false)
    (same : o.2.store = s.store) : Step s c t (o.map f).1 (o.map f).2.store := by
  obtain ⟨answer, after⟩ := o
  change after.store = s.store at same
  show Step s c t (Except.map f answer) after.store
  rw [same]
  cases answer with
  | error e => exact .refused e
  | ok a => exact .read _ reads

/-- a call whose decision, if there is one, makes a step of the turn -/
theorem step_of_carryOut (h : s.Serves c max) {α : Type} (m : Method) (f : α → Answer)
    {decision : Except SubscriptionError (Decision α)}
    (makes : ∀ d, decision = .ok d → ∃ store,
      (d.effects.filterMap Effect.write?).foldlM Store.apply s.store = .ok store ∧
        ∀ storage : Storage, storage.InOrder → storage.store = store →
          ∃ a, d.answer storage = .ok a ∧ Step s c t (.ok (f a)) store) :
    Step s c t ((s.carryOut m decision).map f).1 ((s.carryOut m decision).map f).2.store ∧
      ((s.carryOut m decision).map f).2.Serves c max := by
  cases decision with
  | error e => exact ⟨.refused e, h.count _⟩
  | ok d =>
    obtain ⟨store, ok, ends⟩ := makes d rfl
    obtain ⟨left, serves, answer⟩ := Service.carryOut_of_ok m h ok
    obtain ⟨a, ha, step⟩ := ends _ serves.inOrder left
    refine ⟨?_, serves⟩
    show Step s c t (Except.map f (s.carryOut m (.ok d)).1) (s.carryOut m (.ok d)).2.storage.store
    rw [left, answer, ha]
    exact step

end

/-! ## operations -/

namespace Service
variable {s : Service} {c : Catalog} {max : Nat} {ctx : Context} {ids : Nat → Uuid}

theorem create_step (h : s.Serves c max) (sound : s.store.Sound) {specifiers : List BundleSpecifier}
    {rename : Bool} (fresh : s.store.Fresh (Turn.mk ctx ids (.create specifiers rename)).drawn) :
    let o := s.handle ctx ids (.create specifiers rename)
    Step s c ⟨ctx, ids, .create specifiers rename⟩ o.1 o.2.store ∧ o.2.Serves c max := by
  refine step_of_carryOut h _ _ ?_
  intro d hd
  rw [h.catalog_eq] at hd
  obtain ⟨_, same, hd⟩ := bind_eq_ok.1 hd
  cases same
  obtain ⟨bs, planned, hd⟩ := bind_eq_ok.1 hd
  cases hd
  obtain ⟨q, all⟩ := (planBatches_eq_ok h.inOrder).1 planned
  have takes := all.takes h.inOrder sound fresh
  refine ⟨s.store.commit ctx.now bs, ?_, ?_⟩
  · show ((bs.flatMap (·.effects ctx.now)).filterMap Effect.write?).foldlM _ _ = _
    rw [PlannedBatch.filterMap_flatMap_effects]
    exact takes.writes
  · intro storage _ _
    exact ⟨_, rfl, .created rfl all takes⟩

/-- a creation whose batches are all let through is answered with them -/
theorem create_of_planned (h : s.Serves c max) (sound : s.store.Sound)
    {specifiers : List BundleSpecifier} {rename : Bool}
    (fresh : s.store.Fresh (Turn.mk ctx ids (.create specifiers rename)).drawn)
    {bs : List PlannedBatch} {q : Progress}
    (all : PlannedAll s ctx c ids rename .start specifiers bs q) :
    let o := s.handle ctx ids (.create specifiers rename)
    o.1 = .ok (.created (bs.map (·.answer ctx.now))) ∧ o.2.store = s.store.commit ctx.now bs := by
  let decision : Decision (List SubscriptionBundle) :=
    ⟨bs.flatMap (·.effects ctx.now), fun _ => .ok (bs.map (·.answer ctx.now))⟩
  have decided : s.create ctx ids specifiers rename =
      s.carryOut .createBaseSubscriptionsWithAddOns (.ok decision) := by
    unfold create
    rw [h.catalog_eq]
    show s.carryOut _ (planBatches s ctx c ids rename .start specifiers >>= _) = _
    rw [(planBatches_eq_ok h.inOrder).2 ⟨q, all⟩]
    rfl
  have writes := @Store.Takes.writes _ ctx.now _ (all.takes h.inOrder sound fresh)
  rw [← PlannedBatch.filterMap_flatMap_effects] at writes
  obtain ⟨left, _, answer⟩ :=
    @carryOut_of_ok c max _ .createBaseSubscriptionsWithAddOns s h decision _ writes
  rw [← decided] at left answer
  refine ⟨?_, left⟩
  show Except.map _ (s.create ctx ids specifiers rename).1 = _
  rw [answer]
  rfl

/-- a new bundle alone is a batch with no records -/
theorem createBundle_step (h : s.Serves c max) (sound : s.store.Sound) {account : Uuid}
    {key : Option String} {rename : Bool}
    (fresh : s.store.Fresh (Turn.mk ctx ids (.createBundle account key rename)).drawn) :
    let o := s.handle ctx ids (.createBundle account key rename)
    Step s c ⟨ctx, ids, .createBundle account key rename⟩ o.1 o.2.store ∧ o.2.Serves c max := by
  refine step_of_carryOut h _ _ ?_
  intro d hd
  obtain ⟨p, planned, hd⟩ := bind_eq_ok.1 hd
  cases hd
  have planned' := (planBundle_eq_ok h.inOrder).1 planned
  have takes : s.store.Takes [⟨.new p, []⟩] := by
    obtain ⟨rfl, _⟩ := planned'
    refine ⟨?_, ?_, ?_, ?_, ?_⟩
    · intro b hb r hr
      rw [List.mem_singleton] at hb
      rw [hb] at hr
      obtain ⟨_, _, _, old, ho, _, _, rfl⟩ := mem_renames.1 hr
      exact List.mem_map_of_mem ho
    · have single : [ids 0].Nodup := by simp
      refine List.nodup_append.2 ⟨sound.bundles, single, ?_⟩
      rintro id stored _ new rfl
      exact fresh.bundles id stored new
    · simpa using sound.records
    · intro b hb old
      rw [List.mem_singleton] at hb
      rw [hb] at old
      cases old
    · intro b hb r hr
      rw [List.mem_singleton] at hb
      rw [hb] at hr
      cases hr
  refine ⟨s.store.commit ctx.now [⟨.new p, []⟩], ?_, ?_⟩
  · have opened := @Store.Takes.opened s.store ctx.now _ _ takes
    show ((p.effects ctx.now).filterMap Effect.write?).foldlM _ _ = _
    unfold PlannedBundle.effects
    rw [List.filterMap_append, PlannedBatch.filterMap_renames]
    refine Eq.trans opened ?_
    simp [Store.commit]
  · intro storage _ _
    exact ⟨_, rfl, .bundleCreated rfl planned takes⟩

theorem updateExternalKey_step (h : s.Serves c max) (sound : s.store.Sound) {id : Uuid}
    {key : String} :
    let o := s.handle ctx ids (.updateExternalKey id key)
    Step s c ⟨ctx, ids, .updateExternalKey id key⟩ o.1 o.2.store ∧ o.2.Serves c max := by
  refine step_of_carryOut h _ _ ?_
  intro d hd
  obtain ⟨_, _, hd⟩ := bind_eq_ok.1 hd
  obtain ⟨b, hb, hd⟩ := bind_eq_ok.1 hd
  cases hd
  have stored : id ∈ s.store.bundleIds :=
    find?_isSome_iff_mem.1 (by rw [← Store.bundle?, (requireBundle_eq_ok h.inOrder).1 hb]; rfl)
  refine ⟨s.store.rename ctx.now [(id, key)], ?_, ?_⟩
  · show (s.store.updateKey id key ctx.now >>= pure) = _
    rw [Store.updateKey_of_stored sound.bundles stored]
    rfl
  · intro storage _ _
    exact ⟨_, rfl, .rekeyed rfl stored⟩

theorem cancel_step (h : s.Serves c max) (sound : s.store.Sound) {cancelled : List Uuid}
    {terms : CancelTerms} :
    let o := s.handle ctx ids (.cancel cancelled terms)
    Step s c ⟨ctx, ids, .cancel cancelled terms⟩ o.1 o.2.store ∧ o.2.Serves c max := by
  refine step_of_carryOut h _ _ ?_
  intro d hd
  rw [h.catalog_eq] at hd
  obtain ⟨_, same, hd⟩ := bind_eq_ok.1 hd
  cases same
  obtain ⟨w, hw, hd⟩ := bind_eq_ok.1 hd
  cases hd
  obtain ⟨continues, known⟩ := sweep_eq_ok h.inOrder (by simp [Sweep.start]) hw
  refine ⟨s.store.append w.events, Sweep.writes sound continues, ?_⟩
  intro storage order left
  have stored : ∀ id ∈ cancelled, id ∈ storage.store.recordIds := by
    intro id hid
    rw [left, Store.recordIds_append]
    exact known id hid
  obtain ⟨l, hl⟩ := subscriptions_of_stored order ctx.now stored
  exact ⟨l, hl, .continued _ (.inl ⟨_, _, rfl⟩) continues⟩

/-- an answered call has decided -/
theorem exists_decision {α : Type} {m : Method} {f : α → Answer}
    {decision : Except SubscriptionError (Decision α)} {a : Answer}
    (ok : ((s.carryOut m decision).map f).1 = .ok a) : ∃ d, decision = .ok d := by
  cases decision with
  | error e => cases ok
  | ok d => exact ⟨d, rfl⟩

/-- a cancellation leaves the events its sweep comes to, and answers with what it leaves -/
theorem cancel_of_swept (h : s.Serves c max) (sound : s.store.Sound) {cancelled : List Uuid}
    {terms : CancelTerms} {w : Sweep}
    (swept : cancelled.foldlM (sweepSubscription s.storage ctx c terms) .start = .ok w) :
    (s.cancel ctx cancelled terms).2.store = s.store.append w.events ∧
      (s.cancel ctx cancelled terms).2.Serves c max ∧
      (s.cancel ctx cancelled terms).1 =
        (s.cancel ctx cancelled terms).2.storage.subscriptions ctx.now cancelled := by
  have decided : s.cancel ctx cancelled terms = s.carryOut .cancelBaseSubscriptions
      (.ok ⟨w.effects, fun storage => storage.subscriptions ctx.now cancelled⟩) := by
    unfold cancel
    rw [h.catalog_eq]
    show s.carryOut _ (cancelled.foldlM (sweepSubscription s.storage ctx c terms) .start >>= _) = _
    rw [swept]
    rfl
  obtain ⟨continues, _⟩ := sweep_eq_ok h.inOrder (by simp [Sweep.start]) swept
  rw [decided]
  exact carryOut_of_ok _ h (Sweep.writes sound continues)

/-- the events of an answered cancellation are those its sweep comes to -/
theorem cancel_of_ok (h : s.Serves c max) (sound : s.store.Sound) {cancelled : List Uuid}
    {terms : CancelTerms} {a : Answer}
    (ok : (s.handle ctx ids (.cancel cancelled terms)).1 = .ok a) :
    ∃ w, cancelled.foldlM (sweepSubscription s.storage ctx c terms) .start = .ok w ∧
      (s.handle ctx ids (.cancel cancelled terms)).2.store = s.store.append w.events := by
  obtain ⟨d, hd⟩ := exists_decision ok
  rw [h.catalog_eq] at hd
  obtain ⟨_, same, hd⟩ := bind_eq_ok.1 hd
  cases same
  obtain ⟨w, hw, _⟩ := bind_eq_ok.1 hd
  exact ⟨w, hw, (cancel_of_swept h sound hw).1⟩

/-- a stored subscription is shown as of the present -/
theorem subscription_of_stored (h : s.Serves c max) (sound : s.store.Sound) {r : SubscriptionRecord}
    (stored : r ∈ s.store.records) (ctx : Context) :
    (s.subscription ctx r.id).1 = .ok (.rebuild r [] ctx.now) := by
  show (s.storage.requireRecord r.id >>= fun r => pure (Subscription.rebuild r [] ctx.now)) = _
  rw [(requireRecord_eq_ok h.inOrder).2 (sound.record?_eq stored)]
  rfl

/-- an event of a stored subscription is accepted -/
theorem accepted_of_own (sound : s.store.Sound) {r : SubscriptionRecord} (stored : r ∈ s.store.records)
    {e : TransitionEvent} (own : e.subscriptionId = r.id) :
    [Write.appendEvents [e]].foldlM Store.apply s.store = .ok (s.store.append [e]) := by
  show (s.store.appendEvents [e] >>= pure) = _
  rw [Store.append_of_stored sound.records]
  · rfl
  · intro f hf
    rw [List.mem_singleton] at hf
    rw [hf, own]
    exact List.mem_map_of_mem stored

theorem updateBillCycleDay_step (h : s.Serves c max) (sound : s.store.Sound) {id : Uuid}
    {day : UInt32} {start : Option Date} :
    let o := s.handle ctx ids (.updateBillCycleDay id day start)
    Step s c ⟨ctx, ids, .updateBillCycleDay id day start⟩ o.1 o.2.store ∧ o.2.Serves c max := by
  refine step_of_carryOut h _ _ ?_
  intro d hd
  obtain ⟨r, hr, hd⟩ := bind_eq_ok.1 hd
  obtain ⟨date, _, hd⟩ := bind_eq_ok.1 hd
  cases hd
  obtain ⟨stored, _⟩ := mem_of_record? ((requireRecord_eq_ok h.inOrder).1 hr)
  refine ⟨_, accepted_of_own sound stored rfl, ?_⟩
  intro storage _ _
  refine ⟨_, rfl, .continued _ (.inr ⟨_, _, _, rfl⟩) ?_⟩
  intro e he
  rw [List.mem_singleton] at he
  rw [he]
  exact ⟨r, stored, rfl, .inl ⟨day, rfl⟩⟩

/-- an answered change of the billing day takes effect on a billing date -/
theorem updateBillCycleDay_eq_ok {id : Uuid} {day : UInt32} {start : Option Date} {date : Instant}
    (ok : (s.updateBillCycleDay ctx id day start).1 = .ok date) :
    ∃ found, nextBillingDate day (start.getD ctx.today) start.isSome = .ok found ∧
      date = match found with
        | .immediate => ctx.now
        | .on d => ctx.instantOf d := by
  obtain ⟨_, _, hd, answer⟩ := carryOut_eq_ok _ ok
  obtain ⟨_, _, hd⟩ := bind_eq_ok.1 hd
  obtain ⟨found, dated, hd⟩ := bind_eq_ok.1 hd
  cases hd
  exact ⟨found, dated, (Except.ok.inj answer).symm⟩

/-- it is one event of the subscription, on that date -/
theorem updateBillCycleDay_writes (h : s.Serves c max) (sound : s.store.Sound) {id : Uuid}
    {day : UInt32} {start : Option Date} {date : Instant}
    (ok : (s.updateBillCycleDay ctx id day start).1 = .ok date) :
    ∃ r ∈ s.store.records, r.id = id ∧
      (s.updateBillCycleDay ctx id day start).2.store = s.store.append
        [(Subscription.rebuild r [] ctx.now).billCycleDayEvent day date ctx.now] ∧
      (s.updateBillCycleDay ctx id day start).2.Serves c max := by
  obtain ⟨d, storage, decided, answer⟩ := carryOut_eq_ok _ ok
  have carried : s.updateBillCycleDay ctx id day start = s.carryOut .updateBillCycleDay (.ok d) :=
    congrArg (s.carryOut _) decided
  obtain ⟨r, hr, decided⟩ := bind_eq_ok.1 decided
  obtain ⟨_, _, decided⟩ := bind_eq_ok.1 decided
  obtain ⟨stored, name⟩ := mem_of_record? ((requireRecord_eq_ok h.inOrder).1 hr)
  refine ⟨r, stored, name, ?_⟩
  have accepted := @accepted_of_own s sound r stored
    ((Subscription.rebuild r [] ctx.now).billCycleDayEvent day date ctx.now) rfl
  have writes : d.effects.filterMap Effect.write? = [.appendEvents
      [(Subscription.rebuild r [] ctx.now).billCycleDayEvent day date ctx.now]] := by
    cases decided
    rw [← Except.ok.inj answer]
    rfl
  rw [← writes] at accepted
  obtain ⟨left, serves, _⟩ := carryOut_of_ok .updateBillCycleDay h accepted
  rw [carried]
  exact ⟨left, serves⟩

/-- an answered change of the billing day is one event of a stored subscription -/
theorem updateBillCycleDay_of_ok (h : s.Serves c max) (sound : s.store.Sound) {id : Uuid}
    {day : UInt32} {start : Option Date} {a : Answer}
    (ok : (s.handle ctx ids (.updateBillCycleDay id day start)).1 = .ok a) :
    ∃ r ∈ s.store.records, ∃ date,
      (s.handle ctx ids (.updateBillCycleDay id day start)).2.store = s.store.append
        [(Subscription.rebuild r [] ctx.now).billCycleDayEvent day date ctx.now] := by
  change Except.map Answer.instant (s.updateBillCycleDay ctx id day start).1 = .ok a at ok
  cases answered : (s.updateBillCycleDay ctx id day start).1 with
  | error e =>
    rw [answered] at ok
    cases ok
  | ok date =>
    obtain ⟨r, stored, _, left, _⟩ := updateBillCycleDay_writes h sound answered
    exact ⟨r, stored, date, left⟩

theorem setChargedThrough_step (h : s.Serves c max) (sound : s.store.Sound) {id : Uuid}
    {date : Instant} :
    let o := s.handle ctx ids (.setChargedThrough id date)
    Step s c ⟨ctx, ids, .setChargedThrough id date⟩ o.1 o.2.store ∧ o.2.Serves c max := by
  refine step_of_carryOut h _ _ ?_
  intro d hd
  obtain ⟨r, hr, hd⟩ := bind_eq_ok.1 hd
  cases hd
  have stored := mem_recordIds_of_record? ((requireRecord_eq_ok h.inOrder).1 hr)
  refine ⟨s.store.charge id date, ?_, ?_⟩
  · show (s.store.setChargedThrough id date >>= pure) = _
    rw [Store.setChargedThrough_of_stored sound.records stored]
    rfl
  · intro storage _ _
    exact ⟨_, rfl, .charged rfl⟩

theorem simulate_step (h : s.Serves c max) {bundle : Uuid} {args : DryRunArguments} :
    let o := s.handle ctx ids (.simulate bundle args)
    Step s c ⟨ctx, ids, .simulate bundle args⟩ o.1 o.2.store ∧ o.2.Serves c max := by
  refine step_of_carryOut h _ _ ?_
  intro d hd
  obtain ⟨_, _, hd⟩ := bind_eq_ok.1 hd
  obtain ⟨_, _, hd⟩ := bind_eq_ok.1 hd
  obtain ⟨_, _, hd⟩ := bind_eq_ok.1 hd
  obtain ⟨_, _, hd⟩ := bind_eq_ok.1 hd
  cases hd
  refine ⟨s.store, rfl, ?_⟩
  intro storage _ _
  exact ⟨_, rfl, .read _ rfl⟩

/-- an identity lookup teaches the cache at most -/
theorem requireIdentity_spec (h : s.Serves c max) (lookup : Lookup) (id : Uuid)
    (missing : SubscriptionError) :
    (s.requireIdentity lookup id missing).2.store = s.store ∧
      (s.requireIdentity lookup id missing).2.Serves c max := by
  unfold requireIdentity
  have looked : (s.identify lookup id).2.store = s.store ∧ (s.identify lookup id).2.Serves c max :=
    ⟨rfl, ⟨h.catalogs, h.inOrder, h.keys⟩⟩
  generalize s.identify lookup id = found at looked
  obtain ⟨value, after⟩ := found
  cases value with
  | none => exact looked
  | some _ => exact looked

theorem accountOfSubscription_spec (h : s.Serves c max) (id : Uuid) :
    (s.accountOfSubscription id).2.store = s.store ∧
      (s.accountOfSubscription id).2.Serves c max := by
  unfold accountOfSubscription
  have looked := requireIdentity_spec h .subscriptionToBundle id (.noBundleForSubscription id)
  generalize s.requireIdentity .subscriptionToBundle id (.noBundleForSubscription id) = o at looked
  obtain ⟨found, after⟩ := o
  obtain ⟨same, serves⟩ := looked
  cases found with
  | error _ => exact ⟨same, serves.count _⟩
  | ok bundle =>
    obtain ⟨same', serves'⟩ :=
      requireIdentity_spec serves .bundleToAccount bundle (.invalidBundleId bundle)
    exact ⟨same'.trans same, serves'.count _⟩

end Service

/-! ## every turn -/

/-- a turn ends as a step does -/
theorem Service.handle_step {s : Service} {c : Catalog} {max : Nat} (h : s.Serves c max)
    (sound : s.store.Sound) (t : Turn) (fresh : s.store.Fresh t.drawn) :
    Step s c t (s.handle t.context t.ids t.request).1 (s.handle t.context t.ids t.request).2.store ∧
      (s.handle t.context t.ids t.request).2.Serves c max := by
  obtain ⟨ctx, ids, request⟩ := t
  cases request with
  | create _ _ => exact create_step h sound fresh
  | createBundle _ _ _ => exact createBundle_step h sound fresh
  | updateExternalKey _ _ => exact updateExternalKey_step h sound
  | cancel _ _ => exact cancel_step h sound
  | updateBillCycleDay _ _ _ => exact updateBillCycleDay_step h sound
  | setChargedThrough _ _ => exact setChargedThrough_step h sound
  | simulate _ _ => exact simulate_step h
  | accountOfBundle id =>
    obtain ⟨same, serves⟩ := requireIdentity_spec h .bundleToAccount id (.invalidBundleId id)
    exact ⟨.of_reads .id rfl same, serves.count _⟩
  | bundleOfSubscription id =>
    obtain ⟨same, serves⟩ :=
      requireIdentity_spec h .subscriptionToBundle id (.noBundleForSubscription id)
    exact ⟨.of_reads .id rfl same, serves.count _⟩
  | accountOfSubscription id =>
    obtain ⟨same, serves⟩ := accountOfSubscription_spec h id
    exact ⟨.of_reads .id rfl same, serves⟩
  | _ => exact ⟨.of_reads _ rfl rfl, h.count _⟩

end SubscriptionBundles
