import Mathlib.Data.List.Induction
import Mathlib.Data.List.Perm.Basic
import SubscriptionBundles.Proofs.HeededEvents
import SubscriptionBundles.Proofs.LeftAlone
import SubscriptionBundles.Proofs.Orphans

/-!
# The events of a preview

A preview tells the events of the simulation from the stored ones by subscription, date and kind.
Where no stored event has the date and the kind of a simulated one, it reports each simulated event
once that a timeline takes a step for, and nothing else.

* `Uuid.version_named`               the identifier of a name is never taken for a random one;
* `Simulation.reported`              the steps that a preview reports;
* `Simulation.ignoredIn`             the simulated events that a timeline ignores;
* `Simulation.Apart`                 no stored event looks like a simulated one;
* `Simulation.About`                 the one subscription that a simulation has events for;
* `simulate_about`                   there is always one;
* `About.reported_perm`              what is reported and what is ignored is what was simulated;
* `Service.simulated_events_exact`   a preview after any run.
-/

namespace SubscriptionBundles

open Service (Turn)

/-! ## the identifiers of names -/

theorem ofBigEndian_lt (bytes : List UInt8) : ofBigEndian bytes < 256 ^ bytes.length := by
  induction bytes using List.reverseRecOn with
  | nil => exact Nat.one_pos
  | append_singleton bytes b ih =>
    have last := b.toNat_lt
    unfold ofBigEndian at ih ⊢
    rw [List.foldl_append, List.length_append, List.length_singleton, Nat.pow_succ]
    show 256 * _ + b.toNat < _
    omega

theorem bigEndian_ofBigEndian (bytes : List UInt8) :
    bigEndian bytes.length (ofBigEndian bytes) = bytes := by
  induction bytes using List.reverseRecOn with
  | nil => rfl
  | append_singleton bytes b ih =>
    have last := b.toNat_lt
    have value : ofBigEndian (bytes ++ [b]) = 256 * ofBigEndian bytes + b.toNat := by
      unfold ofBigEndian
      rw [List.foldl_append]
      rfl
    rw [List.length_append, List.length_singleton, bigEndian, value,
      show (256 * ofBigEndian bytes + b.toNat) / 256 = ofBigEndian bytes by omega, ih]
    congr 2
    refine UInt8.toNat_inj.1 ?_
    rw [UInt8.toNat_ofNat']
    omega

namespace Uuid

/-- the high half of the seventh byte -/
def version (u : Uuid) : Nat := (u.bytes.getD 6 0).toNat / 16

theorem bytes_ofBytes {bytes : List UInt8} (whole : bytes.length = 16) :
    (ofBytes bytes).bytes = bytes := by
  have lt := ofBigEndian_lt bytes
  rw [whole] at lt
  have value : (ofBytes bytes).bits.toNat = ofBigEndian bytes := by
    show (BitVec.ofNat 128 _).toNat = _
    rw [BitVec.toNat_ofNat]
    exact Nat.mod_eq_of_lt lt
  unfold Uuid.bytes
  rw [value, ← whole]
  exact bigEndian_ofBigEndian bytes

theorem stamped_version (b : UInt8) : ((b &&& 0x0F) ||| 0x50).toNat / 16 = 5 := by
  show _ / 2 ^ 4 = 5
  rw [← Nat.shiftRight_eq_div_pow, UInt8.toNat_or, UInt8.toNat_and, Nat.shiftRight_or_distrib,
    Nat.shiftRight_and_distrib]
  show (b.toNat >>> 4 &&& 0) ||| 5 = 5
  rw [Nat.and_zero]
  rfl

theorem version_named (space : Uuid) (name : String) : (named space name).version = 5 := by
  unfold named version
  generalize hashed : (Sha1.hash (space.bytes ++ name.toUTF8.toList)).take 16 = bytes
  have whole : bytes.length = 16 := by
    rw [← hashed, List.length_take, Sha1.hash_length]
    rfl
  have stamped : (stamp bytes).length = 16 := by
    unfold stamp
    rw [List.length_modify, List.length_modify, whole]
  have seventh : (stamp bytes).getD 6 0 = (bytes[6] &&& 0x0F) ||| 0x50 := by
    unfold stamp
    simp [whole]
  rw [bytes_ofBytes stamped, seventh]
  exact stamped_version _

end Uuid

/-! ## what is reported -/

namespace Simulation
variable {sim : Simulation}

theorem produced_iff {id : Uuid} {date : Instant} {kind : EventKind} :
    sim.produced id date kind = true ↔
      ∃ e ∈ sim.events, e.subscriptionId = id ∧ e.effectiveDate = date ∧ e.kind = kind := by
  unfold produced
  simp only [List.any_eq_true, Bool.and_eq_true, beq_iff_eq, and_assoc]

/-- the steps that are told to be of the simulation, each with its subscription -/
def reported (sim : Simulation) (views : List SimulatedSubscription) :
    List (Subscription × Transition) :=
  views.flatMap fun v => (v.subscription.transitions.filter fun t =>
    sim.produced v.subscription.id t.event.effectiveDate t.event.kind).map (v.subscription, ·)

theorem map_reported (views : List SimulatedSubscription) :
    (sim.reported views).map (fun p => p.1.projectOne p.2) =
      views.flatMap fun v => sim.projectedEvents v.subscription := by
  unfold reported
  rw [List.map_flatMap]
  refine List.flatMap_congr fun v _ => ?_
  rw [List.map_map]
  rfl

theorem mem_reported {views : List SimulatedSubscription} {p : Subscription × Transition} :
    p ∈ sim.reported views ↔ p.1 ∈ views.map (·.subscription) ∧ p.2 ∈ p.1.transitions ∧
      sim.produced p.1.id p.2.event.effectiveDate p.2.event.kind = true := by
  unfold reported
  simp only [List.mem_flatMap, List.mem_map, List.mem_filter]
  constructor
  · intro given
    obtain ⟨v, hv, t, kept, rfl⟩ := given
    exact ⟨⟨v, hv, rfl⟩, kept⟩
  · intro given
    obtain ⟨⟨v, hv, same⟩, kept⟩ := given
    exact ⟨v, hv, p.2, same ▸ kept, by rw [same]⟩

/-- the simulated events that the timeline of a subscription ignores -/
def ignoredIn (sim : Simulation) (v : Subscription) : List TransitionEvent :=
  v.ignored.filter (· ∈ sim.events)

/-- no stored event has the date and the kind of one that is simulated for its subscription -/
def Apart (sim : Simulation) (records : List SubscriptionRecord) : Prop :=
  ∀ r ∈ records, ∀ e ∈ r.events, sim.produced r.id e.effectiveDate e.kind = false

instance (sim : Simulation) (records : List SubscriptionRecord) : Decidable (sim.Apart records) :=
  inferInstanceAs (Decidable (∀ r ∈ records, ∀ e ∈ r.events, _))

section
variable {s : Store} {b : Bundle} {now : Instant} {v : SimulatedSubscription}

theorem mem_materialize :
    v ∈ sim.materialize (s.snapshotOf b now) now ↔
      (∃ r ∈ s.recordsForBundle b.id, v = ⟨.rebuild r sim.events now, false⟩) ∨
        ∃ r, sim.synthetic = some r ∧ v = ⟨.rebuild r [] now, true⟩ := by
  unfold materialize Store.snapshotOf
  rw [Snapshot.records_take]
  simp only [List.mem_append, List.mem_map, Option.mem_toList, eq_comm]

/-- steps and ignored events are the events of a subscription as it would look -/
theorem transitions_ignored (hv : v ∈ sim.materialize (s.snapshotOf b now) now) :
    (v.subscription.transitions.map (·.event) ++ v.subscription.ignored).Perm
      v.subscription.events := by
  rcases mem_materialize.1 hv with ⟨r, _, rfl⟩ | ⟨r, _, rfl⟩
  · exact Subscription.transitions_ignored r _ now
  · exact Subscription.transitions_ignored r _ now

end

/-- the events of a simulation are for one subscription, of the bundle or started in it -/
inductive About (sim : Simulation) (s : Store) (bundleId : Uuid) : Prop
  | stored {r : SubscriptionRecord} (member : r ∈ s.recordsForBundle bundleId)
      (alone : sim.synthetic = none) (mine : ∀ e ∈ sim.events, e.subscriptionId = r.id)
  | new {r : SubscriptionRecord} (others : ∀ q ∈ s.records, q.id ≠ r.id)
      (started : sim.synthetic = some r) (whole : r.events = sim.events)
      (mine : ∀ e ∈ sim.events, e.subscriptionId = r.id)

end Simulation

/-! ## what is simulated -/

theorem filter_of_subscription {es : List TransitionEvent} {id : Uuid}
    (mine : ∀ e ∈ es, e.subscriptionId = id) (other : Uuid) :
    es.filter (·.subscriptionId = other) = if other = id then es else [] := by
  by_cases same : other = id
  · rw [if_pos same, List.filter_eq_self]
    intro e he
    exact decide_eq_true ((mine e he).trans same.symm)
  · rw [if_neg same, List.filter_eq_nil_iff]
    intro e he named
    exact same ((of_decide_eq_true named).symm.trans (mine e he))

/-- events of one subscription are given out to it, if it is among others -/
theorem flatMap_filter_subscription {es : List TransitionEvent} {id : Uuid}
    (mine : ∀ e ∈ es, e.subscriptionId = id) {ids : List Uuid} (distinct : ids.Nodup) :
    (ids.flatMap fun other => es.filter (·.subscriptionId = other)) = if id ∈ ids then es else [] := by
  induction ids with
  | nil => rfl
  | cons other rest ih =>
    obtain ⟨first, distinct⟩ := List.nodup_cons.1 distinct
    rw [List.flatMap_cons, ih distinct, filter_of_subscription mine]
    by_cases same : other = id
    · subst same
      rw [if_pos rfl, if_neg first, if_pos List.mem_cons_self, List.append_nil]
    · rw [if_neg same, List.nil_append]
      simp [Ne.symm same]

/-- beside the events of a record, those of others are told by their subscription -/
theorem Subscription.filter_rebuild_events {r : SubscriptionRecord} {es : List TransitionEvent}
    (fresh : ∀ e ∈ r.events, e ∉ es) (now : Instant) :
    ((rebuild r es now).events.filter (· ∈ es)).Perm (es.filter (·.subscriptionId = r.id)) := by
  have old : r.events.filter (· ∈ es) = [] := by
    rw [List.filter_eq_nil_iff]
    intro e he
    simpa using fresh e he
  have added : (es.filter (·.subscriptionId = r.id)).filter (· ∈ es) =
      es.filter (·.subscriptionId = r.id) := by
    rw [List.filter_eq_self]
    intro e he
    simpa using (List.mem_filter.1 he).1
  show ((timeline (r.events ++ _)).filter _).Perm _
  refine ((timeline_perm _).filter _).trans ?_
  rw [List.filter_append, old, added]
  exact .refl _

namespace Simulation.About
variable {sim : Simulation} {s : Store} {b : Bundle} (about : sim.About s b.id) (now : Instant)
include about

/-- each simulated event is in the timeline of its subscription -/
theorem mem_events {e : TransitionEvent} (he : e ∈ sim.events) :
    ∃ v ∈ sim.materialize (s.snapshotOf b now) now, v.subscription.id = e.subscriptionId ∧
      e ∈ v.subscription.events := by
  cases about with
  | stored member alone mine =>
    exact ⟨_, mem_materialize.2 (.inl ⟨_, member, rfl⟩), (mine e he).symm,
      (Subscription.mem_rebuild_events _ _ _).2 (.inr ⟨he, mine e he⟩)⟩
  | new others started whole mine =>
    exact ⟨_, mem_materialize.2 (.inr ⟨_, started, rfl⟩), (mine e he).symm,
      SubscriptionRecord.mem_events_rebuild.2 (whole ▸ he)⟩

/-- a simulated event is reported or ignored -/
theorem reported_or_ignored {e : TransitionEvent} (he : e ∈ sim.events) :
    (∃ p ∈ sim.reported (sim.materialize (s.snapshotOf b now) now), p.2.event = e) ∨
      ∃ v ∈ sim.materialize (s.snapshotOf b now) now, e ∈ sim.ignoredIn v.subscription := by
  obtain ⟨v, hv, own, here⟩ := about.mem_events now he
  rcases List.mem_append.1 ((transitions_ignored hv).mem_iff.2 here) with step | ignored
  · obtain ⟨t, ht, rfl⟩ := List.mem_map.1 step
    refine .inl ⟨(v.subscription, t), mem_reported.2 ⟨List.mem_map_of_mem hv, ht, ?_⟩, rfl⟩
    exact produced_iff.2 ⟨_, he, own.symm, rfl, rfl⟩
  · exact .inr ⟨v, hv, List.mem_filter.2 ⟨ignored, by simpa using he⟩⟩

/-- what stands in a timeline is stored or simulated -/
theorem stored_or_simulated {v : SimulatedSubscription}
    (hv : v ∈ sim.materialize (s.snapshotOf b now) now) {e : TransitionEvent}
    (he : e ∈ v.subscription.events) :
    (∃ r ∈ s.recordsForBundle b.id, r.id = v.subscription.id ∧ e ∈ r.events) ∨
      e ∈ sim.events ∧ e.subscriptionId = v.subscription.id := by
  rcases mem_materialize.1 hv with ⟨r, hr, rfl⟩ | ⟨r, synthetic, rfl⟩
  · exact ((Subscription.mem_rebuild_events _ _ _).1 he).imp (fun here => ⟨r, hr, rfl, here⟩) id
  · cases about with
    | stored member alone mine =>
      rw [alone] at synthetic
      cases synthetic
    | new others started whole mine =>
      cases started.symm.trans synthetic
      have simulated : e ∈ sim.events := whole ▸ SubscriptionRecord.mem_events_rebuild.1 he
      exact .inr ⟨simulated, mine e simulated⟩

variable (sound : s.Sound) (own : ∀ r ∈ s.records, ∀ e ∈ r.events, e.subscriptionId = r.id)
  (apart : sim.Apart (s.recordsForBundle b.id))
include sound own apart

/-- no stored event is simulated -/
theorem fresh {r : SubscriptionRecord} (hr : r ∈ s.records) : ∀ e ∈ r.events, e ∉ sim.events := by
  intro e he simulated
  have named := own r hr e he
  have within : r ∈ s.recordsForBundle b.id := by
    cases about with
    | stored member alone mine =>
      have same := named.symm.trans (mine e simulated)
      rwa [sound.record_eq hr (List.mem_filter.1 member).1 same]
    | new others started whole mine =>
      exact absurd (named.symm.trans (mine e simulated)) (others r hr)
  have looks := produced_iff.2 ⟨e, simulated, named, rfl, rfl⟩
  rw [apart r within e he] at looks
  cases looks

/-- subscription, date and kind tell the simulated events from the stored ones -/
theorem produced_eq {v : SimulatedSubscription}
    (hv : v ∈ sim.materialize (s.snapshotOf b now) now) {e : TransitionEvent}
    (he : e ∈ v.subscription.events) :
    sim.produced v.subscription.id e.effectiveDate e.kind = decide (e ∈ sim.events) := by
  rw [Bool.eq_iff_iff, decide_eq_true_eq]
  rcases about.stored_or_simulated now hv he with ⟨r, hr, same, stored⟩ | ⟨simulated, mine⟩
  · have looks := apart r hr e stored
    rw [same] at looks
    have fresh := about.fresh sound own apart (List.mem_filter.1 hr).1 e stored
    exact iff_of_false (ne_true_of_eq_false looks) fresh
  · exact iff_of_true (produced_iff.2 ⟨e, simulated, mine, rfl, rfl⟩) simulated

/-- the simulated events, subscription by subscription -/
theorem filter_events_perm :
    ((sim.materialize (s.snapshotOf b now) now).flatMap fun v =>
      v.subscription.events.filter (· ∈ sim.events)).Perm sim.events := by
  have parts : ((s.recordsForBundle b.id).flatMap fun r =>
        (Subscription.rebuild r sim.events now).events.filter (· ∈ sim.events)).Perm
      (((s.recordsForBundle b.id).map (·.id)).flatMap fun id =>
        sim.events.filter (·.subscriptionId = id)) := by
    rw [List.flatMap_map]
    refine .flatMap_left _ fun r hr => Subscription.filter_rebuild_events ?_ now
    exact about.fresh sound own apart (List.mem_filter.1 hr).1
  unfold materialize Store.snapshotOf
  rw [Snapshot.records_take, List.flatMap_append, List.flatMap_map, List.flatMap_map]
  refine (parts.append_right _).trans ?_
  have distinct : ((s.recordsForBundle b.id).map (·.id)).Nodup :=
    sound.records.sublist (List.filter_sublist.map _)
  cases about with
  | @stored r member alone mine =>
    rw [flatMap_filter_subscription mine distinct, if_pos (List.mem_map_of_mem member), alone]
    exact .of_eq (List.append_nil sim.events)
  | @new r others started whole mine =>
    have apart : r.id ∉ (s.recordsForBundle b.id).map (·.id) := by
      intro among
      obtain ⟨q, hq, same⟩ := List.mem_map.1 among
      exact others q (List.mem_filter.1 hq).1 same
    have all : (Subscription.rebuild r [] now).events.filter (· ∈ sim.events) =
        (Subscription.rebuild r [] now).events :=
      List.filter_eq_self.2 fun e he =>
        decide_eq_true (whole ▸ SubscriptionRecord.mem_events_rebuild.1 he)
    rw [flatMap_filter_subscription mine distinct, if_neg apart, started, Option.toList_some,
      List.flatMap_singleton, List.nil_append, all]
    refine (timeline_perm _).trans ?_
    rw [List.filter_nil, List.append_nil, whole]

/-- what is reported and what is ignored are the simulated events -/
theorem reported_perm {views : List SimulatedSubscription}
    (shown : views.Perm (sim.materialize (s.snapshotOf b now) now)) :
    ((sim.reported views).map (·.2.event) ++
      views.flatMap fun v => sim.ignoredIn v.subscription).Perm sim.events := by
  have reported : (sim.reported views).map (·.2.event) = views.flatMap fun v =>
      (v.subscription.transitions.filter fun t =>
        sim.produced v.subscription.id t.event.effectiveDate t.event.kind).map (·.event) := by
    unfold Simulation.reported
    rw [List.map_flatMap]
    refine List.flatMap_congr fun v _ => ?_
    rw [List.map_map]
    rfl
  have part : ∀ v ∈ views, ((v.subscription.transitions.filter fun t =>
        sim.produced v.subscription.id t.event.effectiveDate t.event.kind).map (·.event) ++
      sim.ignoredIn v.subscription).Perm (v.subscription.events.filter (· ∈ sim.events)) := by
    intro v hv
    have here := shown.mem_iff.1 hv
    have steps := transitions_ignored here
    have told : (v.subscription.transitions.filter fun t =>
          sim.produced v.subscription.id t.event.effectiveDate t.event.kind) =
        v.subscription.transitions.filter fun t => decide (t.event ∈ sim.events) := by
      refine List.filter_congr fun t ht => about.produced_eq now sound own apart here ?_
      exact steps.subset (List.mem_append_left _ (List.mem_map_of_mem ht))
    have kept := steps.filter (· ∈ sim.events)
    rw [List.filter_append, List.filter_map] at kept
    rw [told]
    exact kept
  rw [reported]
  refine (List.flatMap_append_perm _ _ _).trans ?_
  exact (List.Perm.flatMap shown part).trans (about.filter_events_perm now sound own apart)

end Simulation.About

/-! ## what a simulation is about -/

/-- a change and a stop have events for the subscription that they ask for -/
theorem simulate_requires {ctx : Context} {c : Catalog} {snapshot : Snapshot} {args : DryRunArguments}
    {sim : Simulation} (goesOn : args.action ≠ .startBilling)
    (h : simulate ctx c snapshot args = .ok sim) :
    sim.synthetic = none ∧ ∃ found ∈ snapshot.subscriptions,
      ∀ e ∈ sim.events, e.subscriptionId = found.id := by
  obtain ⟨_, _, aims, begins⟩ := simulate_aimsAt h
  cases aims with
  | start action _ => exact absurd action goesOn
  | change _ alone _ found _ | stop _ alone _ found _ =>
    obtain ⟨within, same⟩ := Snapshot.of_find? found
    exact ⟨alone, _, within, fun e he => (begins.own e he).trans same.symm⟩

/-- a stored subscription is changed or stopped, or one is started under the identifier of a name -/
theorem simulate_about {s : Store} (random : ∀ id ∈ s.recordIds, id.version ≠ 5) {c : Catalog}
    {b : Bundle} {ctx : Context} {args : DryRunArguments} {sim : Simulation}
    (h : simulate ctx c (s.snapshotOf b ctx.now) args = .ok sim) :
    sim.About s b.id := by
  by_cases starts : args.action = .startBilling
  · cases given : args.plan with
    | none =>
      unfold simulate simulateStart requiredPlan at h
      rw [starts, given] at h
      cases h
    | some specifier =>
      obtain ⟨r, started, rfl⟩ := (simulate_start_eq_ok starts given).1 h
      obtain ⟨plan, _, _, _, _, made⟩ := startRecord_eq_ok.1 started
      have follows := NewSubscription.record_follows made rfl
      obtain ⟨_, _, _, rfl⟩ := NewSubscription.record_eq_ok made
      refine .new ?_ rfl rfl follows.own
      intro q hq same
      refine random q.id (List.mem_map_of_mem hq) ?_
      rw [same]
      exact Uuid.version_named _ _
  · obtain ⟨alone, found, within, own⟩ := simulate_requires starts h
    unfold Store.snapshotOf at within
    rw [Snapshot.subscriptions_take] at within
    obtain ⟨r, hr, rfl⟩ := List.mem_map.1 within
    exact .stored hr alone own

/-! ## previews -/

/-- the steps that are reported of a simulation -/
structure DryRunBundle.Reports (preview : DryRunBundle) (sim : Simulation) (s : Store)
    (reported : List (Subscription × Transition)) : Prop where
  listed : preview.simulatedEvents = reported.map fun p => p.1.projectOne p.2
  steps : ∀ p ∈ reported, p.1 ∈ preview.subscriptions.map (·.subscription) ∧
    p.2 ∈ p.1.transitions ∧ p.2.event.subscriptionId = p.1.id
  /-- each simulated event is reported or ignored -/
  accounted : ∀ e ∈ sim.events, (∃ p ∈ reported, p.2.event = e) ∨
    ∃ v ∈ preview.subscriptions, e ∈ sim.ignoredIn v.subscription
  /-- exactly once, and nothing else is reported -/
  once : sim.Apart (s.recordsForBundle preview.bundle.id) →
    (reported.map (·.2.event) ++
      preview.subscriptions.flatMap fun v => sim.ignoredIn v.subscription).Perm sim.events
  /-- nothing that is stored is reported -/
  fresh : sim.Apart (s.recordsForBundle preview.bundle.id) →
    ∀ p ∈ reported, ∀ r ∈ s.records, p.2.event ∉ r.events

theorem Service.Shows.reports {s : Service} {c : Catalog} {ctx : Context} {args : DryRunArguments}
    {b : Bundle} {sim : Simulation} {preview : DryRunBundle} (shows : s.Shows c ctx args b sim preview)
    (sound : s.store.Sound) (own : ∀ r ∈ s.store.records, ∀ e ∈ r.events, e.subscriptionId = r.id)
    (about : sim.About s.store b.id) :
    preview.Reports sim s.store (sim.reported preview.subscriptions) := by
  obtain ⟨_, _, rfl⟩ := shows
  have shown : (sim.listing (s.store.snapshotOf b ctx.now) ctx.now).Perm
      (sim.materialize (s.store.snapshotOf b ctx.now) ctx.now) := stableSort_perm _ _
  refine ⟨(Simulation.map_reported _).symm, ?_, ?_, ?_, ?_⟩
  · intro p hp
    obtain ⟨within, step, _⟩ := Simulation.mem_reported.1 hp
    obtain ⟨v, hv, same⟩ := List.mem_map.1 within
    have here := shown.mem_iff.1 hv
    refine ⟨within, step, ?_⟩
    rw [← same] at step ⊢
    have event := (Simulation.transitions_ignored here).subset
      (List.mem_append_left _ (List.mem_map_of_mem step))
    rcases about.stored_or_simulated ctx.now here event with ⟨r, hr, named, stored⟩ | ⟨_, mine⟩
    · rw [← named]
      exact own r (List.mem_filter.1 hr).1 _ stored
    · exact mine
  · intro e he
    rcases about.reported_or_ignored ctx.now he with ⟨p, hp, same⟩ | ⟨v, hv, ignored⟩
    · obtain ⟨within, step⟩ := Simulation.mem_reported.1 hp
      refine .inl ⟨p, Simulation.mem_reported.2 ⟨?_, step⟩, same⟩
      exact (shown.map (·.subscription)).mem_iff.2 within
    · exact .inr ⟨v, shown.mem_iff.2 hv, ignored⟩
  · exact fun apart => about.reported_perm ctx.now sound own apart shown
  · intro apart p hp r hr here
    have whole := about.reported_perm ctx.now sound own apart shown
    have simulated := whole.subset (List.mem_append_left _ (List.mem_map_of_mem hp))
    exact about.fresh sound own apart hr _ here simulated

/-! ## every run -/

namespace Service
variable (c : Catalog) (max : Nat) (cached : Bool) {turns : List Turn} {ctx : Context}
  {bundleId : Uuid} {args : DryRunArguments}

theorem simulate_eq_ok {s : Service} (h : s.Serves c max) (sound : s.store.Sound)
    {preview : DryRunBundle} (given : (s.simulate ctx bundleId args).1 = .ok preview) :
    ∃ b sim, b.id = bundleId ∧ s.Shows c ctx args b sim preview := by
  cases found : s.storage.requireBundle bundleId with
  | error e =>
    unfold simulate at given
    rw [found] at given
    cases given
  | ok b =>
    have here := (requireBundle_eq_ok h.inOrder).1 found
    have stored : b ∈ s.store.bundles := List.mem_of_find?_eq_some here
    obtain rfl : b.id = bundleId := by simpa using List.find?_some here
    obtain ⟨sim, simulated, shown⟩ := (simulate_eq_ok_iff h sound stored).1 given
    exact ⟨b, sim, rfl, stored, simulated, shown⟩

/-- what a preview reports is what is simulated, apart from what the timelines ignore -/
theorem simulated_events_exact (distinct : DistinctIds turns)
    (random : ∀ id ∈ turns.flatMap Turn.drawn, id.version ≠ 5) {preview : DryRunBundle}
    (given : (((new c max cached).after turns).simulate ctx bundleId args).1 = .ok preview) :
    let s := (new c max cached).after turns
    ∃ b sim reported, b.id = bundleId ∧ s.Shows c ctx args b sim preview ∧
      preview.Reports sim s.store reported := by
  obtain ⟨serves, sound, _, drawn⟩ := run_sound c max cached distinct
  have on := run_onPlans c max cached distinct
  generalize (new c max cached).after turns = s at *
  obtain ⟨b, sim, named, shows⟩ := simulate_eq_ok c max serves sound given
  have about := simulate_about (fun id hid => random id (drawn id hid)) shows.simulated
  have own : ∀ r ∈ s.store.records, ∀ e ∈ r.events, e.subscriptionId = r.id := by
    intro r hr
    obtain ⟨_, _, _, follows⟩ := on r hr
    exact follows.own
  exact ⟨b, sim, _, named, shows, shows.reports sound own about⟩

end Service

/-! ## a pistol that ends -/

namespace Shop

/-- the pistol that ends on day 20030 is stopped on another day -/
def stopPistolOn (day : Nat) : DryRunArguments :=
  (DryRunArguments.stopBilling (.ofNat 1001)).withEffectiveDate (midnight day).date

end Shop

theorem simulated_events_exact_earlier :
    let s := (Service.new Shop.catalog 255 true).after Shop.disarmed
    DistinctIds Shop.disarmed ∧ (∀ id ∈ Shop.disarmed.flatMap Turn.drawn, id.version ≠ 5) ∧
      ∃ preview, (s.simulate Shop.fourthDay (.ofNat 1000) (Shop.stopPistolOn 20020)).1 = .ok preview ∧
        preview.simulatedEvents ≠ [] ∧
        ∃ b sim reported, b.id = .ofNat 1000 ∧
          s.Shows Shop.catalog Shop.fourthDay (Shop.stopPistolOn 20020) b sim preview ∧
          preview.Reports sim s.store reported ∧ sim.Apart (s.store.recordsForBundle b.id) := by
  have distinct : DistinctIds Shop.disarmed := by decide +kernel
  have random : ∀ id ∈ Shop.disarmed.flatMap Turn.drawn, id.version ≠ 5 := by decide +kernel
  have held : let s := (Service.new Shop.catalog 255 true).after Shop.disarmed
      (∃ preview ∈ (s.simulate Shop.fourthDay (.ofNat 1000) (Shop.stopPistolOn 20020)).1.toOption,
        preview.simulatedEvents ≠ []) ∧
      ∀ b ∈ s.store.bundles, ∀ sim ∈ (simulate Shop.fourthDay Shop.catalog
        (s.store.snapshotOf b Shop.fourthDay.now) (Shop.stopPistolOn 20020)).toOption,
          sim.Apart (s.store.recordsForBundle b.id) := by decide +kernel
  obtain ⟨⟨preview, answer, some_⟩, apart⟩ := held
  have given := mem_toOption.1 answer
  obtain ⟨b, sim, reported, named, shows, reports⟩ :=
    Service.simulated_events_exact Shop.catalog 255 true distinct random given
  exact ⟨distinct, random, preview, given, some_, b, sim, reported, named, shows, reports,
    apart b shows.stored sim (mem_toOption.2 shows.simulated)⟩

/-- the pistol has ended before it is stopped, so the simulated stop is not reported -/
theorem later_stop_not_reported :
    let s := (Service.new Shop.catalog 255 true).after Shop.disarmed
    DistinctIds Shop.disarmed ∧ (∀ id ∈ Shop.disarmed.flatMap Turn.drawn, id.version ≠ 5) ∧
      ∃ b sim preview, (s.simulate Shop.fourthDay b.id (Shop.stopPistolOn 20040)).1 = .ok preview ∧
        s.Shows Shop.catalog Shop.fourthDay (Shop.stopPistolOn 20040) b sim preview ∧
        sim.events ≠ [] ∧ preview.simulatedEvents = [] := by
  intro s
  have distinct : DistinctIds Shop.disarmed := by decide +kernel
  have random : ∀ id ∈ Shop.disarmed.flatMap Turn.drawn, id.version ≠ 5 := by decide +kernel
  have held : ∃ b ∈ s.store.bundles, ∃ sim ∈ (simulate Shop.fourthDay Shop.catalog
        (s.store.snapshotOf b Shop.fourthDay.now) (Shop.stopPistolOn 20040)).toOption,
      ∃ preview ∈ (s.simulate Shop.fourthDay b.id (Shop.stopPistolOn 20040)).1.toOption,
        preview = sim.toBundle b (s.store.snapshotOf b Shop.fourthDay.now) Shop.fourthDay.now ∧
          sim.events ≠ [] ∧ preview.simulatedEvents = [] := by decide +kernel
  obtain ⟨b, stored, sim, simulated, preview, answer, shown, some_, none_⟩ := held
  have shows : s.Shows Shop.catalog Shop.fourthDay (Shop.stopPistolOn 20040) b sim preview :=
    ⟨stored, mem_toOption.1 simulated, shown⟩
  exact ⟨distinct, random, b, sim, preview, mem_toOption.1 answer, shows, some_, none_⟩

end SubscriptionBundles
