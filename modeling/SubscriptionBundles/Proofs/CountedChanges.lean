import SubscriptionBundles.Proofs.CachedIdentities
import SubscriptionBundles.Proofs.StoredEvents
import SubscriptionBundles.Proofs.SweptAddOns

/-!
# Counted changes

What comes to be stored is counted as it is written: one operation for each bundle, for each record,
for each cancellation and for each change of a billing day.  A write that is refused stores nothing,
and nothing after it is counted.

* `Stock`                       what is counted, `Store.held` how much of it is stored;
* `Store.held_of_apply`         what a write adds to it;
* `Service.Balanced`            as many operations are counted as are stored;
* `Balances`                    effects that keep a service so;
* `balances_write`              a write that is followed by its operations;
* `Service.perform_sweep`       a sweep, whose operations are counted first;
* `Service.handle_balanced`     every call keeps a service so.
-/

namespace SubscriptionBundles

/-! ## what is stored -/

inductive Stock
  | records
  | bundles
  | cancellations
  | billingDays

def Stock.operation : Stock → Operation
  | records => .create
  | bundles => .createBundle
  | cancellations => .cancel
  | billingDays => .updateBillCycleDay

def Store.held (s : Store) : Stock → Nat
  | .records => s.records.length
  | .bundles => s.bundles.length
  | .cancellations => s.events.countP (·.kind = .cancel)
  | .billingDays => s.events.countP (·.isBillCycleDayChange)

/-- what a write adds to it -/
def Write.gain (w : Write) : Stock → Nat
  | .records => (w.identities .subscriptionToBundle).length
  | .bundles => (w.identities .bundleToAccount).length
  | .cancellations => w.events.countP (·.kind = .cancel)
  | .billingDays => w.events.countP (·.isBillCycleDayChange)

theorem Store.held_of_apply {s later : Store} {w : Write} (h : s.apply w = .ok later) (k : Stock) :
    later.held k = s.held k + w.gain k := by
  have identities (lookup : Lookup) : (later.identities lookup).length =
      (s.identities lookup).length + (w.identities lookup).length := by
    rw [identities_of_apply h, List.length_append]
  have events (p : TransitionEvent → Bool) :
      later.events.countP p = s.events.countP p + w.events.countP p := by
    rw [(events_of_apply h).countP_eq, List.countP_append]
  cases k with
  | records =>
    have added := identities .subscriptionToBundle
    unfold Store.identities at added
    rw [List.length_map, List.length_map] at added
    exact added
  | bundles =>
    have added := identities .bundleToAccount
    unfold Store.identities at added
    rw [List.length_map, List.length_map] at added
    exact added
  | cancellations => exact events _
  | billingDays => exact events _

theorem Storage.write_cases (s : Storage) (w : Write) :
    (∃ later, s.store.apply w = .ok later ∧ (s.write w).1 = .ok () ∧ (s.write w).2.store = later) ∨
      ∃ e, (s.write w).1 = .error e ∧ (s.write w).2.store = s.store := by
  unfold write
  split
  · exact .inr ⟨_, rfl, rfl⟩
  · cases accepted : s.store.apply w with
    | ok later => exact .inl ⟨later, rfl, rfl, rfl⟩
    | error e => exact .inr ⟨e, rfl, rfl⟩

/-! ## balanced services -/

def Effect.sample? : Effect → Option Sample
  | .count sample => some sample
  | .write _ | .learn _ _ _ => none

namespace Service

/-- as many operations are counted as are stored -/
def Balanced (s : Service) : Prop :=
  ∀ k : Stock, s.tally.times (.operation k.operation) = s.store.held k

theorem balanced_new (c : Catalog) (max : Nat) (cached : Bool) : (new c max cached).Balanced := by
  intro k
  cases k <;> rfl

theorem times_count (s : Service) (samples : List Sample) (x : Sample) :
    (s.count samples).tally.times x = samples.count x + s.tally.times x := List.count_append

theorem Balanced.count {s : Service} (h : s.Balanced) {samples : List Sample}
    (other : ∀ o, Sample.operation o ∉ samples) : (s.count samples).Balanced := by
  intro k
  rw [times_count, List.count_eq_zero.2 (other _), Nat.zero_add]
  exact h k

theorem Balanced.samplesOf {s : Service} (h : s.Balanced) {α : Type} (m : Method)
    (answer : Except SubscriptionError α) : (s.count (samplesOf m answer)).Balanced := by
  refine h.count fun o => ?_
  cases answer <;> simp [Service.samplesOf]

/-- effects that write nothing are all performed -/
theorem perform_unwritten {effects : List Effect} (unwritten : ∀ e ∈ effects, e.write? = none)
    (s : Service) :
    (s.perform effects).1 = .ok () ∧ (s.perform effects).2.storage = s.storage ∧
      ∀ x, (s.perform effects).2.tally.times x =
        (effects.filterMap Effect.sample?).count x + s.tally.times x := by
  induction effects generalizing s with
  | nil => exact ⟨rfl, rfl, fun x => (Nat.zero_add _).symm⟩
  | cons e rest ih =>
    have ih := ih fun e' he => unwritten e' (List.mem_cons_of_mem e he)
    cases e with
    | write w => cases unwritten _ List.mem_cons_self
    | learn lookup id value => exact ih _
    | count sample =>
      obtain ⟨done, same, counted⟩ := ih (s.count [sample])
      refine ⟨done, same, fun x => ?_⟩
      have here : (Effect.count sample).sample? = some sample := rfl
      rw [List.filterMap_cons_some here, List.count_cons]
      refine (counted x).trans ?_
      rw [times_count, List.count_singleton]
      omega

theorem perform_append (a b : List Effect) (s : Service) :
    s.perform (a ++ b) =
      match s.perform a with
      | (.ok (), s) => s.perform b
      | (.error e, s) => (.error e, s) := by
  induction a generalizing s with
  | nil => rfl
  | cons e rest ih =>
    cases e with
    | write w =>
      simp only [List.cons_append, perform]
      split
      · exact ih _
      · rfl
    | learn lookup id value => exact ih _
    | count sample => exact ih _

end Service

/-! ## effects that balance -/

def Balances (effects : List Effect) : Prop :=
  ∀ s : Service, s.Balanced → (s.perform effects).2.Balanced

theorem Balances.append {a b : List Effect} (first : Balances a) (second : Balances b) :
    Balances (a ++ b) := by
  intro s h
  rw [Service.perform_append]
  have left := first s h
  generalize s.perform a = o at left
  obtain ⟨done, after⟩ := o
  cases done with
  | ok _ => exact second after left
  | error e => exact left

theorem Balances.flatMap {α : Type} {f : α → List Effect} {l : List α}
    (each : ∀ a ∈ l, Balances (f a)) : Balances (l.flatMap f) := by
  induction l with
  | nil => exact fun s h => h
  | cons a l ih =>
    rw [List.flatMap_cons]
    exact (each a List.mem_cons_self).append (ih fun b hb => each b (List.mem_cons_of_mem a hb))

/-- if the write is refused, its operations are not counted either -/
theorem balances_write {w : Write} {rest : List Effect} (unwritten : ∀ e ∈ rest, e.write? = none)
    (counted : ∀ k : Stock,
      (rest.filterMap Effect.sample?).count (.operation k.operation) = w.gain k) :
    Balances (.write w :: rest) := by
  intro s h
  unfold Service.perform
  rcases s.storage.write_cases w with ⟨later, accepted, ok, stored⟩ | ⟨e, refused, same⟩
  · generalize s.storage.write w = o at ok stored
    obtain ⟨done, storage⟩ := o
    cases ok
    obtain ⟨_, kept, times⟩ :=
      Service.perform_unwritten unwritten { s with storage := storage }
    intro k
    have before := h k
    have gained := Store.held_of_apply accepted k
    show _ = Store.held (Service.perform _ rest).2.storage.store k
    rw [times, kept, counted k]
    show w.gain k + s.tally.times _ = storage.store.held k
    rw [show storage.store = later from stored, gained, before]
    exact Nat.add_comm _ _
  · -- the effects end here, and nothing was stored
    generalize s.storage.write w = o at refused same
    obtain ⟨done, storage⟩ := o
    cases refused
    intro k
    show _ = storage.store.held k
    rw [show storage.store = s.storage.store from same]
    exact h k

/-! ## creation -/

theorem balances_rename (id : Uuid) (key : String) (now : Instant) :
    Balances [.write (.updateKey id key now)] := by
  refine balances_write (by simp) fun k => ?_
  cases k <;> rfl

theorem PlannedBundle.balances (p : PlannedBundle) (now : Instant) : Balances (p.effects now) := by
  have renames : Balances (p.renames.map fun r => .write (.updateKey r.1 r.2 now)) := by
    rw [List.map_eq_flatMap]
    exact .flatMap fun r _ => balances_rename r.1 r.2 now
  refine renames.append (balances_write ?_ fun k => ?_)
  · intro e he
    rcases List.mem_pair.1 he with rfl | rfl <;> rfl
  · cases k <;> rfl

/-- neither a cancellation nor another billing day -/
def TransitionEvent.opens (e : TransitionEvent) : Prop :=
  e.kind ≠ .cancel ∧ e.isBillCycleDayChange = false

theorem NewSubscription.record_opens {c : Catalog} {n : NewSubscription} {r : SubscriptionRecord}
    (h : n.record c = .ok r) : ∀ e ∈ r.events, e.opens := by
  obtain ⟨phase, later, _, rfl⟩ := record_eq_ok h
  intro e he
  rcases List.mem_cons.1 he with rfl | he
  · exact ⟨nofun, rfl⟩
  · obtain ⟨_, p, hp⟩ := phaseEvents_fit e he
    unfold TransitionEvent.opens TransitionEvent.isBillCycleDayChange
    rw [hp]
    exact ⟨nofun, rfl⟩

theorem PlannedBatch.samples_records (records : List SubscriptionRecord) :
    (records.flatMap recordEffects).filterMap Effect.sample? =
      List.replicate records.length (.operation .create) := by
  induction records with
  | nil => rfl
  | cons r rest ih =>
    rw [List.flatMap_cons, List.filterMap_append, ih]
    rfl

theorem PlannedBatch.balances {b : PlannedBatch} (opens : ∀ r ∈ b.records, ∀ e ∈ r.events, e.opens)
    (now : Instant) : Balances (b.effects now) := by
  have opens : ∀ e ∈ b.records.flatMap (·.events), e.opens := by
    intro e he
    obtain ⟨r, hr, he⟩ := List.mem_flatMap.1 he
    exact opens r hr e he
  have records :
      Balances (.write (.createRecords b.records) :: b.records.flatMap recordEffects) := by
    refine balances_write ?_ fun k => ?_
    · intro e he
      obtain ⟨r, _, he⟩ := List.mem_flatMap.1 he
      rcases List.mem_pair.1 he with rfl | rfl <;> rfl
    · rw [samples_records, List.count_replicate]
      cases k with
      | records => exact (List.length_map _).symm
      | bundles => rfl
      | cancellations =>
        refine (List.countP_eq_zero.2 fun e he => ?_).symm
        simpa using (opens e he).1
      | billingDays =>
        refine (List.countP_eq_zero.2 fun e he => ?_).symm
        simpa using (opens e he).2
  unfold effects
  cases b.target with
  | existing _ => exact records
  | new planned => exact (planned.balances now).append records

/-! ## cancellation -/

section
variable {s : Storage} {ctx : Context} {c : Catalog} {terms : CancelTerms} {w : Sweep}

/-- nothing but cancellations -/
def Sweep.Cancels (w : Sweep) : Prop := ∀ e ∈ w.events, e.kind = .cancel

theorem Sweep.Cancels.cancel (h : w.Cancels) (t : Subscription) (date processed : Instant) :
    (w.cancel t date processed).Cancels := by
  intro e he
  rcases List.mem_append.1 he with he | he
  · exact h e he
  · rw [List.mem_singleton.1 he]
    rfl

theorem sweep_cancels (order : s.InOrder) {ids : List Uuid}
    (ok : ids.foldlM (sweepSubscription s ctx c terms) .start = .ok w) : w.Cancels := by
  have start : Sweep.start.Cancels := List.forall_mem_nil _
  refine sweep_keeps order ?_ start ok
  intro w h r _ _ date _
  exact h.cancel _ date ctx.now

/-- a write of cancellations adds as many as there are -/
theorem Sweep.Cancels.gain (h : w.Cancels) (k : Stock) :
    (Write.appendEvents w.events).gain k =
      (List.replicate w.events.length (Sample.operation .cancel)).count (.operation k.operation) := by
  rw [List.count_replicate]
  cases k with
  | records | bundles => rfl
  | cancellations => exact List.countP_eq_length.2 fun e he => decide_eq_true (h e he)
  | billingDays =>
    refine List.countP_eq_zero.2 fun e he => ?_
    unfold TransitionEvent.isBillCycleDayChange
    rw [h e he]
    exact Bool.false_ne_true

theorem Sweep.samples (events : List TransitionEvent) :
    (events.map fun _ => Effect.count (.operation .cancel)).filterMap Effect.sample? =
      List.replicate events.length (.operation .cancel) := by
  induction events with
  | nil => rfl
  | cons e rest ih => exact congrArg (List.cons _) ih

end

namespace Service
variable {s : Service}

/-- the cancellations are counted before they are written, and the write is accepted -/
theorem perform_sweep (order : s.storage.InOrder) (h : s.Balanced) {w : Sweep} (cancels : w.Cancels)
    (stored : ∀ e ∈ w.events, e.subscriptionId ∈ s.store.recordIds) :
    (s.perform w.effects).2.Balanced := by
  have unwritten : ∀ e ∈ w.events.map fun _ => Effect.count (.operation .cancel),
      e.write? = none := by
    intro e he
    obtain ⟨_, _, rfl⟩ := List.mem_map.1 he
    rfl
  obtain ⟨done, same, times⟩ := perform_unwritten unwritten s
  unfold Sweep.effects
  rw [perform_append]
  generalize s.perform _ = o at done same times
  obtain ⟨_, counted⟩ := o
  cases done
  have gained (k : Stock) : counted.tally.times (.operation k.operation) =
      s.store.held k + (Write.appendEvents w.events).gain k := by
    have before := h k
    have after := times (.operation k.operation)
    rw [Sweep.samples, ← cancels.gain] at after
    rw [after, before]
    exact Nat.add_comm _ _
  dsimp only at same ⊢
  split
  · next none =>
    -- no events, no write, and no operation counted
    intro k
    show counted.tally.times _ = counted.storage.store.held k
    rw [gained k, same, List.isEmpty_iff.1 none]
    cases k <;> rfl
  · have accepted : s.store.apply (.appendEvents w.events) = _ :=
      Store.appendEvents_of_stored stored
    unfold perform
    rw [same, order.write_of_ok accepted]
    intro k
    exact (gained k).trans (Store.held_of_apply accepted k).symm

/-! ## calls -/

theorem carryOut_balanced {α : Type} (h : s.Balanced) (m : Method)
    {decision : Except SubscriptionError (Decision α)}
    (balances : ∀ d, decision = .ok d → (s.perform d.effects).2.Balanced) :
    (s.carryOut m decision).2.Balanced := by
  cases decision with
  | error e => exact h.samplesOf m _
  | ok d =>
    refine Balanced.samplesOf ?_ m _
    show (s.enact d).2.Balanced
    rw [enact_snd]
    exact balances d rfl

theorem requireIdentity_balanced (h : s.Balanced) (lookup : Lookup) (id : Uuid)
    (missing : SubscriptionError) : (s.requireIdentity lookup id missing).2.Balanced := by
  rw [requireIdentity_snd]
  exact Balanced.count (fun k => h k) (by simp)

theorem accountOfSubscription_balanced (h : s.Balanced) (id : Uuid) :
    (s.accountOfSubscription id).2.Balanced := by
  have first :=
    requireIdentity_balanced h .subscriptionToBundle id (.noBundleForSubscription id)
  unfold accountOfSubscription
  generalize s.requireIdentity .subscriptionToBundle id (.noBundleForSubscription id) = o at first
  obtain ⟨found, after⟩ := o
  cases found with
  | error _ => exact first.samplesOf _ _
  | ok bundle => exact (requireIdentity_balanced first _ _ _).samplesOf _ _

section
variable {ctx : Context} {ids : Nat → Uuid} {request : Request}

theorem Decides.balanced {effects : List Effect} (order : s.storage.InOrder) (h : s.Balanced)
    (decides : s.Decides ctx ids request effects) : (s.perform effects).2.Balanced := by
  cases decides with
  | create planned =>
    obtain ⟨_, all⟩ := (planBatches_eq_ok order).1 planned
    refine Balances.flatMap (fun b hb => PlannedBatch.balances (fun r hr => ?_) ctx.now) s h
    obtain ⟨_, _, _, _, here⟩ := all.of_mem b hb
    obtain ⟨_, _, _, _, made⟩ := BatchChecks.plannedRecords_of_mem here.records r hr
    exact NewSubscription.record_opens made
  | createBundle p => exact p.balances ctx.now s h
  | cancel swept =>
    refine perform_sweep order h (sweep_cancels order swept) fun e he => ?_
    obtain ⟨r, hr, own, _⟩ := (sweep_eq_ok order (List.forall_mem_nil _) swept).1 e he
    rw [← own]
    exact List.mem_map_of_mem hr
  | updateExternalKey _ _ | updateBillCycleDay _ _ | setChargedThrough _ _ =>
    refine balances_write (by simp [Effect.write?]) (fun k => ?_) s h
    cases k <;> rfl

end

theorem handle_balanced (order : s.storage.InOrder) (h : s.Balanced) (ctx : Context)
    (ids : Nat → Uuid) (request : Request) : (s.handle ctx ids request).2.Balanced := by
  have handled := s.handle_handled ctx ids request
  generalize s.handle ctx ids request = o at handled
  cases handled with
  | read _ _ _ => exact h.samplesOf _ _
  | accountOfBundle id => exact (requireIdentity_balanced h _ id _).samplesOf _ _
  | bundleOfSubscription id => exact (requireIdentity_balanced h _ id _).samplesOf _ _
  | accountOfSubscription id => exact accountOfSubscription_balanced h id
  | decided _ decides _ => exact carryOut_balanced h _ fun d hd => (decides d hd).balanced order h
  | simulated counts =>
    refine carryOut_balanced h _ fun d hd => ?_
    obtain ⟨_, rfl⟩ := counts d hd
    exact h.count (by simp)

end Service

end SubscriptionBundles
