import SubscriptionBundles.Proofs.Calls
import SubscriptionBundles.Proofs.Decisions
import SubscriptionBundles.Proofs.StoredIdentities

/-!
# Cached identities

Whatever is cached is stored as well, and what is stored of an identity never changes.  Nothing is
asked of the identifiers that are drawn: a write that meets a name twice is refused, and what the
call has cached by then is stored.

* `Store.Teaches`               effects that cache nothing but what they have written;
* `PlannedBatch.teaches_all`    so do those of a creation;
* `Service.Knows`               whatever is cached is stored;
* `Service.perform_knows`, `Service.identify_knows`, `Service.handle_knows`  it stays so;
* `Service.identify_value`      a lookup finds what is stored;
* `Service.Knows.resolves`      and finds everything that is.
-/

namespace SubscriptionBundles

/-! ## effects -/

/-- the effects cache nothing but what is stored when they come to it -/
def Store.Teaches (s : Store) : List Effect → Prop
  | [] => True
  | .write w :: rest => w.Settles ∧ ∀ later, s.apply w = .ok later → later.Teaches rest
  | .learn lookup id value :: rest => (id, value) ∈ s.identities lookup ∧ s.Teaches rest
  | .count _ :: rest => s.Teaches rest

theorem Store.Teaches.append {s : Store} {a b : List Effect} (first : s.Teaches a)
    (second : ∀ later : Store, later.Teaches b) : s.Teaches (a ++ b) := by
  induction a generalizing s with
  | nil => exact second s
  | cons e rest ih =>
    cases e with
    | write w => exact ⟨first.1, fun later ok => ih (first.2 later ok)⟩
    | learn lookup id value => exact ⟨first.1, ih first.2⟩
    | count sample => exact ih first

/-- it caches nothing, and stores nothing that may be looked up -/
def Effect.Plain : Effect → Prop
  | .write w => ∀ lookup, w.identities lookup = []
  | .learn _ _ _ => False
  | .count _ => True

theorem Store.teaches_of_plain {effects : List Effect} (plain : ∀ e ∈ effects, e.Plain) (s : Store) :
    s.Teaches effects := by
  induction effects generalizing s with
  | nil => trivial
  | cons e rest ih =>
    have ih := ih fun e' he => plain e' (List.mem_cons_of_mem _ he)
    have own := plain e List.mem_cons_self
    cases e with
    | write w =>
      refine ⟨fun lookup => ?_, fun later _ => ih later⟩
      rw [own lookup]
      exact nofun
    | learn lookup id value => exact own.elim
    | count sample => exact ih s

/-- a write that stores nothing to look up, and is then counted -/
theorem Store.teaches_write_count {w : Write} (plain : (Effect.write w).Plain) (sample : Sample)
    (s : Store) : s.Teaches [.write w, .count sample] := by
  refine teaches_of_plain ?_ s
  intro e he
  rcases List.mem_pair.1 he with rfl | rfl
  · exact plain
  · trivial

theorem Effect.plain_updateKey (id : Uuid) (key : String) (now : Instant) :
    (write (.updateKey id key now)).Plain := by
  intro lookup
  cases lookup <;> rfl

theorem Effect.plain_appendEvents (events : List TransitionEvent) :
    (write (.appendEvents events)).Plain := by
  intro lookup
  cases lookup <;> rfl

theorem Effect.plain_setChargedThrough (id : Uuid) (date : Instant) :
    (write (.setChargedThrough id date)).Plain := by
  intro lookup
  cases lookup <;> rfl

theorem Sweep.plain_effects (w : Sweep) : ∀ e ∈ w.effects, e.Plain := by
  intro e he
  rcases List.mem_append.1 he with counted | written
  · obtain ⟨_, _, rfl⟩ := List.mem_map.1 counted
    trivial
  · split at written
    · cases written
    · obtain rfl := List.mem_singleton.1 written
      exact Effect.plain_appendEvents _

/-- a new bundle is cached once it is created -/
theorem PlannedBundle.teaches (p : PlannedBundle) (now : Instant) (s : Store) :
    s.Teaches (p.effects now) := by
  have renames : ∀ e ∈ p.renames.map fun r => Effect.write (.updateKey r.1 r.2 now), e.Plain := by
    intro e he
    obtain ⟨_, _, rfl⟩ := List.mem_map.1 he
    exact Effect.plain_updateKey _ _ _
  refine (Store.teaches_of_plain renames s).append fun named => ⟨?_, fun later ok => ⟨?_, trivial⟩⟩
  · intro lookup
    cases lookup with
    | subscriptionToBundle => exact nofun
    | bundleToAccount =>
      intro a ha b hb _
      rw [List.mem_singleton.1 ha, List.mem_singleton.1 hb]
  · rw [Store.identities_of_apply ok]
    exact List.mem_append_right _ List.mem_cons_self

theorem PlannedBatch.teaches_records (records : List SubscriptionRecord) {s : Store}
    (stored : ∀ r ∈ records, r.identity ∈ s.identities .subscriptionToBundle) :
    s.Teaches (records.flatMap recordEffects) := by
  induction records with
  | nil => trivial
  | cons r rest ih =>
    exact ⟨stored r List.mem_cons_self, ih fun q hq => stored q (List.mem_cons_of_mem _ hq)⟩

/-- a batch caches the identities of what it has created -/
theorem PlannedBatch.teaches {b : PlannedBatch}
    (within : ∀ r ∈ b.records, r.bundleId = b.target.bundle.id) (now : Instant) (s : Store) :
    s.Teaches (b.effects now) := by
  have records (s : Store) :
      s.Teaches (.write (.createRecords b.records) :: b.records.flatMap recordEffects) := by
    refine ⟨?_, fun later ok => teaches_records _ fun r hr => ?_⟩
    · intro lookup
      cases lookup with
      | bundleToAccount => exact nofun
      | subscriptionToBundle =>
        intro x hx y hy _
        obtain ⟨q, hq, rfl⟩ := List.mem_map.1 hx
        obtain ⟨r, hr, rfl⟩ := List.mem_map.1 hy
        exact (within q hq).trans (within r hr).symm
    · rw [Store.identities_of_apply ok]
      exact List.mem_append_right _ (List.mem_map_of_mem hr)
  unfold effects
  cases b.target with
  | existing _ => exact records s
  | new planned => exact (planned.teaches now s).append records

theorem PlannedBatch.teaches_all {bs : List PlannedBatch}
    (within : ∀ b ∈ bs, ∀ r ∈ b.records, r.bundleId = b.target.bundle.id) (now : Instant)
    (s : Store) : s.Teaches (bs.flatMap (·.effects now)) := by
  induction bs generalizing s with
  | nil => trivial
  | cons b rest ih =>
    rw [List.flatMap_cons]
    exact (teaches (within b List.mem_cons_self) now s).append
      (ih fun b' hb => within b' (List.mem_cons_of_mem _ hb))

/-! ## what a service knows -/

/-- whatever is cached is stored -/
structure Service.Knows (s : Service) : Prop where
  inOrder : s.storage.InOrder
  settled : s.store.Settled
  cached : ∀ e ∈ s.identities.entries, (e.1.2, e.2) ∈ s.store.identities e.1.1

theorem IdentityCache.mem_learn {c : IdentityCache} {lookup : Lookup} {id value : Uuid}
    {e : (Lookup × Uuid) × Uuid} (he : e ∈ (c.learn lookup id value).entries) :
    e = ((lookup, id), value) ∨ e ∈ c.entries := by
  unfold learn at he
  split at he
  · exact List.mem_cons.1 he
  · exact .inr he

theorem IdentityCache.mem_of_known? {c : IdentityCache} {lookup : Lookup} {id value : Uuid}
    (h : c.known? lookup id = some value) : ((lookup, id), value) ∈ c.entries := by
  unfold known? at h
  split at h
  · obtain ⟨earlier, later, same, _⟩ := List.lookup_eq_some_iff.1 h
    rw [same]
    exact List.mem_append_right _ List.mem_cons_self
  · cases h

namespace Service
variable {s : Service}

theorem knows_new (c : Catalog) (max : Nat) (cached : Bool) : (new c max cached).Knows :=
  ⟨rfl, Store.settled_empty, nofun⟩

theorem Knows.count (h : s.Knows) (samples : List Sample) : (s.count samples).Knows :=
  ⟨h.inOrder, h.settled, h.cached⟩

theorem Knows.learn (h : s.Knows) {lookup : Lookup} {id value : Uuid}
    (stored : (id, value) ∈ s.store.identities lookup) :
    ({ s with identities := s.identities.learn lookup id value } : Service).Knows := by
  refine ⟨h.inOrder, h.settled, ?_⟩
  intro e he
  rcases IdentityCache.mem_learn he with rfl | he
  · exact stored
  · exact h.cached e he

theorem perform_knows {effects : List Effect} (h : s.Knows) (teaches : s.store.Teaches effects) :
    (s.perform effects).2.Knows := by
  induction effects generalizing s with
  | nil => exact h
  | cons e rest ih =>
    cases e with
    | write w =>
      unfold perform
      cases ok : s.storage.store.apply w with
      | ok later =>
        rw [h.inOrder.write_of_ok ok]
        refine ih ⟨h.inOrder, h.settled.apply teaches.1 ok, ?_⟩ (teaches.2 later ok)
        intro e he
        show (e.1.2, e.2) ∈ later.identities e.1.1
        rw [Store.identities_of_apply ok]
        exact List.mem_append_left _ (h.cached e he)
      | error e =>
        rw [h.inOrder.write_of_error ok]
        exact ⟨h.inOrder, h.settled, h.cached⟩
    | learn lookup id value => exact ih (h.learn teaches.1) teaches.2
    | count sample => exact ih (h.count [sample]) teaches

theorem carryOut_knows {α : Type} (h : s.Knows) (m : Method)
    {decision : Except SubscriptionError (Decision α)}
    (teaches : ∀ d, decision = .ok d → s.store.Teaches d.effects) :
    (s.carryOut m decision).2.Knows := by
  cases decision with
  | error e => exact h.count _
  | ok d =>
    refine Knows.count ?_ _
    show (s.enact d).2.Knows
    rw [enact_snd]
    exact perform_knows h (teaches d rfl)

/-! ## lookups -/

/-- a lookup finds what is stored -/
theorem identify_value (h : s.Knows) (lookup : Lookup) (id : Uuid) :
    (s.identify lookup id).1 = (s.store.identities lookup).lookup id := by
  show (s.identities.resolve lookup id (loadIdentity s.storage id lookup)).value = _
  unfold IdentityCache.resolve
  rw [loadIdentity_eq h.inOrder]
  cases known : s.identities.known? lookup id with
  | some value =>
    have stored := h.cached _ (IdentityCache.mem_of_known? known)
    exact ((h.settled.functional lookup).lookup_eq stored).symm
  | none => cases (s.store.identities lookup).lookup id <;> rfl

theorem identify_knows (h : s.Knows) (lookup : Lookup) (id : Uuid) :
    (s.identify lookup id).2.Knows := by
  refine Knows.count ?_ _
  show ({ s with identities :=
    (s.identities.resolve lookup id (loadIdentity s.storage id lookup)).cache } : Service).Knows
  unfold IdentityCache.resolve
  rw [loadIdentity_eq h.inOrder]
  cases s.identities.known? lookup id with
  | some value => exact h
  | none =>
    cases found : (s.store.identities lookup).lookup id with
    | none => exact h
    | some value => exact h.learn (mem_of_lookup found)

theorem requireIdentity_answer (h : s.Knows) (lookup : Lookup) (id : Uuid)
    (missing : SubscriptionError) :
    (s.requireIdentity lookup id missing).1 =
      ((s.store.identities lookup).lookup id).elim (.error missing) .ok := by
  unfold requireIdentity
  rw [← identify_value h]
  generalize s.identify lookup id = o
  obtain ⟨found, after⟩ := o
  cases found <;> rfl

theorem requireIdentity_snd (lookup : Lookup) (id : Uuid) (missing : SubscriptionError) :
    (s.requireIdentity lookup id missing).2 = (s.identify lookup id).2 := by
  unfold requireIdentity
  generalize s.identify lookup id = o
  obtain ⟨found, after⟩ := o
  cases found <;> rfl

theorem requireIdentity_store (s : Service) (lookup : Lookup) (id : Uuid)
    (missing : SubscriptionError) : (s.requireIdentity lookup id missing).2.store = s.store := by
  rw [requireIdentity_snd]
  rfl

theorem requireIdentity_knows (h : s.Knows) (lookup : Lookup) (id : Uuid)
    (missing : SubscriptionError) : (s.requireIdentity lookup id missing).2.Knows := by
  rw [requireIdentity_snd]
  exact identify_knows h lookup id

theorem accountOfSubscription_answer (h : s.Knows) (id : Uuid) :
    (s.accountOfSubscription id).1 =
      ((s.store.identities .subscriptionToBundle).lookup id).elim
        (.error (.noBundleForSubscription id)) fun bundle =>
          ((s.store.identities .bundleToAccount).lookup bundle).elim
            (.error (.invalidBundleId bundle)) .ok := by
  have first := requireIdentity_answer h .subscriptionToBundle id (.noBundleForSubscription id)
  have knows := requireIdentity_knows h .subscriptionToBundle id (.noBundleForSubscription id)
  have same := requireIdentity_store s .subscriptionToBundle id (.noBundleForSubscription id)
  unfold accountOfSubscription
  generalize s.requireIdentity .subscriptionToBundle id (.noBundleForSubscription id) = o at *
  obtain ⟨found, after⟩ := o
  cases looked : (s.store.identities .subscriptionToBundle).lookup id with
  | none =>
    rw [looked] at first
    cases first
    rfl
  | some bundle =>
    rw [looked] at first
    cases first
    show (after.requireIdentity .bundleToAccount bundle _).1 = _
    rw [requireIdentity_answer knows, same]
    rfl

theorem accountOfSubscription_knows (h : s.Knows) (id : Uuid) :
    (s.accountOfSubscription id).2.Knows := by
  have knows := requireIdentity_knows h .subscriptionToBundle id (.noBundleForSubscription id)
  unfold accountOfSubscription
  generalize s.requireIdentity .subscriptionToBundle id (.noBundleForSubscription id) = o at *
  obtain ⟨found, after⟩ := o
  cases found with
  | error _ => exact knows.count _
  | ok bundle => exact (requireIdentity_knows knows _ _ _).count _

/-! ## requests -/

section
variable {ctx : Context} {ids : Nat → Uuid} {request : Request}

theorem Decides.teaches {effects : List Effect} (order : s.storage.InOrder)
    (h : s.Decides ctx ids request effects) : s.store.Teaches effects := by
  cases h with
  | create planned =>
    obtain ⟨_, all⟩ := (planBatches_eq_ok order).1 planned
    refine PlannedBatch.teaches_all (fun b hb => ?_) ctx.now s.store
    obtain ⟨_, _, _, _, here⟩ := all.of_mem b hb
    exact here.within
  | createBundle p => exact p.teaches ctx.now s.store
  | updateExternalKey _ _ => exact Store.teaches_write_count (Effect.plain_updateKey _ _ _) _ _
  | cancel _ => exact Store.teaches_of_plain (Sweep.plain_effects _) _
  | updateBillCycleDay _ _ => exact Store.teaches_write_count (Effect.plain_appendEvents _) _ _
  | setChargedThrough _ _ => exact Store.teaches_write_count (Effect.plain_setChargedThrough _ _) _ _

end

theorem handle_knows (h : s.Knows) (ctx : Context) (ids : Nat → Uuid) (request : Request) :
    (s.handle ctx ids request).2.Knows := by
  have handled := s.handle_handled ctx ids request
  generalize s.handle ctx ids request = o at handled
  cases handled with
  | read _ _ _ => exact h.count _
  | accountOfBundle id => exact (requireIdentity_knows h _ id _).count _
  | bundleOfSubscription id => exact (requireIdentity_knows h _ id _).count _
  | accountOfSubscription id => exact accountOfSubscription_knows h id
  | decided _ decides _ => exact carryOut_knows h _ fun d hd => (decides d hd).teaches h.inOrder
  | simulated counts =>
    refine carryOut_knows h _ fun d hd => ?_
    obtain ⟨_, rfl⟩ := counts d hd
    trivial

/-! ## what can be looked up -/

/-- bundles resolve to their accounts, subscriptions to their bundles, and through both to the
accounts -/
structure Resolves (s : Service) : Prop where
  bundles : ∀ b ∈ s.store.bundles, (s.accountOfBundle b.id).1 = .ok b.accountId
  subscriptions : ∀ r ∈ s.store.records, (s.bundleOfSubscription r.id).1 = .ok r.bundleId
  accounts : ∀ r ∈ s.store.records, ∃ b ∈ s.store.bundles, b.id = r.bundleId ∧
    (s.accountOfSubscription r.id).1 = .ok b.accountId

theorem Knows.resolves (h : s.Knows) : s.Resolves := by
  have bundle (b : Bundle) (hb : b ∈ s.store.bundles) :
      (s.store.identities .bundleToAccount).lookup b.id = some b.accountId :=
    (h.settled.functional .bundleToAccount).lookup_eq (List.mem_map_of_mem (f := Bundle.identity) hb)
  have subscription (r : SubscriptionRecord) (hr : r ∈ s.store.records) :
      (s.store.identities .subscriptionToBundle).lookup r.id = some r.bundleId :=
    (h.settled.functional .subscriptionToBundle).lookup_eq
      (List.mem_map_of_mem (f := SubscriptionRecord.identity) hr)
  refine ⟨?_, ?_, ?_⟩
  · intro b hb
    show (s.requireIdentity _ _ _).1 = _
    rw [requireIdentity_answer h, bundle b hb]
    rfl
  · intro r hr
    show (s.requireIdentity _ _ _).1 = _
    rw [requireIdentity_answer h, subscription r hr]
    rfl
  · intro r hr
    have home := h.settled.homes _ (List.mem_map_of_mem (f := SubscriptionRecord.identity) hr)
    rw [Store.identities, List.map_map] at home
    obtain ⟨b, hb, same⟩ := List.mem_map.1 home
    refine ⟨b, hb, same, ?_⟩
    rw [accountOfSubscription_answer h, subscription r hr]
    have found := bundle b hb
    rw [show b.id = r.bundleId from same] at found
    show ((s.store.identities .bundleToAccount).lookup r.bundleId).elim _ _ = _
    rw [found]
    rfl

end Service

end SubscriptionBundles
