import SubscriptionBundles.Proofs.CachedIdentities

/-!
# Transparency of the cache

A service that caches identities and one that does not answer alike: they look at one catalog and
one storage, and a lookup finds what is stored whether it is cached or not.

* `Service.Twin`                services that differ at most in what they cache and count;
* `Service.Alike`               one answer, and twins afterwards;
* `Service.Twin.perform`, `Service.Twin.requireIdentity`  what calls are made of goes alike;
* `Service.handle_alike`        so does every request;
* `Service.cache_transparent`   and every run.
-/

namespace SubscriptionBundles

open Service (Turn)

namespace Service
variable {s : Service}

/-! ## two services -/

/-- they work over one catalog and one storage; what they cache and count may differ -/
structure Twin (s t : Service) : Prop where
  catalogs : s.catalogs = t.catalogs
  storage : s.storage = t.storage
  keys : s.maxKeyLength = t.maxKeyLength

/-- one answer, and the services are twins afterwards -/
structure Alike {α : Type} (o p : Outcome α) : Prop where
  answer : o.1 = p.1
  twin : o.2.Twin p.2

section
variable {t : Service} {α β : Type}

theorem Alike.map {o p : Outcome α} (h : Alike o p) (f : α → β) :
    Alike (Outcome.map f o) (Outcome.map f p) :=
  ⟨congrArg (Except.map f) h.answer, h.twin⟩

theorem Alike.observe {o p : Outcome α} (h : Alike o p) (m : Method) :
    Alike (observe m o) (observe m p) :=
  ⟨h.answer, h.twin.catalogs, h.twin.storage, h.twin.keys⟩

theorem Twin.ask (h : s.Twin t) (m : Method) {a b : Except SubscriptionError α} (same : a = b) :
    Alike (s.ask m a) (t.ask m b) :=
  Alike.observe ⟨same, h⟩ m

theorem Twin.perform (h : s.Twin t) (effects : List Effect) :
    Alike (s.perform effects) (t.perform effects) := by
  induction effects generalizing s t with
  | nil => exact ⟨rfl, h⟩
  | cons e rest ih =>
    cases e with
    | write w =>
      unfold Service.perform
      rw [h.storage]
      generalize t.storage.write w = written
      obtain ⟨answer, storage⟩ := written
      cases answer with
      | ok done => exact ih ⟨h.catalogs, rfl, h.keys⟩
      | error e => exact ⟨rfl, h.catalogs, rfl, h.keys⟩
    | learn lookup id value => exact ih ⟨h.catalogs, h.storage, h.keys⟩
    | count sample => exact ih ⟨h.catalogs, h.storage, h.keys⟩

theorem Twin.enact (h : s.Twin t) (d : Decision α) : Alike (s.enact d) (t.enact d) := by
  have performed := h.perform d.effects
  unfold Service.enact
  generalize s.perform d.effects = o at *
  generalize t.perform d.effects = p at *
  obtain ⟨a, s'⟩ := o
  obtain ⟨b, t'⟩ := p
  obtain ⟨rfl, twin⟩ := performed
  cases a with
  | ok done => exact ⟨congrArg d.answer twin.storage, twin⟩
  | error e => exact ⟨rfl, twin⟩

theorem Twin.carryOut (h : s.Twin t) (m : Method) {a b : Except SubscriptionError (Decision α)}
    (same : a = b) : Alike (s.carryOut m a) (t.carryOut m b) := by
  subst same
  refine Alike.observe ?_ m
  cases a with
  | ok d => exact h.enact d
  | error e => exact ⟨rfl, h⟩

theorem Twin.identify (h : s.Twin t) (lookup : Lookup) (id : Uuid) :
    (s.identify lookup id).2.Twin (t.identify lookup id).2 :=
  ⟨h.catalogs, h.storage, h.keys⟩

theorem Twin.requireIdentity (h : s.Twin t) (hs : s.Knows) (ht : t.Knows) (lookup : Lookup)
    (id : Uuid) (missing : SubscriptionError) :
    Alike (s.requireIdentity lookup id missing) (t.requireIdentity lookup id missing) := by
  refine ⟨?_, ?_⟩
  · rw [requireIdentity_answer hs, requireIdentity_answer ht, Service.store, Service.store,
      h.storage]
  · rw [requireIdentity_snd, requireIdentity_snd]
    exact h.identify lookup id

theorem Twin.accountOfSubscription (h : s.Twin t) (hs : s.Knows) (ht : t.Knows) (id : Uuid) :
    Alike (s.accountOfSubscription id) (t.accountOfSubscription id) := by
  have first := h.requireIdentity hs ht .subscriptionToBundle id (.noBundleForSubscription id)
  have knowsS := requireIdentity_knows hs .subscriptionToBundle id (.noBundleForSubscription id)
  have knowsT := requireIdentity_knows ht .subscriptionToBundle id (.noBundleForSubscription id)
  refine Alike.observe ?_ _
  generalize s.requireIdentity .subscriptionToBundle id (.noBundleForSubscription id) = o at *
  generalize t.requireIdentity .subscriptionToBundle id (.noBundleForSubscription id) = p at *
  obtain ⟨a, s'⟩ := o
  obtain ⟨b, t'⟩ := p
  obtain ⟨rfl, twin⟩ := first
  cases a with
  | ok bundle => exact Twin.requireIdentity twin knowsS knowsT .bundleToAccount bundle _
  | error e => exact ⟨rfl, twin⟩

/-! ## every request -/

theorem Twin.planBatches (h : s.Twin t) (ctx : Context) (c : Catalog) (ids : Nat → Uuid)
    (rename : Bool) (p : Progress) (specs : List BundleSpecifier) :
    SubscriptionBundles.planBatches s ctx c ids rename p specs =
      SubscriptionBundles.planBatches t ctx c ids rename p specs := by
  have one (p : Progress) (spec : BundleSpecifier) :
      planBatch s ctx c ids rename p spec = planBatch t ctx c ids rename p spec := by
    obtain ⟨catalogs, storage, _, _, max⟩ := s
    obtain ⟨_, _, _, _, _⟩ := t
    obtain ⟨rfl, rfl, rfl⟩ := h
    rfl
  induction specs generalizing p with
  | nil => rfl
  | cons spec rest ih =>
    unfold SubscriptionBundles.planBatches
    rw [one p spec]
    refine congrArg _ (funext fun found => ?_)
    obtain ⟨planned, p⟩ := found
    show SubscriptionBundles.planBatches s ctx c ids rename p rest >>= _ = _
    rw [ih p]

/-- twins that know what is stored answer alike -/
theorem handle_alike (h : s.Twin t) (hs : s.Knows) (ht : t.Knows) (ctx : Context)
    (ids : Nat → Uuid) (request : Request) :
    Alike (s.handle ctx ids request) (t.handle ctx ids request) := by
  have decided := h.planBatches ctx
  obtain ⟨catalogs, storage, known, tally, max⟩ := s
  obtain ⟨catalogs', storage', known', tally', max'⟩ := t
  obtain ⟨same, same', same''⟩ := id h
  cases same
  cases same'
  cases same''
  cases request with
  | create specifiers rename =>
    refine Alike.map (Twin.carryOut h _ ?_) _
    exact congrArg _ (funext fun c => by rw [decided c ids rename .start specifiers])
  | createBundle account key rename => exact Alike.map (Twin.carryOut h _ rfl) _
  | updateExternalKey bundle key => exact Alike.map (Twin.carryOut h _ rfl) _
  | cancel cancelled terms => exact Alike.map (Twin.carryOut h _ rfl) _
  | updateBillCycleDay id day start => exact Alike.map (Twin.carryOut h _ rfl) _
  | setChargedThrough id date => exact Alike.map (Twin.carryOut h _ rfl) _
  | simulate bundle args => exact Alike.map (Twin.carryOut h _ rfl) _
  | accountOfBundle id => exact ((h.requireIdentity hs ht _ id _).observe _).map _
  | bundleOfSubscription id => exact ((h.requireIdentity hs ht _ id _).observe _).map _
  | accountOfSubscription id => exact (h.accountOfSubscription hs ht id).map _
  | transitions id =>
    have read : Alike (Service.subscription _ ctx id) (Service.subscription _ ctx id) :=
      Twin.ask h .getSubscriptionFromId rfl
    exact (read.map Subscription.allTransitions).map _
  | _ => exact Alike.map (Twin.ask h _ rfl) _

theorem run_alike (h : s.Twin t) (hs : s.Knows) (ht : t.Knows) (turns : List Turn) :
    (s.run turns).1 = (t.run turns).1 ∧ (s.run turns).2.Twin (t.run turns).2 ∧
      (s.run turns).2.Knows ∧ (t.run turns).2.Knows := by
  induction turns generalizing s t with
  | nil => exact ⟨rfl, h, hs, ht⟩
  | cons turn rest ih =>
    have alike := handle_alike h hs ht turn.context turn.ids turn.request
    have later := ih alike.twin (handle_knows hs turn.context turn.ids turn.request)
      (handle_knows ht turn.context turn.ids turn.request)
    exact ⟨congrArg₂ List.cons alike.answer later.1, later.2⟩

end

/-! ## every run -/

theorem new_twin (c : Catalog) (max : Nat) (a b : Bool) : (new c max a).Twin (new c max b) :=
  ⟨rfl, rfl, rfl⟩

/-- with a cache or without, a run from the start gives the same answers and stores the same.  What
is cached by its end is what the store answers, and all that is stored can be looked up, whatever
was looked up in vain before it was there -/
theorem cache_transparent (c : Catalog) (max : Nat) (turns : List Turn) :
    let cached := (new c max true).run turns
    let plain := (new c max false).run turns
    cached.1 = plain.1 ∧ cached.2.storage = plain.2.storage ∧
      (∀ e ∈ cached.2.identities.entries,
        loadIdentity cached.2.storage e.1.2 e.1.1 = .ok (some e.2)) ∧
      cached.2.Resolves ∧ plain.2.Resolves := by
  obtain ⟨answers, twin, cached, plain⟩ := run_alike (new_twin c max true false)
    (knows_new c max true) (knows_new c max false) turns
  refine ⟨answers, twin.storage, ?_, cached.resolves, plain.resolves⟩
  intro e he
  rw [loadIdentity_eq cached.inOrder]
  exact congrArg _ ((cached.settled.functional e.1.1).lookup_eq (cached.cached e he))

end Service

end SubscriptionBundles
