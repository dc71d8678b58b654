import SubscriptionBundles.Service.Basic

/-!
# Taking results apart

What a computation that ends well has gone through, and reads of a storage with every method in
order.

* `bind_eq_ok`, `refuse_eq_ok`, `liftM_eq_ok`  steps of a computation;
* `bind_eq_error_iff`       steps that do not fail in one way;
* `foldlM_keeps`            what every step of a row keeps;
* `foldlM_eq_error_iff`     the first step of a row that fails;
* `Storage.InOrder`         no method is out of order;
* `requireRecord_eq_ok`, `requireBundle_eq_ok`, `snapshotAround_eq_ok`  reads of what has to be there;
* `Service.Serves`          a service in order over a catalog, with a limit on keys;
* `Service.perform_of_ok`   effects whose writes are all accepted;
* `Service.carryOut_of_ok`  a call that decides on such effects.
-/

namespace SubscriptionBundles

/-! ## steps -/

section
variable {ε α β : Type}

theorem bind_eq_ok {x : Except ε α} {f : α → Except ε β} {b : β} :
    (x >>= f) = .ok b ↔ ∃ a, x = .ok a ∧ f a = .ok b := by
  cases x with
  | error e =>
    constructor
    · intro h
      cases h
    · intro given
      obtain ⟨a, h, _⟩ := given
      cases h
  | ok a =>
    constructor
    · intro h
      exact ⟨a, rfl, h⟩
    · intro given
      obtain ⟨a', h, hf⟩ := given
      cases h
      exact hf

/-- what cannot fail in one way leaves it to what comes first -/
theorem bind_eq_error_iff {x : Except ε α} {f : α → Except ε β} {e : ε}
    (later : ∀ a, f a ≠ .error e) : (x >>= f) = .error e ↔ x = .error e := by
  cases x with
  | error _ =>
    show Except.error _ = Except.error _ ↔ _
    rw [Except.error.injEq, Except.error.injEq]
  | ok a => exact iff_of_false (later a) nofun

theorem map_eq_error_iff {x : Except ε α} {f : α → β} {e : ε} :
    x.map f = .error e ↔ x = .error e :=
  bind_eq_error_iff (f := fun a => .ok (f a)) fun _ => nofun

theorem exists_of_isOk {x : Except ε α} (h : x.isOk = true) : ∃ a, x = .ok a := by
  cases x with
  | error e => cases h
  | ok a => exact ⟨a, rfl⟩

theorem mem_toOption {x : Except ε α} {a : α} : a ∈ x.toOption ↔ x = .ok a := by
  cases x with
  | error e => exact ⟨nofun, nofun⟩
  | ok b =>
    show some b = some a ↔ _
    rw [Option.some_inj, Except.ok.injEq]

theorem pure_eq_ok {a b : α} : (pure a : Except ε α) = .ok b ↔ a = b := by
  simp [pure, Except.pure]

/-- what holds at first and is kept by every step that ends well holds at the end -/
theorem foldlM_keeps {P : β → Prop} {f : β → α → Except ε β} {l : List α} {b last : β} (first : P b)
    (keeps : ∀ b a next, P b → f b a = .ok next → P next) (ok : l.foldlM f b = .ok last) :
    P last := by
  induction l generalizing b with
  | nil =>
    cases ok
    exact first
  | cons a l ih =>
    rw [List.foldlM_cons, bind_eq_ok] at ok
    obtain ⟨next, here, ok⟩ := ok
    exact ih (keeps b a next first here) ok

/-- a row of steps fails with what the first step that fails does -/
theorem foldlM_eq_error_iff {f : β → α → Except ε β} {l : List α} {b : β} {e : ε} :
    l.foldlM f b = .error e ↔ ∃ before a after mid, l = before ++ a :: after ∧
      before.foldlM f b = .ok mid ∧ f mid a = .error e := by
  constructor
  · intro fails
    induction l generalizing b with
    | nil => cases fails
    | cons a l ih =>
      rw [List.foldlM_cons] at fails
      cases here : f b a with
      | error _ =>
        rw [here] at fails
        cases fails
        exact ⟨[], a, l, b, rfl, rfl, here⟩
      | ok next =>
        rw [here] at fails
        obtain ⟨before, x, after, mid, rfl, ok, stops⟩ := ih fails
        refine ⟨a :: before, x, after, mid, rfl, ?_, stops⟩
        rw [List.foldlM_cons, here]
        exact ok
  · rintro ⟨before, a, after, mid, rfl, ok, stops⟩
    rw [List.foldlM_append, ok]
    show List.foldlM f mid (a :: after) = _
    rw [List.foldlM_cons, stops]
    rfl

theorem refuse_eq_ok {P : Prop} [Decidable P] {e : ε} {x : Except ε α} {a : α} :
    (if P then .error e else x) = .ok a ↔ ¬P ∧ x = .ok a := by
  split
  · next held => exact ⟨nofun, fun given => absurd held given.1⟩
  · next held => exact ⟨fun h => ⟨held, h⟩, And.right⟩

end

/-- however errors are wrapped, what ends well is the same -/
theorem liftM_eq_ok {ε α : Type} {wrap : ε → SubscriptionError} {x : Except ε α} {a : α} :
    letI : MonadLift (Except ε) (Except SubscriptionError) := ⟨fun x => x.mapError wrap⟩
    (liftM x : Except SubscriptionError α) = .ok a ↔ x = .ok a := by
  cases x with
  | error e => exact iff_of_false nofun nofun
  | ok b =>
    show Except.ok b = Except.ok a ↔ _
    rw [Except.ok.injEq, Except.ok.injEq]

/-! ## a storage in order -/

def Storage.InOrder (s : Storage) : Prop := s.down = []

theorem Storage.InOrder.read {s : Storage} (h : s.InOrder) {α : Type} (m : StoreMethod)
    (query : Store → α) : s.read m query = .ok (query s.store) := by
  unfold Storage.read Storage.isDown
  rw [h]
  rfl

theorem Storage.InOrder.write_of_ok {s : Storage} (h : s.InOrder) {w : Write} {store : Store}
    (ok : s.store.apply w = .ok store) :
    s.write w = (.ok (), { s with store := store, writes := s.writes + 1 }) := by
  unfold Storage.write Storage.isDown
  rw [h, ok]
  rfl

theorem Storage.InOrder.write_of_error {s : Storage} (h : s.InOrder) {w : Write} {e : StoreError}
    (refused : s.store.apply w = .error e) :
    s.write w = (.error e, { s with writes := s.writes + 1 }) := by
  unfold Storage.write Storage.isDown
  rw [h, refused]
  rfl

section
variable {s : Storage} (order : s.InOrder) {id : Uuid}
include order

theorem requireRecord_eq_ok {r : SubscriptionRecord} :
    s.requireRecord id = .ok r ↔ s.store.record? id = some r := by
  unfold Storage.requireRecord Storage.record?
  rw [order.read]
  cases s.store.record? id with
  | none => exact ⟨nofun, nofun⟩
  | some found => exact pure_eq_ok.trans Option.some_inj.symm

theorem requireBundle_eq_ok {b : Bundle} :
    s.requireBundle id = .ok b ↔ s.store.bundle? id = some b := by
  unfold Storage.requireBundle Storage.bundle?
  rw [order.read]
  cases s.store.bundle? id with
  | none => exact ⟨nofun, nofun⟩
  | some found => exact pure_eq_ok.trans Option.some_inj.symm

theorem snapshotAround_eq_ok {now : Instant} {found : Snapshot} :
    s.snapshotAround id now = .ok found ↔
      ∃ r, s.store.record? id = some r ∧
        found = .take r.bundleId none (s.store.recordsForBundle r.bundleId) now := by
  unfold Storage.snapshotAround Storage.recordsForBundle
  simp only [bind_eq_ok, requireRecord_eq_ok order, order.read, pure_eq_ok]
  constructor
  · intro given
    obtain ⟨r, hr, _, same, rfl⟩ := given
    cases same
    exact ⟨r, hr, rfl⟩
  · intro given
    obtain ⟨r, hr, rfl⟩ := given
    exact ⟨r, hr, _, rfl, rfl⟩

end

theorem Snapshot.require_eq_ok {found : Snapshot} {id : Uuid} {target : Subscription}
    (h : found.require id = .ok target) : target ∈ found.subscriptions := by
  unfold Snapshot.require Snapshot.find? at h
  split at h
  · next hf =>
    cases h
    exact List.mem_of_find?_eq_some hf
  · cases h

theorem Snapshot.id_of_require {found : Snapshot} {id : Uuid} {target : Subscription}
    (h : found.require id = .ok target) : target.id = id := by
  unfold Snapshot.require Snapshot.find? at h
  split at h
  · next hf =>
    cases h
    simpa using List.find?_some hf
  · cases h

/-- the service is in order, works over the catalog and limits keys to `max` -/
structure Service.Serves (s : Service) (c : Catalog) (max : Nat) : Prop where
  catalogs : s.catalogs = ⟨c, false⟩
  inOrder : s.storage.InOrder
  keys : s.maxKeyLength = max

namespace Service
variable {s : Service} {c : Catalog} {max : Nat}

theorem serves_new (c : Catalog) (max : Nat) (cached : Bool) : (new c max cached).Serves c max :=
  ⟨rfl, rfl, rfl⟩

theorem Serves.catalog_eq (h : s.Serves c max) : s.catalog = .ok c := by
  unfold Service.catalog
  rw [h.catalogs]
  rfl

theorem Serves.count (h : s.Serves c max) (samples : List Sample) :
    (s.count samples).Serves c max :=
  ⟨h.catalogs, h.inOrder, h.keys⟩

/-! ## effects -/

end Service

/-- the change an effect makes to the store -/
def Effect.write? : Effect → Option Write
  | .write w => some w
  | _ => none

namespace Service
variable {c : Catalog} {max : Nat}

theorem perform_of_ok {s : Service} (h : s.Serves c max) {effects : List Effect} {store : Store}
    (ok : (effects.filterMap Effect.write?).foldlM Store.apply s.storage.store = .ok store) :
    (s.perform effects).1 = .ok () ∧ (s.perform effects).2.storage.store = store ∧
      (s.perform effects).2.Serves c max := by
  induction effects generalizing s with
  | nil =>
    cases ok
    exact ⟨rfl, rfl, h⟩
  | cons e rest ih =>
    cases e with
    | write w =>
      change ((w :: rest.filterMap Effect.write?).foldlM Store.apply s.storage.store) = _ at ok
      rw [List.foldlM_cons, bind_eq_ok] at ok
      obtain ⟨next, hw, ok⟩ := ok
      unfold perform
      rw [h.inOrder.write_of_ok hw]
      exact ih ⟨h.catalogs, h.inOrder, h.keys⟩ ok
    | learn lookup id value => exact ih ⟨h.catalogs, h.inOrder, h.keys⟩ ok
    | count sample => exact ih (h.count [sample]) ok

/-! ## calls -/

section
variable {α : Type} (m : Method)

theorem enact_snd (s : Service) (d : Decision α) : (s.enact d).2 = (s.perform d.effects).2 := by
  unfold enact
  generalize s.perform d.effects = o
  obtain ⟨done, after⟩ := o
  cases done <;> rfl

/-- a call that is answered has decided, and answers with what was decided -/
theorem carryOut_eq_ok {s : Service} {decision : Except SubscriptionError (Decision α)} {a : α}
    (ok : (s.carryOut m decision).1 = .ok a) :
    ∃ d storage, decision = .ok d ∧ d.answer storage = .ok a := by
  cases decision with
  | error e => cases ok
  | ok d =>
    change (s.enact d).1 = .ok a at ok
    unfold enact at ok
    split at ok
    · exact ⟨d, _, rfl, ok⟩
    · cases ok

theorem carryOut_of_ok {s : Service} (h : s.Serves c max) {d : Decision α} {store : Store}
    (ok : (d.effects.filterMap Effect.write?).foldlM Store.apply s.storage.store = .ok store) :
    (s.carryOut m (.ok d)).2.storage.store = store ∧ (s.carryOut m (.ok d)).2.Serves c max ∧
      (s.carryOut m (.ok d)).1 = d.answer (s.carryOut m (.ok d)).2.storage := by
  obtain ⟨done, left, serves⟩ := perform_of_ok h ok
  have enacted : s.carryOut m (.ok d) =
      Service.observe m (d.answer (s.perform d.effects).2.storage, (s.perform d.effects).2) := by
    show Service.observe m (s.enact d) = _
    unfold enact
    generalize s.perform d.effects = o at done
    obtain ⟨_, after⟩ := o
    cases done
    rfl
  rw [enacted]
  exact ⟨left, serves.count _, rfl⟩

end

end Service

end SubscriptionBundles
