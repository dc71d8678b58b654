import SubscriptionBundles.Proofs.Outcomes
import SubscriptionBundles.Proofs.StoreChanges
import SubscriptionBundles.Service.Subscriptions

/-!
# Stored identities

The bundle of a subscription and the account of a bundle are settled when they are stored.  A write
adds to them or leaves them alone, whatever identifiers it is given.

* `Store.identities`            what the store answers to a lookup, in the order of creation;
* `loadIdentity_eq`             a lookup takes the first of them;
* `Store.identities_of_apply`   a write adds its own at the end;
* `Functional`                  one name, one value;
* `Store.Settled`               names stand for one thing, and records are in stored bundles;
* `Store.Settled.apply`         a write leaves it so, if the records it adds are in one bundle.
-/

namespace SubscriptionBundles

/-! ## pairs of a name and a value -/

theorem map_find?_eq_lookup {α : Type} (key value : α → Uuid) (l : List α) (id : Uuid) :
    (l.find? (key · == id)).map value = (l.map fun a => (key a, value a)).lookup id := by
  induction l with
  | nil => rfl
  | cons a l ih =>
    rw [List.map_cons, List.lookup_cons, List.find?_cons, ih.symm, BEq.comm (a := id)]
    cases key a == id <;> rfl

theorem map_changeFirst {α β : Type} (p : α → Bool) (change : α → α) (f : α → β)
    (keeps : ∀ a, f (change a) = f a) (l : List α) :
    (Store.changeFirst p change l).map f = l.map f := by
  induction l with
  | nil => rfl
  | cons a l ih =>
    unfold Store.changeFirst
    split
    · rw [List.map_cons, List.map_cons, keeps]
    · rw [List.map_cons, List.map_cons, ih]

/-- one name, one value -/
def Functional (l : List (Uuid × Uuid)) : Prop := ∀ a ∈ l, ∀ b ∈ l, a.1 = b.1 → a.2 = b.2

theorem mem_of_lookup {l : List (Uuid × Uuid)} {id value : Uuid} (h : l.lookup id = some value) :
    (id, value) ∈ l := by
  obtain ⟨earlier, later, rfl, _⟩ := List.lookup_eq_some_iff.1 h
  exact List.mem_append_right _ List.mem_cons_self

theorem Functional.lookup_eq {l : List (Uuid × Uuid)} (h : Functional l) {a : Uuid × Uuid}
    (ha : a ∈ l) : l.lookup a.1 = some a.2 := by
  cases found : l.lookup a.1 with
  | none =>
    have other := List.lookup_eq_none_iff.1 found a ha
    simp at other
  | some value => exact congrArg some (h _ (mem_of_lookup found) _ ha rfl)

theorem Functional.append {l more : List (Uuid × Uuid)} (h : Functional l) (own : Functional more)
    (new : ∀ a ∈ more, a.1 ∉ l.map (·.1)) : Functional (l ++ more) := by
  intro a ha b hb same
  rcases List.mem_append.1 ha with ha | ha <;> rcases List.mem_append.1 hb with hb | hb
  · exact h a ha b hb same
  · exact absurd (List.mem_map.2 ⟨a, ha, same⟩) (new b hb)
  · exact absurd (List.mem_map.2 ⟨b, hb, same.symm⟩) (new a ha)
  · exact own a ha b hb same

/-! ## the store -/

def SubscriptionRecord.identity (r : SubscriptionRecord) : Uuid × Uuid := (r.id, r.bundleId)

def Bundle.identity (b : Bundle) : Uuid × Uuid := (b.id, b.accountId)

/-- what may be looked up, in the order of creation -/
def Store.identities (s : Store) : Lookup → List (Uuid × Uuid)
  | .subscriptionToBundle => s.records.map (·.identity)
  | .bundleToAccount => s.bundles.map (·.identity)

/-- what a write adds to it -/
def Write.identities : Write → Lookup → List (Uuid × Uuid)
  | .createBundle b, .bundleToAccount => [b.identity]
  | .createRecords rs, .subscriptionToBundle => rs.map (·.identity)
  | _, _ => []

theorem loadIdentity_eq {s : Storage} (order : s.InOrder) (id : Uuid) (lookup : Lookup) :
    Service.loadIdentity s id lookup = .ok ((s.store.identities lookup).lookup id) := by
  cases lookup with
  | subscriptionToBundle =>
    show s.bundleOfRecord? id = _
    unfold Storage.bundleOfRecord?
    rw [order.read]
    exact congrArg _ (map_find?_eq_lookup _ _ _ _)
  | bundleToAccount =>
    show s.accountOfBundle? id = _
    unfold Storage.accountOfBundle?
    rw [order.read]
    exact congrArg _ (map_find?_eq_lookup _ _ _ _)

section
variable {s later : Store}

theorem Store.identities_updateRecord (id : Uuid) {change : SubscriptionRecord → SubscriptionRecord}
    (keeps : ∀ r, (change r).identity = r.identity) (lookup : Lookup) :
    (s.updateRecord id change).identities lookup = s.identities lookup := by
  cases lookup with
  | subscriptionToBundle => exact map_changeFirst _ _ _ keeps _
  | bundleToAccount => rfl

theorem Store.identities_appendEvents (es : List TransitionEvent) (lookup : Lookup) :
    (es.foldl appendEvent s).identities lookup = s.identities lookup := by
  induction es generalizing s with
  | nil => rfl
  | cons e es ih =>
    rw [List.foldl_cons, ih]
    refine identities_updateRecord _ ?_ lookup
    intro r
    rfl

theorem Store.of_createRecords {rs : List SubscriptionRecord} (h : s.createRecords rs = .ok later) :
    rs.findSome? s.obstacle? = none ∧ later = { s with records := s.records ++ rs } := by
  unfold createRecords at h
  split at h
  · cases h
  · next free =>
    cases h
    exact ⟨free, rfl⟩

theorem Store.of_appendEvents {es : List TransitionEvent} (h : s.appendEvents es = .ok later) :
    later = es.foldl appendEvent s := by
  unfold appendEvents at h
  split at h
  · cases h
  · cases h
    rfl

theorem Store.free_of_createRecords {rs : List SubscriptionRecord}
    (h : s.createRecords rs = .ok later) :
    ∀ r ∈ rs, r.bundleId ∈ s.bundles.map (·.id) ∧ r.id ∉ s.records.map (·.id) := by
  intro r hr
  have clear := List.findSome?_eq_none_iff.1 (of_createRecords h).1 r hr
  unfold obstacle? at clear
  split at clear
  · cases clear
  · next home =>
    split at clear
    · cases clear
    · next new =>
      rw [Option.isNone_iff_eq_none, ← ne_eq, ← Option.isSome_iff_ne_none] at home
      exact ⟨find?_isSome_iff_mem.1 home, fun old => new (find?_isSome_iff_mem.2 old)⟩

/-- a write adds its own at the end -/
theorem Store.identities_of_apply {w : Write} (h : s.apply w = .ok later) (lookup : Lookup) :
    later.identities lookup = s.identities lookup ++ w.identities lookup := by
  cases w with
  | createBundle b =>
    obtain ⟨_, same⟩ := refuse_eq_ok.1 h
    cases same
    cases lookup with
    | subscriptionToBundle => exact (List.append_nil _).symm
    | bundleToAccount => exact List.map_append
  | updateKey id key updatedUtc =>
    obtain ⟨_, same⟩ := refuse_eq_ok.1 h
    cases same
    rw [show (Write.updateKey id key updatedUtc).identities lookup = [] by cases lookup <;> rfl,
      List.append_nil]
    cases lookup with
    | subscriptionToBundle => rfl
    | bundleToAccount =>
      refine map_changeFirst _ _ _ ?_ _
      intro b
      rfl
  | createRecords rs =>
    obtain ⟨_, rfl⟩ := of_createRecords h
    cases lookup with
    | subscriptionToBundle => exact List.map_append
    | bundleToAccount => exact (List.append_nil _).symm
  | appendEvents es =>
    rw [show (Write.appendEvents es).identities lookup = [] by cases lookup <;> rfl,
      List.append_nil]
    obtain rfl := of_appendEvents h
    exact identities_appendEvents es lookup
  | setChargedThrough id date =>
    obtain ⟨_, same⟩ := refuse_eq_ok.1 h
    cases same
    rw [show (Write.setChargedThrough id date).identities lookup = [] by cases lookup <;> rfl,
      List.append_nil]
    refine identities_updateRecord _ ?_ lookup
    intro r
    rfl

/-- what a write adds is named by what was not stored -/
theorem Store.new_of_apply {w : Write} (h : s.apply w = .ok later) (lookup : Lookup) :
    ∀ a ∈ w.identities lookup, a.1 ∉ (s.identities lookup).map (·.1) := by
  intro a ha old
  cases w with
  | createBundle b =>
    obtain ⟨new, _⟩ := refuse_eq_ok.1 h
    cases lookup with
    | subscriptionToBundle => cases ha
    | bundleToAccount =>
      obtain rfl := List.mem_singleton.1 ha
      rw [identities, List.map_map] at old
      exact new (find?_isSome_iff_mem.2 old)
  | createRecords rs =>
    cases lookup with
    | subscriptionToBundle =>
      obtain ⟨r, hr, rfl⟩ := List.mem_map.1 ha
      rw [identities, List.map_map] at old
      exact (Store.free_of_createRecords h r hr).2 old
    | bundleToAccount => cases ha
  | _ => cases lookup <;> cases ha

/-- records are only added to stored bundles -/
theorem Store.home_of_apply {w : Write} (h : s.apply w = .ok later) :
    ∀ a ∈ w.identities .subscriptionToBundle, a.2 ∈ (s.identities .bundleToAccount).map (·.1) := by
  intro a ha
  cases w with
  | createRecords rs =>
    obtain ⟨r, hr, rfl⟩ := List.mem_map.1 ha
    rw [identities, List.map_map]
    exact (Store.free_of_createRecords h r hr).1
  | _ => cases ha

/-! ## settled stores -/

/-- a name stands for one thing, and records are in stored bundles -/
structure Store.Settled (s : Store) : Prop where
  functional : ∀ lookup, Functional (s.identities lookup)
  homes : ∀ a ∈ s.identities .subscriptionToBundle, a.2 ∈ (s.identities .bundleToAccount).map (·.1)

theorem Store.settled_empty : empty.Settled :=
  ⟨fun lookup => by cases lookup <;> exact nofun, nofun⟩

/-- what is added at once gives a name one meaning -/
def Write.Settles (w : Write) : Prop := ∀ lookup, Functional (w.identities lookup)

theorem Store.Settled.apply (h : s.Settled) {w : Write} (settles : w.Settles)
    (ok : s.apply w = .ok later) : later.Settled := by
  refine ⟨?_, ?_⟩
  · intro lookup
    rw [identities_of_apply ok]
    exact (h.functional lookup).append (settles lookup) (new_of_apply ok lookup)
  · rw [identities_of_apply ok, identities_of_apply ok, List.map_append]
    intro a ha
    refine List.mem_append_left _ ?_
    rcases List.mem_append.1 ha with old | new
    · exact h.homes a old
    · exact home_of_apply ok a new

end

end SubscriptionBundles
