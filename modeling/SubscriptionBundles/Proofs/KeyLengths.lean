import SubscriptionBundles.Proofs.TurnKeys

/-!
# How long a key may grow

A new key is checked against the limit, but the key that a bundle is left with when it gives its own
up is not.

* `Store.KeysWithin`           no bundle carries a key beyond a length;
* `Turn.Overfills`             a turn takes a key from a bundle and leaves it one that is too long;
* `Step.keysWithin`            nothing else makes a key too long;
* `Service.keys_within_iff`    keys stay within the limit just if no turn does, and never exceed it
                               by more than the mark of a bundle that gave its key up.
-/

namespace SubscriptionBundles

open Service (Turn)

/-- no bundle carries a key of more than so many characters -/
def Store.KeysWithin (s : Store) (limit : Nat) : Prop :=
  ∀ b ∈ s.bundles, ∀ key ∈ b.externalKey, key.length ≤ limit

instance (s : Store) (limit : Nat) : Decidable (s.KeysWithin limit) :=
  inferInstanceAs (Decidable (∀ _ ∈ _, _))

/-- a key is taken from a bundle, and the bundle is left with one of more than so many characters -/
def Service.Turn.Overfills (c : Catalog) (limit : Nat) (s : Store) (t : Turn) : Prop :=
  ∃ b ∈ s.bundles, ∃ key, t.GivesUp c b key ∧ limit < (cancelledKey b.id key).length

/-! ## one turn -/

section
variable {s : Service} {c : Catalog} {t : Turn} {a : Answer} {store : Store} {max limit : Nat}

theorem Step.keysWithin (serves : s.Serves c max) (sound : s.store.Sound)
    (h : Step s c t (.ok a) store) (le : max ≤ limit)
    (asked : ∀ id key, t.request = .updateExternalKey id key → key.length ≤ max)
    (spared : ¬t.Overfills c limit s.store) (within : s.store.KeysWithin limit) :
    store.KeysWithin limit := by
  intro b' mem key carries
  rcases h.bundle_cases serves.inOrder sound mem with ⟨b, stored, _, left⟩ | ⟨_, short⟩
  · rw [left, Option.mem_def] at carries
    rcases t.leftKey_eq c b with kept | ⟨own, gives, marked⟩ | ⟨own, request, given⟩
    · exact within b stored key (kept ▸ carries)
    · obtain rfl := Option.some.inj (marked.symm.trans carries)
      refine Nat.not_lt.1 fun long => spared ?_
      exact ⟨b, stored, own, gives, long⟩
    · obtain rfl := Option.some.inj (given.symm.trans carries)
      exact Nat.le_trans (asked _ _ request) le
  · rw [serves.keys] at short
    exact Nat.le_trans (short key carries) le

end

/-! ## every turn -/

namespace Service
variable (c : Catalog) (max : Nat) (cached : Bool) {turns : List Turn}

/-- keys stay within a length that no turn overfills -/
theorem always_keysWithin (distinct : DistinctIds turns) {limit : Nat} (le : max ≤ limit)
    (spared : (new c max cached).Never turns (Turn.Overfills c limit)) :
    (new c max cached).Always turns fun s _ => s.KeysWithin limit := by
  refine always_of_kept ?_ ?_
  · intro b stored
    cases stored
  · intro earlier t part within
    obtain ⟨serves, sound, _⟩ := reached c max cached distinct part
    have step := reached_step c max cached distinct part
    cases ended : (((new c max cached).after earlier).turn t).1 with
    | error e =>
      rw [ended] at step
      rw [step.of_error]
      exact within
    | ok a =>
      rw [ended] at step
      refine step.keysWithin serves sound le ?_ (spared earlier t a part ended) within
      intro id key request
      unfold turn at ended
      rw [request] at ended
      exact serves.keys ▸ updateExternalKey_short ended

/-- what is given up was within the limit, and the mark of it has 47 characters -/
theorem never_overfills (distinct : DistinctIds turns) :
    (new c max cached).Never turns (Turn.Overfills c (max + 47)) := by
  intro earlier t a part ended overfills
  obtain ⟨b, _, key, gives, long⟩ := overfills
  obtain ⟨serves, _⟩ := reached c max cached distinct part
  have step := reached_step c max cached distinct part
  rw [ended] at step
  have short := step.givesUp_short serves.inOrder gives
  rw [serves.keys] at short
  rw [length_cancelledKey] at long
  omega

/-- in every run, keys stay within the limit just if no key is given up that is too long for it with
the mark of its bundle, and within 47 characters more in any case -/
theorem keys_within_iff (distinct : DistinctIds turns) :
    (new c max cached).Always turns (fun s _ => s.KeysWithin (max + 47)) ∧
      ((new c max cached).Always turns (fun s _ => s.KeysWithin max) ↔
        (new c max cached).Never turns (Turn.Overfills c max)) := by
  refine ⟨?_, ?_, ?_⟩
  · exact always_keysWithin c max cached distinct (Nat.le_add_right _ _)
      (never_overfills c max cached distinct)
  · intro within earlier t a part ended overfills
    obtain ⟨b, stored, key, gives, long⟩ := overfills
    obtain ⟨serves, sound, _⟩ := reached c max cached distinct part
    have step := reached_step c max cached distinct part
    rw [ended] at step
    obtain ⟨b', mem, _, left⟩ := step.exists_bundle serves.inOrder sound stored
    rw [gives.leftKey] at left
    exact Nat.not_lt.2 (within earlier t part b' mem _ left) long
  · exact always_keysWithin c max cached distinct (Nat.le_refl _)

end Service

/-! ## a key given up -/

/-- a bundle gives up a key of 3 characters -/
def carTaken : List Turn :=
  [Shop.turn 1 (.createBundle Shop.owner (some "car") false),
    Shop.turn 2 (.createBundle Shop.owner (some "car") true)]

theorem keys_within_iff_carTaken :
    DistinctIds carTaken ∧
      (Service.new Shop.catalog 50 true).Always carTaken (fun s _ => s.KeysWithin (50 + 47)) ∧
      ((Service.new Shop.catalog 50 true).Always carTaken (fun s _ => s.KeysWithin 50) ↔
        (Service.new Shop.catalog 50 true).Never carTaken (Turn.Overfills Shop.catalog 50)) :=
  ⟨by decide, Service.keys_within_iff Shop.catalog 50 true (by decide)⟩

/-- it is left with one of 50, whatever the limit -/
theorem carTaken_beyond_limit :
    DistinctIds carTaken ∧ ((Service.new Shop.catalog 49 true).after carTaken).store.KeysWithin 50 ∧
      ¬((Service.new Shop.catalog 49 true).after carTaken).store.KeysWithin 49 := by
  decide +kernel

end SubscriptionBundles
