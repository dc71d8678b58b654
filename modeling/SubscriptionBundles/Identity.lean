import SubscriptionBundles.Uuid.Basic

/-!
# Identity lookups

Which bundle a subscription belongs to and which account a bundle belongs to.  Neither ever
changes, so an answer found once is kept.

* `Lookup`                 the two questions;
* `IdentityCache.known?`   the answer that is kept;
* `IdentityCache.learn`    keeps an answer, unless there is one;
* `IdentityCache.resolve`  the answer kept, or else the one loaded; a load that fails finds nothing.

A cache that is switched off keeps nothing and loads every time.
-/

namespace SubscriptionBundles

inductive Lookup
  | subscriptionToBundle
  | bundleToAccount
deriving DecidableEq

namespace Lookup

def label : Lookup → String
  | subscriptionToBundle => "subscription_to_bundle"
  | bundleToAccount => "bundle_to_account"

def all : List Lookup := [subscriptionToBundle, bundleToAccount]

end Lookup

inductive LookupOutcome
  | hit
  | loaded
  | notFound
  | failed
deriving DecidableEq

def LookupOutcome.label : LookupOutcome → String
  | hit => "hit"
  | loaded => "loaded"
  | notFound => "not_found"
  | failed => "error"

structure IdentityCache where
  isEnabled : Bool
  entries : List ((Lookup × Uuid) × Uuid)
deriving DecidableEq

/-- an answer, how it was come by, and the cache from then on -/
structure Resolution where
  value : Option Uuid
  outcome : LookupOutcome
  cache : IdentityCache

namespace IdentityCache

def empty (isEnabled : Bool) : IdentityCache := ⟨isEnabled, []⟩

def size (c : IdentityCache) : Nat := c.entries.length

def known? (c : IdentityCache) (lookup : Lookup) (id : Uuid) : Option Uuid :=
  if c.isEnabled then c.entries.lookup (lookup, id) else none

def learn (c : IdentityCache) (lookup : Lookup) (id value : Uuid) : IdentityCache :=
  if c.isEnabled && (c.known? lookup id).isNone then
    { c with entries := ((lookup, id), value) :: c.entries }
  else c

/-- `load` is what the store would answer; it counts only when nothing is kept -/
def resolve {ε : Type} (c : IdentityCache) (lookup : Lookup) (id : Uuid)
    (load : Except ε (Option Uuid)) : Resolution :=
  match c.known? lookup id with
  | some value => ⟨some value, .hit, c⟩
  | none =>
    match load with
    | .ok (some value) => ⟨some value, .loaded, c.learn lookup id value⟩
    | .ok none => ⟨none, .notFound, c⟩
    | .error _ => ⟨none, .failed, c⟩

/-! ## small laws -/

@[simp] theorem learn_isEnabled (c : IdentityCache) (lookup : Lookup) (id value : Uuid) :
    (c.learn lookup id value).isEnabled = c.isEnabled := by
  unfold learn
  split <;> rfl

theorem learn_of_disabled {c : IdentityCache} (off : c.isEnabled = false) (lookup : Lookup)
    (id value : Uuid) : c.learn lookup id value = c := by
  simp [learn, off]

theorem known?_learn_self {c : IdentityCache} (on : c.isEnabled = true) (lookup : Lookup)
    (id value : Uuid) :
    (c.learn lookup id value).known? lookup id = some ((c.known? lookup id).getD value) := by
  unfold learn
  cases found : c.known? lookup id with
  | none => simp [known?, on]
  | some other => simp [found]

theorem known?_learn_of_ne {c : IdentityCache} {lookup other : Lookup} {id name : Uuid}
    (different : (other, name) ≠ (lookup, id)) (value : Uuid) :
    (c.learn lookup id value).known? other name = c.known? other name := by
  unfold learn
  split
  · simp [known?, List.lookup_cons, beq_eq_false_iff_ne.2 different]
  · rfl

end IdentityCache

end SubscriptionBundles
