import SubscriptionBundles.Proofs.LaterCalls

/-!
# The keys of bundles, turn by turn

An answered turn leaves every bundle it finds with a key, and adds bundles with keys of their own.

* `Turn.leftKey`             the key that a turn leaves a bundle with;
* `Turn.GivesUp`             a turn takes a key from a bundle;
* `Turn.leftKey_eq`          a key that changes is given up, or another is given for it;
* `PlannedAll.taken_short`   the keys that a call takes are short;
* `Store.Leaves`             every bundle stays, with a key of its own, and new ones have short keys;
* `Step.leaves`              an answered turn leaves the bundles like this.
-/

namespace SubscriptionBundles

open Service (Turn)

/-! ## what a turn does to a key -/

/-- the key that an answered turn leaves a bundle with -/
def Service.Turn.leftKey (c : Catalog) (t : Turn) (b : Bundle) : Option String :=
  match t.request with
  | .create specifiers rename => b.leftKey t.context.accountId rename (takenKeys c specifiers)
  | .createBundle account key rename => b.leftKey account rename key.toList
  | .updateExternalKey id key => if b.id = id then some key else b.externalKey
  | _ => b.externalKey

/-- a new bundle takes a key from an older one of the account -/
inductive Service.Turn.GivesUp (c : Catalog) (t : Turn) (b : Bundle) (key : String) : Prop
  | create {specifiers : List BundleSpecifier} (request : t.request = .create specifiers true)
      (own : b.accountId = t.context.accountId) (held : b.externalKey = some key)
      (taken : key ∈ takenKeys c specifiers)
  | createBundle (request : t.request = .createBundle b.accountId (some key) true)
      (held : b.externalKey = some key)

theorem Bundle.leftKey_eq {account : Uuid} {rename : Bool} {taken : List String} (b : Bundle) :
    b.leftKey account rename taken = b.externalKey ∨
      ∃ key ∈ taken, rename = true ∧ b.accountId = account ∧ b.externalKey = some key ∧
        b.leftKey account rename taken = some (cancelledKey b.id key) := by
  unfold leftKey
  cases held : b.externalKey with
  | none => exact .inl rfl
  | some key =>
    rw [Option.map_some]
    split
    · next gives =>
      simp only [Bool.and_eq_true, beq_iff_eq, List.contains_iff_mem] at gives
      obtain ⟨flag, own, taken⟩ := gives
      exact .inr ⟨key, taken, flag, own, rfl, rfl⟩
    · exact .inl rfl

namespace Service.Turn
variable {c : Catalog} {t : Turn} {b : Bundle} {key : String}

theorem GivesUp.held (h : t.GivesUp c b key) : b.externalKey = some key := by
  cases h with
  | create _ _ held | createBundle _ held => exact held

theorem GivesUp.leftKey (h : t.GivesUp c b key) : t.leftKey c b = some (cancelledKey b.id key) := by
  unfold Turn.leftKey
  cases h with
  | create request own held taken =>
    rw [request]
    unfold Bundle.leftKey
    simp [held, own, taken]
  | createBundle request held =>
    rw [request]
    unfold Bundle.leftKey
    simp [held]

/-- a bundle keeps its key, gives it up or is given another -/
theorem leftKey_eq (c : Catalog) (t : Turn) (b : Bundle) :
    t.leftKey c b = b.externalKey ∨
      (∃ key, t.GivesUp c b key ∧ t.leftKey c b = some (cancelledKey b.id key)) ∨
      ∃ key, t.request = .updateExternalKey b.id key ∧ t.leftKey c b = some key := by
  unfold Turn.leftKey
  cases request : t.request with
  | create specifiers rename =>
    refine b.leftKey_eq.imp_right fun gives => .inl ?_
    obtain ⟨key, taken, rfl, own, held, left⟩ := gives
    exact ⟨key, .create request own held taken, left⟩
  | createBundle account key rename =>
    refine b.leftKey_eq.imp_right fun gives => .inl ?_
    obtain ⟨k, taken, rfl, rfl, held, left⟩ := gives
    cases key with
    | none => cases taken
    | some own =>
      obtain rfl := List.mem_singleton.1 taken
      exact ⟨k, .createBundle request held, left⟩
  | updateExternalKey id key =>
    by_cases same : b.id = id
    · subst same
      exact .inr (.inr ⟨key, rfl, if_pos rfl⟩)
    · exact .inl (if_neg same)
  | _ => exact .inl rfl

end Service.Turn

/-! ## what an answered turn leaves -/

section
variable {s : Service} {ctx : Context} {c : Catalog} {ids : Nat → Uuid} {rename : Bool}
  {p q : Progress} {specs : List BundleSpecifier} {bs : List PlannedBatch}

/-- no new bundle is given a long key -/
theorem PlannedAll.short (order : s.storage.InOrder)
    (all : PlannedAll s ctx c ids rename p specs bs q) :
    ∀ b ∈ bs.filterMap (·.newBundle?), ∀ key ∈ b.externalKey, key.length ≤ s.maxKeyLength := by
  intro new added key carries
  obtain ⟨b, hb, hn⟩ := List.mem_filterMap.1 added
  obtain ⟨_, _, _, _, here⟩ := all.of_mem b hb
  have aim := here.aim order
  unfold PlannedBatch.newBundle? at hn
  generalize b.target = target at aim hn
  cases aim with
  | named | keyed => cases hn
  | new _ _ free =>
    cases hn
    exact (free key carries).1

/-- the keys that a call takes are short -/
theorem PlannedAll.taken_short (order : s.storage.InOrder)
    (all : PlannedAll s ctx c ids rename p specs bs q) :
    ∀ key ∈ takenKeys c specs, key.length ≤ s.maxKeyLength := by
  intro key taken
  rw [← all.taken_eq order, PlannedBatch.filterMap_takenKey?] at taken
  obtain ⟨b, added, carries⟩ := List.mem_filterMap.1 taken
  exact all.short order b added key carries

end

theorem Service.updateExternalKey_short {s : Service} {ctx : Context} {ids : Nat → Uuid} {id : Uuid}
    {key : String} {a : Answer} (ok : (s.handle ctx ids (.updateExternalKey id key)).1 = .ok a) :
    key.length ≤ s.maxKeyLength := by
  obtain ⟨d, hd⟩ := exists_decision ok
  obtain ⟨_, short, _⟩ := bind_eq_ok.1 hd
  exact checkKeyLength_eq_ok.1 short

/-- the bundles that were there, each with the key it is left with, and new ones with short keys -/
def Store.Leaves (s later : Store) (left : Bundle → Option String) (max : Nat) : Prop :=
  ∃ (touch : Bundle → Bundle) (added : List Bundle),
    later.bundles = s.bundles.map touch ++ added ∧
      (∀ b ∈ s.bundles, (touch b).id = b.id ∧ (touch b).externalKey = left b) ∧
      ∀ b ∈ added, b.id ∉ s.bundleIds ∧ ∀ key ∈ b.externalKey, key.length ≤ max

namespace Store.Leaves
variable {s later : Store} {left : Bundle → Option String} {max : Nat}

theorem of_bundles (same : later.bundles = s.bundles) (kept : ∀ b, left b = b.externalKey) :
    s.Leaves later left max :=
  ⟨id, [], by rw [same, List.map_id, List.append_nil], fun b _ => ⟨rfl, (kept b).symm⟩,
    List.forall_mem_nil _⟩

theorem commit {now : Instant} {bs : List PlannedBatch} (takes : s.Takes bs)
    (renamed : ∀ b ∈ s.bundles, (b.after now bs).externalKey = left b)
    (short : ∀ b ∈ bs.filterMap (·.newBundle?), ∀ key ∈ b.externalKey, key.length ≤ max) :
    s.Leaves (s.commit now bs) left max := by
  refine ⟨_, _, rfl, fun b stored => ⟨Bundle.after_id _ _ _, renamed b stored⟩, ?_⟩
  intro b added
  obtain ⟨batch, hb, hn⟩ := List.mem_filterMap.1 added
  exact ⟨takes.not_mem_of_newBundle? hb hn, short b added⟩

end Store.Leaves

namespace Step
variable {s : Service} {c : Catalog} {t : Turn} {a : Answer} {store : Store}
  (order : s.storage.InOrder) (sound : s.store.Sound) (h : Step s c t (.ok a) store)
include order h

/-- what is given up was short enough for a new bundle -/
theorem givesUp_short {b : Bundle} {key : String} (gives : t.GivesUp c b key) :
    key.length ≤ s.maxKeyLength := by
  have ended := h.of_ok
  cases gives with
  | create request _ _ taken =>
    rw [request] at ended
    obtain ⟨bs, q, all, _⟩ := ended
    exact all.taken_short order key taken
  | createBundle request _ =>
    rw [request] at ended
    obtain ⟨p, planned, _⟩ := ended
    exact (((planBundle_eq_ok order).1 planned).2 key rfl).1

include sound

/-- an answered turn leaves every bundle with the key that it says -/
theorem leaves : s.store.Leaves store (t.leftKey c) s.maxKeyLength := by
  have ended := h.of_ok
  cases request : t.request with
  | create specifiers rename =>
    rw [request] at ended
    obtain ⟨bs, q, all, takes, _, rfl⟩ := ended
    refine .commit takes ?_ (all.short order)
    intro b stored
    unfold Turn.leftKey
    rw [request]
    exact all.externalKey_after order sound stored
  | createBundle account key rename =>
    rw [request] at ended
    obtain ⟨p, planned, takes, rfl⟩ := ended
    obtain ⟨rfl, free⟩ := (planBundle_eq_ok order).1 planned
    refine .commit takes ?_ ?_
    · intro b stored
      unfold Turn.leftKey
      rw [request]
      refine externalKey_renamedBy _ sound ?_ stored
      intro r
      rw [List.flatMap_singleton]
      exact mem_renames.trans (by simp)
    · intro b added k carries
      obtain ⟨batch, hb, hn⟩ := List.mem_filterMap.1 added
      rw [List.mem_singleton] at hb
      rw [hb] at hn
      cases hn
      exact (free k carries).1
  | updateExternalKey id key =>
    rw [request] at ended
    refine ⟨Bundle.renamedBy t.context.now [(id, key)], [], ?_, ?_, List.forall_mem_nil _⟩
    · rw [ended, List.append_nil]
      rfl
    · intro b _
      refine ⟨Bundle.renamedBy_id _ _ _, ?_⟩
      unfold Turn.leftKey
      rw [request]
      by_cases same : b.id = id
      · subst same
        rw [Bundle.renamedBy_self]
        exact (if_pos rfl).symm
      · rw [Bundle.renamedBy_of_not_mem (by simpa using same)]
        exact (if_neg same).symm
  | cancel | updateBillCycleDay =>
    rw [request] at ended
    obtain ⟨events, _, rfl⟩ := ended
    exact .of_bundles rfl fun b => by rw [Turn.leftKey, request]
  | setChargedThrough =>
    rw [request] at ended
    rw [ended]
    exact .of_bundles rfl fun b => by rw [Turn.leftKey, request]
  | _ =>
    rw [request] at ended
    rw [ended]
    exact .of_bundles rfl fun b => by rw [Turn.leftKey, request]

/-- a bundle that was there, with the key it is left with -/
theorem exists_bundle {b : Bundle} (stored : b ∈ s.store.bundles) :
    ∃ b' ∈ store.bundles, b'.id = b.id ∧ b'.externalKey = t.leftKey c b := by
  obtain ⟨touch, added, bundles, left, _⟩ := leaves order sound h
  refine ⟨touch b, ?_, left b stored⟩
  rw [bundles]
  exact List.mem_append_left _ (List.mem_map_of_mem stored)

/-- what is left was there, or is new -/
theorem bundle_cases {b' : Bundle} (mem : b' ∈ store.bundles) :
    (∃ b ∈ s.store.bundles, b'.id = b.id ∧ b'.externalKey = t.leftKey c b) ∨
      (b'.id ∉ s.store.bundleIds ∧ ∀ key ∈ b'.externalKey, key.length ≤ s.maxKeyLength) := by
  obtain ⟨touch, added, bundles, left, new⟩ := leaves order sound h
  rw [bundles, List.mem_append, List.mem_map] at mem
  refine mem.imp ?_ (new b')
  intro old
  obtain ⟨b, stored, rfl⟩ := old
  exact ⟨b, stored, left b stored⟩

end Step

end SubscriptionBundles
