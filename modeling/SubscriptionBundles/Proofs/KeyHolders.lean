import SubscriptionBundles.Proofs.LaterCalls

/-!
# The holder of a new key

A key that a creation gives to a new bundle leads to that bundle.  If the creation was told to take it
from others, no other bundle of the account carries it any more, and none that had to give it up was
active.

* `PlannedAll.single_new`         a call that makes one bundle, a new one;
* `PlannedAll.find?_new`          its key leads to it, if no older bundle gains an anchor;
* `Store.HandsOver`               a new bundle takes a key over from others of its account;
* `PlannedAll.handsOver`          so it is where one key is taken and others are to be renamed;
* `Service.created_bundle_found`  what is found and who carries the key after a creation.
-/

namespace SubscriptionBundles

open Service (Turn)

/-! ## a call for one bundle -/

theorem PlannedAll.single_new {s : Service} {ctx : Context} {c : Catalog} {ids : Nat → Uuid}
    {rename : Bool} {q : Progress} {spec : BundleSpecifier} {bs : List PlannedBatch}
    (order : s.storage.InOrder) (all : PlannedAll s ctx c ids rename .start [spec] bs q)
    {made : SubscriptionBundle} (answered : bs.map (·.answer ctx.now) = [made])
    (new : made.bundle.id ∉ s.store.bundleIds) :
    bs.filterMap (·.newBundle?) = [made.bundle] ∧ spec.bundleId = none := by
  cases all with
  | skip _ _ later =>
    cases later
    cases answered
  | plan here later =>
    cases later
    next b =>
    have shown : b.target.bundle = made.bundle :=
      congrArg SubscriptionBundle.bundle (List.cons.inj answered).1
    cases held : b.newBundle? with
    | none =>
      obtain ⟨stored, mem, _, target⟩ := here.stored order held
      rw [target] at shown
      rw [← shown] at new
      exact absurd (List.mem_map_of_mem mem) new
    | some own =>
      have same : own = made.bundle := (PlannedBatch.bundle_of_newBundle? held).symm.trans shown
      refine ⟨?_, ((here.newBundle?_eq_some_iff order).1 held).1⟩
      rw [List.filterMap_cons_some held, same]
      rfl

theorem anchorsInto_single (c : Catalog) {spec : BundleSpecifier} (unnamed : spec.bundleId = none)
    (id : Uuid) : anchorsInto c [spec] id = 0 := by
  rw [anchorsInto_cons, unnamed, if_neg nofun]
  rfl

/-- A new bundle is the only one of its account that carries a key.  Who had it carries a longer one,
and none that was given another key was active. -/
structure Store.HandsOver (s later : Store) (ctx : Context) (key : String) (new : Bundle) : Prop where
  stored : new ∈ later.bundles
  own : new.accountId = ctx.accountId
  only : ∀ b ∈ later.bundles, b.accountId = ctx.accountId → b.externalKey = some key → b = new
  given : ∀ old ∈ s.bundles, old.accountId = ctx.accountId → old.externalKey = some key →
    ∃ left ∈ later.bundles, left.id = old.id ∧ left.externalKey = some (cancelledKey old.id key)
  inactive : ∀ old ∈ s.bundles, ∀ left ∈ later.bundles, left.id = old.id →
    left.externalKey ≠ old.externalKey → s.isActive ctx.now old = false

section
variable {s : Service} {ctx : Context} {c : Catalog} {ids : Nat → Uuid} {rename : Bool}
  {q : Progress} {specs : List BundleSpecifier} {bs : List PlannedBatch}
  (order : s.storage.InOrder) (sound : s.store.Sound)
  (all : PlannedAll s ctx c ids rename .start specs bs q)
include order sound all

/-! ## who is found -/

/-- the key of a new bundle leads to it, unless the call gives an older bundle an anchor -/
theorem PlannedAll.find?_new (takes : s.store.Takes bs) {new : Bundle}
    (added : new ∈ bs.filterMap (·.newBundle?)) {key : String} (keyed : new.externalKey = some key)
    (apart : ∀ b ∈ s.store.bundles, anchorsInto c specs b.id = 0) :
    ((s.store.commit ctx.now bs).bundlesForKey key).find?
      ((s.store.commit ctx.now bs).isActive ctx.now) = some new := by
  have taken := PlannedBatch.key_taken added keyed
  have none : s.store.foundBy c ctx rename specs key = none := by
    unfold Store.foundBy
    rw [List.find?_eq_none]
    intro old stored found
    rw [Bool.and_eq_true, beq_iff_eq, apart old stored, Bool.or_eq_true] at found
    obtain ⟨left, active | gains⟩ := found
    · -- an active bundle keeps its key, and that is none that is taken
      rw [← all.externalKey_after order sound stored,
        after_of_active order all sound stored active] at left
      have ended := ((all.taken_free order).2 key taken).2 old stored left
      rw [active] at ended
      cases ended
    · cases gains
  rw [all.bundlesForKey_find? order sound takes, none, Option.map_none, Option.none_or]
  cases found : (bs.filterMap (·.newBundle?)).find? (·.externalKey == some key) with
  | none => exact absurd (beq_iff_eq.2 keyed) (List.find?_eq_none.1 found new added)
  | some other =>
    have carries : other.externalKey = some key := by simpa using List.find?_some found
    rw [all.new_eq order (List.mem_of_find?_eq_some found) added carries keyed]

/-! ## who carries the key -/

/-- a bundle that had the key gives it up -/
theorem PlannedAll.externalKey_given (renames : rename = true) {key : String}
    (taken : key ∈ takenKeys c specs) {old : Bundle} (stored : old ∈ s.store.bundles)
    (own : old.accountId = ctx.accountId) (held : old.externalKey = some key) :
    (old.after ctx.now bs).externalKey = some (cancelledKey old.id key) := by
  rw [all.externalKey_after order sound stored]
  unfold Bundle.leftKey
  rw [held, Option.map_some, if_pos]
  simp [renames, own, taken]

/-- where one key is taken, its new bundle is the only one of the account that carries it -/
theorem PlannedAll.holder_eq_new (renames : rename = true) {new : Bundle}
    (alone : bs.filterMap (·.newBundle?) = [new]) {key : String}
    (keyed : new.externalKey = some key) {b : Bundle}
    (held : b ∈ (s.store.commit ctx.now bs).bundles) (own : b.accountId = ctx.accountId)
    (carries : b.externalKey = some key) : b = new := by
  have only : takenKeys c specs = [key] := by
    rw [← all.taken_eq order, PlannedBatch.filterMap_takenKey?, alone,
      List.filterMap_cons_some keyed]
    rfl
  rcases Store.mem_commit.1 held with ⟨old, stored, rfl⟩ | added
  · exfalso
    rw [Bundle.after_accountId] at own
    by_cases had : old.externalKey = some key
    · have taken : key ∈ takenKeys c specs := by
        rw [only]
        exact List.mem_cons_self
      rw [all.externalKey_given order sound renames taken stored own had] at carries
      exact cancelledKey_ne old.id key (Option.some.inj carries)
    · rw [all.externalKey_after order sound stored] at carries
      cases before : old.externalKey with
      | none =>
        unfold Bundle.leftKey at carries
        rw [before] at carries
        cases carries
      | some other =>
        have apart : other ∉ takenKeys c specs := by
          rw [only, List.mem_singleton]
          rintro rfl
          exact had before
        rw [Bundle.leftKey_of_not_mem before apart] at carries
        exact had (before.trans carries)
  · rw [alone] at added
    exact List.mem_singleton.1 added

/-- a bundle whose key is another one afterwards was not active -/
theorem PlannedAll.inactive_of_rekeyed (sound' : (s.store.commit ctx.now bs).Sound) {old left : Bundle}
    (stored : old ∈ s.store.bundles) (kept : left ∈ (s.store.commit ctx.now bs).bundles)
    (named : left.id = old.id) (changed : left.externalKey ≠ old.externalKey) :
    s.store.isActive ctx.now old = false := by
  by_contra active
  rw [Bool.not_eq_false] at active
  have stays : old ∈ (s.store.commit ctx.now bs).bundles :=
    Store.mem_commit.2 (.inl ⟨old, stored, after_of_active order all sound stored active⟩)
  exact changed (congrArg Bundle.externalKey (sound'.bundle_eq kept stays named))

theorem PlannedAll.handsOver (sound' : (s.store.commit ctx.now bs).Sound) (renames : rename = true)
    {new : Bundle} (alone : bs.filterMap (·.newBundle?) = [new]) {key : String}
    (keyed : new.externalKey = some key) :
    s.store.HandsOver (s.store.commit ctx.now bs) ctx key new := by
  have added : new ∈ bs.filterMap (·.newBundle?) := by
    rw [alone]
    exact List.mem_cons_self
  have taken : key ∈ takenKeys c specs := by
    rw [← all.taken_eq order]
    exact PlannedBatch.key_taken added keyed
  refine ⟨Store.mem_commit.2 (.inr added), accountId_new order all added, ?_, ?_, ?_⟩
  · intro b held own carries
    exact all.holder_eq_new order sound renames alone keyed held own carries
  · intro old stored own held
    exact ⟨old.after ctx.now bs, Store.mem_commit.2 (.inl ⟨old, stored, rfl⟩), old.after_id _ _,
      all.externalKey_given order sound renames taken stored own held⟩
  · intro old stored left kept named changed
    exact all.inactive_of_rekeyed order sound sound' stored kept named changed

end

/-! ## every run -/

namespace Service
variable (c : Catalog) (max : Nat) (cached : Bool) {turns : List Turn} {t : Turn}

/-- The key of a new bundle leads to it.  If the call was told to rename, the bundle takes the key
over. -/
theorem created_bundle_found (distinct : DistinctIds (turns ++ [t])) {spec : BundleSpecifier}
    {rename : Bool} (request : t.request = .create [spec] rename) {made : SubscriptionBundle}
    (answered : (((new c max cached).after turns).turn t).1 = .ok (.created [made]))
    (fresh : made.bundle.id ∉ ((new c max cached).after turns).store.bundleIds) {key : String}
    (keyed : made.bundle.externalKey = some key) :
    let s := (new c max cached).after turns
    let later := (s.turn t).2
    (later.activeBundleForKey t.context key).1 = .ok (some made.bundle) ∧
      (rename = true → s.store.HandsOver later.store t.context key made.bundle) := by
  obtain ⟨serves, sound, _⟩ := reached c max cached distinct (List.prefix_refl _)
  have step := reached_step c max cached distinct (List.prefix_refl _)
  obtain ⟨serves', sound', _⟩ := run_sound c max cached distinct
  rw [after_concat] at serves' sound'
  generalize (new c max cached).after turns = s at *
  intro s later
  rw [answered] at step
  have ends := step.of_ok
  rw [request] at ends
  obtain ⟨bs, q, all, takes, same, left⟩ := ends
  obtain ⟨alone, unnamed⟩ :=
    all.single_new serves.inOrder (Answer.created.inj same).symm fresh
  have store : later.store = s.store.commit t.context.now bs := left
  constructor
  · have added : made.bundle ∈ bs.filterMap (·.newBundle?) := by
      rw [alone]
      exact List.mem_cons_self
    show later.storage.activeBundleForKey? key t.context.now = _
    rw [activeBundleForKey?_eq serves'.inOrder]
    show Except.ok ((later.store.bundlesForKey key).find? (later.store.isActive t.context.now)) = _
    rw [store, all.find?_new serves.inOrder sound takes added keyed fun b _ =>
      anchorsInto_single c unnamed b.id]
  · intro renames
    rw [left] at sound'
    rw [store]
    exact all.handsOver serves.inOrder sound sound' renames alone keyed

end Service

/-! ## a second bundle takes the key of the first -/

namespace Shop

def opening : Turn := turn 1 (.createBundle owner (some "home") false)

/-- a pistol in a bundle of its own, under the key of the first one -/
def takeover : Turn :=
  turn 2 (.create [(BundleSpecifier.new [.forPlan "pistol-monthly"]).withExternalKey "home"] true)

end Shop

theorem created_bundle_found_home :
    let s := (Service.new Shop.catalog 255 true).after [Shop.opening]
    let later := (s.turn Shop.takeover).2
    let ctx := Shop.takeover.context
    let made : SubscriptionBundle := ⟨.new (.ofNat 2000) Shop.owner (some "home") ctx.now,
      later.store.records.map (.rebuild · [] ctx.now)⟩
    DistinctIds ([Shop.opening] ++ [Shop.takeover]) ∧
      (s.turn Shop.takeover).1 = .ok (.created [made]) ∧ made.bundle.id ∉ s.store.bundleIds ∧
      (later.activeBundleForKey ctx "home").1 = .ok (some made.bundle) ∧
      s.store.HandsOver later.store ctx "home" made.bundle := by
  have distinct : DistinctIds ([Shop.opening] ++ [Shop.takeover]) := by decide +kernel
  have held : let s := (Service.new Shop.catalog 255 true).after [Shop.opening]
      let later := (s.turn Shop.takeover).2
      let ctx := Shop.takeover.context
      let made : SubscriptionBundle := ⟨.new (.ofNat 2000) Shop.owner (some "home") ctx.now,
        later.store.records.map (.rebuild · [] ctx.now)⟩
      (s.turn Shop.takeover).1 = .ok (.created [made]) ∧ made.bundle.id ∉ s.store.bundleIds := by
    decide +kernel
  obtain ⟨answered, fresh⟩ := held
  obtain ⟨leads, renamed⟩ :=
    Service.created_bundle_found Shop.catalog 255 true distinct rfl answered fresh rfl
  exact ⟨distinct, answered, fresh, leads, renamed rfl⟩

end SubscriptionBundles
