import SubscriptionBundles.Proofs.TakenKeys

/-!
# Keys of active bundles

A new bundle takes no key that an active bundle carries.  Two other calls have no such check: one
that gives a bundle another key, and one that gives an ended bundle a new base or standalone.

* `Store.UniqueActiveKeys`            active bundles of an account have different keys;
* `Store.Moves`, `Store.Revives`      the calls that give two of them one key;
* `Service.unique_active_keys_iff`    the law holds throughout a run without such calls, and in no
                                      other.
-/

namespace SubscriptionBundles

open Service (Turn)

/-! ## the law -/

/-- both are of one account and carry one key -/
def Bundle.sharesKey (a b : Bundle) : Bool :=
  a.accountId == b.accountId && (a.externalKey.isSome && a.externalKey == b.externalKey)

theorem Bundle.sharesKey_iff {a b : Bundle} :
    a.sharesKey b = true ↔
      a.accountId = b.accountId ∧ ∃ key, a.externalKey = some key ∧ b.externalKey = some key := by
  unfold sharesKey
  rw [Bool.and_eq_true, beq_iff_eq, Bool.and_eq_true, beq_iff_eq, Option.isSome_iff_exists]
  refine and_congr_right fun _ => ⟨?_, ?_⟩
  · intro given
    obtain ⟨⟨key, held⟩, same⟩ := given
    exact ⟨key, held, by rw [← same, held]⟩
  · intro given
    obtain ⟨key, held, other⟩ := given
    exact ⟨⟨key, held⟩, by rw [held, other]⟩

theorem Bundle.sharesKey_comm (a b : Bundle) : a.sharesKey b = b.sharesKey a := by
  rw [Bool.eq_iff_iff, sharesKey_iff, sharesKey_iff]
  constructor
  · intro given
    obtain ⟨account, key, held, other⟩ := given
    exact ⟨account.symm, key, other, held⟩
  · intro given
    obtain ⟨account, key, held, other⟩ := given
    exact ⟨account.symm, key, other, held⟩

/-- no two active bundles of an account carry one key -/
def Store.UniqueActiveKeys (s : Store) (now : Instant) : Prop :=
  ∀ a ∈ s.bundles, ∀ b ∈ s.bundles,
    a.sharesKey b = true → s.isActive now a = true → s.isActive now b = true → a = b

instance (s : Store) (now : Instant) : Decidable (s.UniqueActiveKeys now) :=
  inferInstanceAs (Decidable (∀ a ∈ s.bundles, ∀ b ∈ s.bundles,
    a.sharesKey b = true → s.isActive now a = true → s.isActive now b = true → a = b))

/-! ## clashes -/

/-- an active bundle is given the key of another one of its account -/
def Store.Moves (s : Store) (now : Instant) (id : Uuid) (key : String) : Prop :=
  ∃ b ∈ s.bundles, b.id = id ∧ s.isActive now b = true ∧
    ∃ other ∈ s.bundles, other.id ≠ id ∧ other.accountId = b.accountId ∧
      other.externalKey = some key ∧ s.isActive now other = true

/-- a bundle is given a base or standalone by its id, though the key it is left with is that of a
new bundle of the call, or of another one of its account that is active once the call is done -/
def Store.Revives (s : Store) (c : Catalog) (ctx : Context) (specifiers : List BundleSpecifier)
    (rename : Bool) : Prop :=
  let taken := takenKeys c specifiers
  ∃ b ∈ s.bundles, 0 < anchorsInto c specifiers b.id ∧
    ∃ key, b.leftKey ctx.accountId rename taken = some key ∧
      (key ∈ taken ∨ ∃ other ∈ s.bundles, other.id ≠ b.id ∧ other.accountId = b.accountId ∧
        other.leftKey ctx.accountId rename taken = some key ∧
          (s.isActive ctx.now other = true ∨ 0 < anchorsInto c specifiers other.id))

def Service.Turn.clashes (c : Catalog) (s : Store) (t : Turn) : Prop :=
  match t.request with
  | .create specifiers rename => s.Revives c t.context specifiers rename
  | .updateExternalKey id key => s.Moves t.context.now id key
  | _ => False

/-! ## another key -/

section
variable {s later : Store} {now after : Instant}

/-- records that only grow keep the law -/
theorem Store.UniqueActiveKeys.grew (unique : s.UniqueActiveKeys now) (grew : s.Grew later)
    (same : later.bundles = s.bundles) (hn : now ≤ after) : later.UniqueActiveKeys after := by
  intro a ha b hb shares activeA activeB
  rw [same] at ha hb
  exact unique a ha b hb shares (grew.isActive hn activeA) (grew.isActive hn activeB)

section
variable {id : Uuid} {key : String}

theorem renamedBy_other {b : Bundle} (apart : b.id ≠ id) : b.renamedBy now [(id, key)] = b :=
  Bundle.renamedBy_of_not_mem (by simpa using apart)

/-- a bundle that is given a key shares it with another one that carries it -/
theorem Store.not_unique_of_moves (moves : s.Moves now id key) :
    ¬(s.rename now [(id, key)]).UniqueActiveKeys now := by
  intro unique
  obtain ⟨b, hb, rfl, active, other, ho, apart, account, held, lives⟩ := moves
  have left := List.mem_map_of_mem (f := Bundle.renamedBy now [(b.id, key)]) hb
  have kept := List.mem_map_of_mem (f := Bundle.renamedBy now [(b.id, key)]) ho
  rw [Bundle.renamedBy_self] at left
  rw [renamedBy_other apart] at kept
  have shares : (b.rekeyed key now).sharesKey other = true :=
    Bundle.sharesKey_iff.2 ⟨account.symm, key, rfl, held⟩
  have one := unique _ left _ kept shares active lives
  exact apart (congrArg Bundle.id one).symm

theorem Store.unique_of_not_moves (sound : s.Sound) (unique : s.UniqueActiveKeys now)
    (free : ¬s.Moves now id key) (hn : now ≤ after) :
    (s.rename now [(id, key)]).UniqueActiveKeys after := by
  have lived : ∀ b, (s.rename now [(id, key)]).isActive after b = true → s.isActive now b = true :=
    fun b => (Grew.of_records rfl).isActive hn
  -- the bundle of the new key beside one that keeps its own
  have apart : ∀ a ∈ s.bundles, a.id = id → ∀ b ∈ s.bundles, b.id ≠ id →
      (a.renamedBy now [(id, key)]).sharesKey (b.renamedBy now [(id, key)]) = true →
        s.isActive now a = true → s.isActive now b = true → False := by
    intro a ha here b hb there shares activeA activeB
    rw [← here, Bundle.renamedBy_self, here, renamedBy_other there] at shares
    obtain ⟨account, _, same, held⟩ := Bundle.sharesKey_iff.1 shares
    cases same
    exact free ⟨a, ha, here, activeA, b, hb, there, account.symm, held, activeB⟩
  intro x hx y hy shares activeX activeY
  obtain ⟨a, ha, rfl⟩ := List.mem_map.1 hx
  obtain ⟨b, hb, rfl⟩ := List.mem_map.1 hy
  have activeA : s.isActive now a = true := by
    rw [← s.isActive_renamedBy]
    exact lived _ activeX
  have activeB : s.isActive now b = true := by
    rw [← s.isActive_renamedBy]
    exact lived _ activeY
  by_cases hereA : a.id = id
  · by_cases hereB : b.id = id
    · rw [sound.bundle_eq ha hb (hereA.trans hereB.symm)]
    · exact (apart a ha hereA b hb hereB shares activeA activeB).elim
  · by_cases hereB : b.id = id
    · rw [Bundle.sharesKey_comm] at shares
      exact (apart b hb hereB a ha hereA shares activeB activeA).elim
    · rw [renamedBy_other hereA, renamedBy_other hereB] at *
      exact unique a ha b hb shares activeA activeB

end

/-! ## new bundles -/

/-- an active bundle keeps its key if only others give theirs up -/
theorem Store.renamedBy_of_active (sound : s.Sound) {processed : Instant}
    {renames : List (Uuid × String)}
    (inactive : ∀ r ∈ renames, ∃ old ∈ s.bundles, r.1 = old.id ∧ s.isActive now old = false)
    {b : Bundle} (stored : b ∈ s.bundles) (active : s.isActive now b = true) :
    b.renamedBy processed renames = b := by
  refine Bundle.renamedBy_of_not_mem ?_
  intro renamed
  obtain ⟨r, hr, same⟩ := List.mem_map.1 renamed
  obtain ⟨old, ho, named, ended⟩ := inactive r hr
  rw [sound.bundle_eq ho stored (named.symm.trans same), active] at ended
  cases ended

end

section
variable {s : Service} {ctx : Context} {later : Instant}

/-- a bundle that comes alone is not active -/
theorem unique_of_bundleCreated (order : s.storage.InOrder) (sound : s.store.Sound) {id account : Uuid}
    {rename : Bool} {key : Option String} {p : PlannedBundle}
    (planned : planBundle s ctx id account [] rename key = .ok p)
    (takes : s.store.Takes [⟨.new p, []⟩]) (unique : s.store.UniqueActiveKeys ctx.now)
    (hn : ctx.now ≤ later) :
    (s.store.commit ctx.now [⟨.new p, []⟩]).UniqueActiveKeys later := by
  obtain ⟨same, free⟩ := (planBundle_eq_ok order).1 planned
  have grew : s.store.Grew (s.store.commit ctx.now [⟨.new p, []⟩]) :=
    .of_records (by simp [Store.commit])
  have old : ∀ b ∈ (s.store.commit ctx.now [⟨.new p, []⟩]).bundles,
      (s.store.commit ctx.now [⟨.new p, []⟩]).isActive later b = true → b ∈ s.store.bundles := by
    intro b hb active
    have lived := grew.isActive hn active
    rcases List.mem_append.1 hb with hb | hb
    · obtain ⟨old, ho, rfl⟩ := List.mem_map.1 hb
      rw [Store.isActive_renamedBy] at lived
      rw [Store.renamedBy_of_active sound ?_ ho lived]
      · exact ho
      · intro r hr
        rw [List.flatMap_singleton] at hr
        change r ∈ p.renames at hr
        rw [same] at hr
        obtain ⟨_, key, held, other, stored, _, carries, rfl⟩ := mem_renames.1 hr
        exact ⟨other, stored, rfl, (free key held).2.2 other stored carries⟩
    · obtain ⟨alone, ha, new⟩ := List.mem_filterMap.1 hb
      have fresh := takes.not_mem_of_newBundle? ha new
      rw [Store.isActive_iff, Store.liveCount_of_not_mem sound fresh] at lived
      exact absurd lived (Nat.lt_irrefl 0)
  intro a ha b hb shares activeA activeB
  exact unique a (old a ha activeA) b (old b hb activeB) shares (grew.isActive hn activeA)
    (grew.isActive hn activeB)

end

/-! ## a creation -/

section
variable {s : Service} {ctx : Context} {c : Catalog} {ids : Nat → Uuid} {rename : Bool}
  {q : Progress} {specs : List BundleSpecifier} {bs : List PlannedBatch}
  (order : s.storage.InOrder) (all : PlannedAll s ctx c ids rename .start specs bs q)
include order all

theorem isActive_stored (takes : s.store.Takes bs) {b : Bundle} (stored : b ∈ s.store.bundles)
    (later : Instant) : (s.store.commit ctx.now bs).isActive later (b.after ctx.now bs) = true ↔
      s.store.isActive later b = true ∨ 0 < anchorsInto c specs b.id := by
  rw [Store.isActive_after, Store.isActive_iff, Store.isActive_iff,
    liveCount_stored order all takes (List.mem_map_of_mem stored)]
  omega

theorem isActive_new (sound : s.store.Sound) (takes : s.store.Takes bs) {new : Bundle}
    (added : new ∈ bs.filterMap (·.newBundle?)) (later : Instant) :
    (s.store.commit ctx.now bs).isActive later new = true := by
  obtain ⟨b, hb, hn⟩ := List.mem_filterMap.1 added
  obtain ⟨_, _, _, brings, count⟩ := liveCount_new order all takes sound hb hn later
  rw [Store.isActive_iff, count]
  exact brings

theorem accountId_new {new : Bundle} (added : new ∈ bs.filterMap (·.newBundle?)) :
    new.accountId = ctx.accountId := by
  obtain ⟨b, hb, hn⟩ := List.mem_filterMap.1 added
  obtain ⟨_, _, _, _, here⟩ := all.of_mem b hb
  obtain ⟨_, _, rfl⟩ := (here.newBundle?_eq_some_iff order).1 hn
  rfl

section
variable (sound : s.store.Sound)
include sound

/-- who is given a base or standalone by its id is the account's -/
theorem accountId_of_gains {b : Bundle} (stored : b ∈ s.store.bundles)
    (gains : 0 < anchorsInto c specs b.id) : b.accountId = ctx.accountId := by
  obtain ⟨spec, hs, named, brings⟩ := exists_of_anchorsInto gains
  obtain ⟨_, _, _, _, here⟩ := all.exists_batch hs brings
  obtain ⟨found, hf, same, own, _⟩ := here.of_named order named
  rw [← sound.bundle_eq hf stored same]
  exact own

theorem not_unique_of_revives (takes : s.store.Takes bs)
    (revives : s.store.Revives c ctx specs rename) :
    ¬(s.store.commit ctx.now bs).UniqueActiveKeys ctx.now := by
  intro unique
  obtain ⟨b, hb, gains, key, left, clash⟩ := revives
  have stays : b.after ctx.now bs ∈ (s.store.commit ctx.now bs).bundles :=
    Store.mem_commit.2 (.inl ⟨b, hb, rfl⟩)
  have active := (isActive_stored order all takes hb ctx.now).2 (.inr gains)
  rw [← all.externalKey_after order sound hb] at left
  rcases clash with taken | ⟨other, ho, apart, account, held, lives⟩
  · rw [← all.taken_eq order, PlannedBatch.filterMap_takenKey?] at taken
    obtain ⟨new, added, carries⟩ := List.mem_filterMap.1 taken
    have shares : (b.after ctx.now bs).sharesKey new = true := by
      refine Bundle.sharesKey_iff.2 ⟨?_, key, left, carries⟩
      rw [Bundle.after_accountId, accountId_of_gains order all sound hb gains,
        accountId_new order all added]
    have one := unique _ stays new (Store.mem_commit.2 (.inr added)) shares active
      (isActive_new order all sound takes added ctx.now)
    obtain ⟨batch, hbatch, hn⟩ := List.mem_filterMap.1 added
    have fresh := takes.not_mem_of_newBundle? hbatch hn
    rw [← one, Bundle.after_id] at fresh
    exact fresh (List.mem_map_of_mem hb)
  · rw [← all.externalKey_after order sound ho] at held
    have shares : (b.after ctx.now bs).sharesKey (other.after ctx.now bs) = true := by
      refine Bundle.sharesKey_iff.2 ⟨?_, key, left, held⟩
      rw [Bundle.after_accountId, Bundle.after_accountId, account]
    have one := unique _ stays _ (Store.mem_commit.2 (.inl ⟨other, ho, rfl⟩)) shares active
      ((isActive_stored order all takes ho ctx.now).2 lives)
    have ids := congrArg Bundle.id one
    rw [Bundle.after_id, Bundle.after_id] at ids
    exact apart ids.symm

section
variable {a : Bundle} (ha : a ∈ s.store.bundles)
include ha

/-- a bundle that gains an anchor beside another one that was there -/
theorem revives_of_gains (gains : 0 < anchorsInto c specs a.id) {b : Bundle}
    (hb : b ∈ s.store.bundles) (apart : b.id ≠ a.id)
    (shares : (a.after ctx.now bs).sharesKey (b.after ctx.now bs) = true)
    (lives : s.store.isActive ctx.now b = true ∨ 0 < anchorsInto c specs b.id) :
    s.store.Revives c ctx specs rename := by
  obtain ⟨account, key, held, carries⟩ := Bundle.sharesKey_iff.1 shares
  rw [Bundle.after_accountId, Bundle.after_accountId] at account
  rw [all.externalKey_after order sound ha] at held
  rw [all.externalKey_after order sound hb] at carries
  exact ⟨a, ha, gains, key, held, .inr ⟨b, hb, apart, account.symm, carries, lives⟩⟩

theorem after_of_active (active : s.store.isActive ctx.now a = true) : a.after ctx.now bs = a :=
  Store.renamedBy_of_active sound (all.renamed_inactive order) ha active

/-- a bundle that was there beside a new one -/
theorem revives_of_taken {new : Bundle} (added : new ∈ bs.filterMap (·.newBundle?))
    (shares : (a.after ctx.now bs).sharesKey new = true)
    (lives : s.store.isActive ctx.now a = true ∨ 0 < anchorsInto c specs a.id) :
    s.store.Revives c ctx specs rename := by
  obtain ⟨_, key, held, carries⟩ := Bundle.sharesKey_iff.1 shares
  have taken := PlannedBatch.key_taken added carries
  rcases lives with active | gains
  · -- no active bundle carries a key that is taken
    rw [after_of_active order all sound ha active] at held
    have ended := ((all.taken_free order).2 key taken).2 a ha held
    rw [active] at ended
    cases ended
  · rw [all.externalKey_after order sound ha] at held
    rw [all.taken_eq order] at taken
    exact ⟨a, ha, gains, key, held, .inl taken⟩

end

theorem unique_of_not_revives (takes : s.store.Takes bs) (unique : s.store.UniqueActiveKeys ctx.now)
    (free : ¬s.store.Revives c ctx specs rename) {later : Instant} (hn : ctx.now ≤ later) :
    (s.store.commit ctx.now bs).UniqueActiveKeys later := by
  have lived : ∀ b ∈ s.store.bundles,
      (s.store.commit ctx.now bs).isActive later (b.after ctx.now bs) = true →
        s.store.isActive ctx.now b = true ∨ 0 < anchorsInto c specs b.id := by
    intro b hb active
    refine ((isActive_stored order all takes hb later).1 active).imp ?_ fun gains => gains
    exact (Store.Grew.of_records rfl).isActive hn
  intro x hx y hy shares activeX activeY
  rcases Store.mem_commit.1 hx with ⟨a, ha, rfl⟩ | newX
  · have livesA := lived a ha activeX
    rcases Store.mem_commit.1 hy with ⟨b, hb, rfl⟩ | newY
    · have livesB := lived b hb activeY
      by_cases same : b.id = a.id
      · rw [sound.bundle_eq hb ha same]
      · rcases livesA with activeA | gainsA
        · rcases livesB with activeB | gainsB
          · rw [after_of_active order all sound ha activeA,
              after_of_active order all sound hb activeB] at *
            exact unique a ha b hb shares activeA activeB
          · rw [Bundle.sharesKey_comm] at shares
            exact absurd (revives_of_gains order all sound hb gainsB ha (Ne.symm same) shares
              (.inl activeA)) free
        · exact absurd (revives_of_gains order all sound ha gainsA hb same shares livesB) free
    · exact absurd (revives_of_taken order all sound ha newY shares livesA) free
  · rcases Store.mem_commit.1 hy with ⟨b, hb, rfl⟩ | newY
    · rw [Bundle.sharesKey_comm] at shares
      exact absurd (revives_of_taken order all sound hb newX shares (lived b hb activeY)) free
    · obtain ⟨_, key, held, carries⟩ := Bundle.sharesKey_iff.1 shares
      exact all.new_eq order newX newY held carries

end

end

/-! ## every step -/

namespace Step
variable {s : Service} {c : Catalog} {t : Turn} {store : Store} (order : s.storage.InOrder)
  (sound : s.store.Sound)
include order sound

theorem unique {a : Except SubscriptionError Answer} (h : Step s c t a store)
    (before : s.store.UniqueActiveKeys t.context.now)
    (free : ∀ answer, a = .ok answer → ¬t.clashes c s.store) {later : Instant}
    (hn : t.context.now ≤ later) : store.UniqueActiveKeys later := by
  cases h with
  | refused | read => exact before.grew (.of_records rfl) rfl hn
  | created request planned takes =>
    have free := free _ rfl
    unfold Turn.clashes at free
    rw [request] at free
    exact unique_of_not_revives order planned sound takes before free hn
  | bundleCreated _ planned takes =>
    exact unique_of_bundleCreated order sound planned takes before hn
  | rekeyed request _ =>
    have free := free _ rfl
    unfold Turn.clashes at free
    rw [request] at free
    exact Store.unique_of_not_moves sound before free hn
  | continued => exact before.grew (.append _ _) rfl hn
  | charged => exact before.grew (.charge _ _ _) rfl hn

theorem not_unique {answer : Answer} (h : Step s c t (.ok answer) store)
    (clash : t.clashes c s.store) : ¬store.UniqueActiveKeys t.context.now := by
  have ends := h.of_ok
  unfold Turn.clashes at clash
  cases request : t.request with
  | create specifiers rename =>
    rw [request] at clash ends
    obtain ⟨bs, q, planned, takes, _, rfl⟩ := ends
    exact not_unique_of_revives order planned sound takes clash
  | updateExternalKey id key =>
    rw [request] at clash ends
    rw [ends]
    exact Store.not_unique_of_moves clash
  | _ =>
    rw [request] at clash
    exact clash.elim

end Step

/-! ## every run -/

theorem Service.unique_active_keys_iff (c : Catalog) (max : Nat) (cached : Bool) {turns : List Turn}
    (distinct : DistinctIds turns) (timely : Timely turns) :
    (new c max cached).Always turns Store.UniqueActiveKeys ↔
      (new c max cached).Never turns (Turn.clashes c) := by
  constructor
  · intro law earlier t a part answered clash
    obtain ⟨serves, sound, _⟩ := reached c max cached distinct part
    have step := reached_step c max cached distinct part
    rw [answered] at step
    exact step.not_unique serves.inOrder sound clash (law earlier t part)
  · intro free
    refine always_of_keeps timely (fun _ => nofun) ?_
    intro earlier t part before later present
    obtain ⟨serves, sound, _⟩ := reached c max cached distinct part
    have step := reached_step c max cached distinct part
    exact step.unique serves.inOrder sound before (fun a => free earlier t a part) present

/-- two bundles with keys of their own, and a call that gives one the key of the other -/
def Shop.oneKey : List Turn :=
  let pistol := BundleSpecifier.new [.forPlan "pistol-monthly"]
  [turn 1 (.create [pistol.withExternalKey "home"] false),
    turn 2 (.create [pistol.withExternalKey "work"] false),
    turn 3 (.updateExternalKey (.ofNat 2000) "home")]

theorem unique_active_keys_iff_oneKey :
    DistinctIds Shop.oneKey ∧ Timely Shop.oneKey ∧
      ((Service.new Shop.catalog 255 true).Always Shop.oneKey Store.UniqueActiveKeys ↔
        (Service.new Shop.catalog 255 true).Never Shop.oneKey (Turn.clashes Shop.catalog)) := by
  have distinct : DistinctIds Shop.oneKey := by decide +kernel
  have timely : Timely Shop.oneKey := by decide +kernel
  exact ⟨distinct, timely, Service.unique_active_keys_iff Shop.catalog 255 true distinct timely⟩

theorem oneKey_not_uniqueActiveKeys :
    DistinctIds Shop.oneKey ∧ Timely Shop.oneKey ∧
      ¬((Service.new Shop.catalog 255 true).after Shop.oneKey).store.UniqueActiveKeys
        (Shop.midnight 20003) := by
  decide +kernel

end SubscriptionBundles
