import SubscriptionBundles.Proofs.DisturbedCalls

/-!
# One call and calls of their own

A creation that is answered, against calls of their own for its specifiers.  They are answered and
end alike, up to the names of what is new, if no specifier disturbs a later one, and only then.

* `Store.Calm`                     no specifier of a call is disturbed by earlier ones;
* `Service.EndsAlike`              the calls of their own come to the same as the one call;
* `Service.calls_apart_iff`        they do so exactly if the call is calm.
-/

namespace SubscriptionBundles

open Service (Turn)

/-- no specifier of a call is disturbed by those before it -/
def Store.Calm (s : Store) (c : Catalog) (ctx : Context) (rename : Bool)
    (specs : List BundleSpecifier) : Prop :=
  ∀ before spec after, specs = before ++ spec :: after → ¬s.Disturbed c ctx rename before spec

section
variable {s : Store} {c : Catalog} {ctx : Context} {rename : Bool}

theorem Store.calm_nil : s.Calm c ctx rename [] := by
  intro before spec after split
  cases before <;> cases split

theorem Store.calm_concat {specs : List BundleSpecifier} {spec : BundleSpecifier} :
    s.Calm c ctx rename (specs ++ [spec]) ↔
      s.Calm c ctx rename specs ∧ ¬s.Disturbed c ctx rename specs spec := by
  constructor
  · intro calm
    refine ⟨?_, calm specs spec [] rfl⟩
    intro before x after split
    exact calm before x (after ++ [spec]) (by rw [split, List.append_assoc]; rfl)
  · intro given
    obtain ⟨calm, quiet⟩ := given
    intro before x after split
    rcases List.eq_nil_or_concat after with rfl | ⟨others, y, rfl⟩
    · obtain ⟨rfl, one⟩ := List.append_inj' split rfl
      cases one
      exact quiet
    · have longer : specs ++ [spec] = (before ++ x :: others) ++ [y] := by simpa using split
      obtain ⟨rfl, _⟩ := List.append_inj' longer rfl
      exact calm before x others rfl

end

theorem drawnBy_sublist {c : Catalog} {ctx : Context} {rename : Bool} {specs : List BundleSpecifier}
    {parts : List Turn} (calls : CallsFor ctx rename specs parts) :
    (drawnBy c specs parts).Sublist (parts.flatMap Turn.drawn) := by
  induction calls with
  | nil => exact .refl _
  | @cons spec u rest later call _ ih =>
    rw [List.flatMap_cons]
    unfold drawnBy
    refine List.Sublist.append ?_ ih
    unfold Turn.drawn
    rw [call.2]
    refine List.Sublist.map _ (List.range_sublist.2 ?_)
    have few := spec.draws_le c
    show _ ≤ ([spec].map (·.mayDraw)).sum
    rw [List.map_singleton, List.sum_singleton]
    exact few

theorem length_drawnBy {c : Catalog} {ctx : Context} {rename : Bool} {specs : List BundleSpecifier}
    {parts : List Turn} (calls : CallsFor ctx rename specs parts) :
    (drawnBy c specs parts).length = (specs.map (·.draws c)).sum := by
  induction calls with
  | nil => rfl
  | cons _ _ ih =>
    unfold drawnBy
    rw [List.length_append, ih, List.map_cons, List.sum_cons, List.length_map, List.length_range]

theorem sum_draws_le (c : Catalog) (specs : List BundleSpecifier) :
    (specs.map (·.draws c)).sum ≤ (specs.map (·.mayDraw)).sum := by
  induction specs with
  | nil => exact Nat.le_refl 0
  | cons spec rest ih =>
    rw [List.map_cons, List.map_cons, List.sum_cons, List.sum_cons]
    exact Nat.add_le_add (spec.draws_le c) ih

namespace Service
variable {c : Catalog} {max : Nat} {cached : Bool} {ctx : Context} {rename : Bool}
  {specs : List BundleSpecifier}

/-! ## calls of their own for a calm call -/

section
variable {turns parts : List Turn} (distinct : DistinctIds (turns ++ parts))
  (calls : CallsFor ctx rename specs parts)
include distinct calls

/-- a calm call is planned by calls of their own, up to the names of what is new -/
theorem exists_apart {ids : Nat → Uuid} {bs : List PlannedBatch} {q : Progress}
    (all : PlannedAll ((new c max cached).after turns) ctx c ids rename .start specs bs q)
    (fresh : ((new c max cached).after turns).store.Fresh
      ((List.range (specs.map (·.mayDraw)).sum).map ids))
    (calm : ((new c max cached).after turns).store.Calm c ctx rename specs) :
    ((new c max cached).after turns).Answers parts ∧ ∃ σ : Equiv.Perm Uuid,
      (∀ id, id ∈ ((new c max cached).after turns).store.bundleIds ∨
        id ∈ ((new c max cached).after turns).store.recordIds → σ id = id) ∧
      PlannedAll ((new c max cached).after turns) ctx c (σ ∘ ids) rename .start specs
        (bs.map (.relabel σ)) (q.relabel σ) ∧
      ((new c max cached).after turns).store.Takes (bs.map (.relabel σ)) ∧
      ((new c max cached).after (turns ++ parts)).store =
        ((new c max cached).after turns).store.commit ctx.now (bs.map (.relabel σ)) := by
  have past := distinct.initial (List.prefix_append turns parts)
  obtain ⟨serves, sound, bundles, records⟩ := run_sound c max cached past
  have on := run_onPlans c max cached past
  generalize here : (new c max cached).after turns = s at *
  have apart : (turns.flatMap Turn.drawn ++ parts.flatMap Turn.drawn).Nodup := by
    rw [← List.flatMap_append]
    exact distinct
  obtain ⟨_, nodup, out⟩ := List.nodup_append.1 apart
  have part := drawnBy_sublist (c := c) calls
  have drawn : ((List.range (specs.map (·.draws c)).sum).map ids).Sublist
      ((List.range (specs.map (·.mayDraw)).sum).map ids) :=
    (List.range_sublist.2 (sum_draws_le c specs)).map ids
  have fresh' := fresh.sublist drawn
  obtain ⟨σ, fixed, moves⟩ := exists_renaming (s.store.bundleIds ++ s.store.recordIds)
    fresh'.distinct (part.nodup nodup) (by rw [length_drawnBy calls]; simp)
    (fun id hid => (List.mem_append.1 hid).elim (fresh'.bundles id) (fresh'.records id))
    (fun id hid new => out id ((List.mem_append.1 hid).elim (bundles id) (records id)) id
      (part.subset new) rfl)
  have stored : ∀ id ∈ s.store.bundleIds, σ id = id :=
    fun id hid => fixed id (List.mem_append_left _ hid)
  have listed : ∀ id ∈ s.store.recordIds, σ id = id :=
    fun id hid => fixed id (List.mem_append_right _ hid)
  have renamed := all.relabel serves.inOrder stored σ.injective
  have takes : s.store.Takes (bs.map (.relabel σ)) := by
    refine renamed.takes serves.inOrder sound ⟨?_, ?_, ?_⟩
    · rw [← List.map_map]
      exact fresh.distinct.map σ.injective
    · intro id hid new
      rw [← List.map_map, ← stored id hid, List.mem_map_of_injective σ.injective] at new
      exact fresh.bundles id hid new
    · intro id hid new
      rw [← List.map_map, ← listed id hid, List.mem_map_of_injective σ.injective] at new
      exact fresh.records id hid new
  have begun : ((new c max cached).after turns).store = s.store.commit ctx.now [] := by
    rw [here, Store.commit_nil]
  have alike : (List.range' Progress.start.drawn (specs.map (·.draws c)).sum).map (σ ∘ ids) =
      drawnBy c specs parts := by
    rw [← moves, ← List.map_map, List.range_eq_range']
    rfl
  have run := run_apart serves.inOrder sound on serves.keys calls distinct (.nil .start) begun renamed
    takes calm alike
  rw [here] at run
  refine ⟨run.1, σ, ?_, renamed, takes, run.2⟩
  intro id hid
  exact fixed id (List.mem_append.2 hid)

end

/-! ## calls of their own that were answered -/

theorem answers_append {s : Service} {first later : List Turn} :
    s.Answers (first ++ later) ↔ s.Answers first ∧ (s.after first).Answers later := by
  induction first generalizing s with
  | nil => exact ⟨fun h => ⟨fun _ => nofun, h⟩, fun h => h.2⟩
  | cons t first ih =>
    rw [List.cons_append, answers_cons, answers_cons, ih, and_assoc]
    rfl

/-- an answered call of one specifier is a batch at most -/
theorem turn_of_answered {past : List Turn} {u : Turn} (distinct : DistinctIds (past ++ [u]))
    {spec : BundleSpecifier} (request : u.request = .create [spec] rename)
    (answered : (((new c max cached).after past).turn u).1.isOk = true) :
    ∃ bs q, PlannedAll ((new c max cached).after past) u.context c u.ids rename .start [spec] bs q ∧
      ((new c max cached).after (past ++ [u])).store =
        ((new c max cached).after past).store.commit u.context.now bs := by
  obtain ⟨a, ok⟩ := exists_of_isOk answered
  have step := reached_step c max cached distinct (List.prefix_refl _)
  rw [ok] at step
  have ends := step.of_ok
  rw [request] at ends
  obtain ⟨bs, q, all, _, _, left⟩ := ends
  rw [after_concat]
  exact ⟨bs, q, all, left⟩

/-- such calls add records and shorten no key -/
theorem grown_of_answered {past parts : List Turn} (distinct : DistinctIds (past ++ parts))
    (calls : CallsFor ctx rename specs parts)
    (answered : ((new c max cached).after past).Answers parts) :
    (∃ added, ((new c max cached).after (past ++ parts)).store.records =
        ((new c max cached).after past).store.records ++ added) ∧
      ∀ id n, ((new c max cached).after past).store.HoldsLonger id n →
        ((new c max cached).after (past ++ parts)).store.HoldsLonger id n := by
  induction calls generalizing past with
  | nil =>
    rw [List.append_nil]
    exact ⟨⟨[], (List.append_nil _).symm⟩, fun _ _ h => h⟩
  | @cons spec u rest later call _ ih =>
    have here : DistinctIds (past ++ [u]) := distinct.initial ⟨later, by simp⟩
    rw [answers_cons, ← after_concat] at answered
    obtain ⟨bs, q, all, left⟩ := turn_of_answered here call.2 answered.1
    obtain ⟨serves, sound, _⟩ := reached c max cached here (List.prefix_refl _)
    obtain ⟨⟨added, records⟩, longer⟩ := ih (by rwa [List.append_assoc]) answered.2
    rw [List.append_assoc] at records longer
    rw [left] at records longer
    refine ⟨⟨bs.flatMap (·.records) ++ added, ?_⟩, ?_⟩
    · rw [← List.append_assoc]
      exact records
    · intro id n held
      exact longer id n (held.commit serves.inOrder sound all)

/-! ## one call and several -/

/-- the calls of their own are answered and end like the one call, up to the names of what is new -/
def EndsAlike (s : Service) (t : Turn) (parts : List Turn) : Prop :=
  s.Answers parts ∧ ∃ σ : Equiv.Perm Uuid,
    (∀ id, id ∈ s.store.bundleIds ∨ id ∈ s.store.recordIds → σ id = id) ∧
      (s.after parts).store = (s.turn t).2.store.relabel σ

section
variable {turns parts : List Turn} {t : Turn} (distinct : DistinctIds (turns ++ [t]))
  (request : t.request = .create specs rename) (apart : DistinctIds (turns ++ parts))
  (calls : CallsFor t.context rename specs parts) {bs : List PlannedBatch} {q : Progress}
  (all : PlannedAll ((new c max cached).after turns) t.context c t.ids rename .start specs bs q)
  (left : (((new c max cached).after turns).turn t).2.store =
    ((new c max cached).after turns).store.commit t.context.now bs)
include distinct request apart calls all left

theorem endsAlike_of_calm
    (calm : ((new c max cached).after turns).store.Calm c t.context rename specs) :
    ((new c max cached).after turns).EndsAlike t parts := by
  obtain ⟨_, sound, fresh⟩ := reached c max cached distinct (List.prefix_refl _)
  have on := run_onPlans c max cached (distinct.initial (List.prefix_append turns [t]))
  unfold Turn.drawn at fresh
  rw [request] at fresh
  obtain ⟨answered, σ, fixed, _, _, final⟩ := exists_apart apart calls all fresh calm
  refine ⟨answered, σ, fixed, ?_⟩
  rw [← after_append, final, left]
  exact Store.commit_relabel sound on (fun id h => fixed id (.inl h)) (fun id h => fixed id (.inr h)) _ _

end

section
variable {turns parts : List Turn} {t : Turn} {before after : List BundleSpecifier}
  {spec : BundleSpecifier} (distinct : DistinctIds (turns ++ [t]))
  (request : t.request = .create (before ++ spec :: after) rename) (apart : DistinctIds (turns ++ parts))
  (calls : CallsFor t.context rename (before ++ spec :: after) parts) {bs : List PlannedBatch}
  {q : Progress}
  (all : PlannedAll ((new c max cached).after turns) t.context c t.ids rename .start
    (before ++ spec :: after) bs q)
  (left : (((new c max cached).after turns).turn t).2.store =
    ((new c max cached).after turns).store.commit t.context.now bs)
include distinct request apart calls all left

/-- the first specifier that is disturbed tells -/
theorem not_disturbed_of_endsAlike (takes : ((new c max cached).after turns).store.Takes bs)
    (calm : ((new c max cached).after turns).store.Calm c t.context rename before)
    (alike : ((new c max cached).after turns).EndsAlike t parts) :
    ¬((new c max cached).after turns).store.Disturbed c t.context rename before spec := by
  intro disturbed
  obtain ⟨serves, sound, fresh⟩ := reached c max cached distinct (List.prefix_refl _)
  obtain ⟨answered, σ, fixed, same⟩ := alike
  rw [← after_append, left] at same
  obtain ⟨pre, u, post, rfl, callsPre, ⟨context, single⟩, callsPost⟩ := calls.split
  have distinctPre : DistinctIds (turns ++ pre) := apart.initial ⟨u :: post, by simp⟩
  have distinctNext : DistinctIds (turns ++ pre ++ [u]) := apart.initial ⟨post, by simp⟩
  have distinctPost : DistinctIds (turns ++ pre ++ [u] ++ post) := by simpa using apart
  obtain ⟨r, first, last, rfl, allFirst, allLast⟩ := all.split
  obtain ⟨batch, b, more, rfl, here⟩ := allLast.head_of_creates disturbed.creates
  -- the calls up to the specifier come to the same as the one call
  unfold Turn.drawn at fresh
  rw [request] at fresh
  have part : ((List.range (before.map (·.mayDraw)).sum).map t.ids).Sublist
      ((List.range ((before ++ spec :: after).map (·.mayDraw)).sum).map t.ids) := by
    refine (List.range_sublist.2 ?_).map t.ids
    rw [List.map_append, List.sum_append]
    exact Nat.le_add_right _ _
  obtain ⟨_, σ', fixed', renamed, takes', reachedPre⟩ :=
    exists_apart distinctPre callsPre allFirst (fresh.sublist part) calm
  -- the call of the specifier, and those that follow
  rw [answers_append, answers_cons, ← after_append, ← after_concat] at answered
  obtain ⟨_, answeredNext, answeredPost⟩ := answered
  obtain ⟨bs', q', allNext, reachedNext⟩ := turn_of_answered distinctNext single answeredNext
  rw [context] at allNext reachedNext
  obtain ⟨batch', b', more', rfl, alone⟩ := allNext.head_of_creates disturbed.creates
  obtain ⟨serves', sound', _⟩ := reached c max cached distinctNext (List.prefix_refl _)
  obtain ⟨⟨added, records⟩, longer⟩ := grown_of_answered distinctPost callsPost answeredPost
  have whole : turns ++ pre ++ [u] ++ post = turns ++ (pre ++ u :: post) := by simp
  rw [whole, same, reachedNext] at records longer
  rw [reachedPre] at records
  have matched : b.records.map (.relabel σ σ) = b'.records := by
    refine Store.records_of_commit records ?_ ?_
    · simp [List.length_flatMap, PlannedBatch.relabel, Function.comp_def]
    · rw [BatchChecks.plannedRecords_length here.records, BatchChecks.plannedRecords_length alone.records,
        Batch.classify_length here.classified, Batch.classify_length alone.classified]
  obtain ⟨old, stored, key, taken, own, gone, other⟩ :=
    alone.inherited_of_disturbed serves.inOrder renamed takes' serves'.inOrder reachedPre sound
      (fun id h => fixed id (.inl h)) here matched disturbed
  -- a key that has come to an older bundle is given up again, and only there
  have within : ∀ k ∈ takenKeys c before, k ∈ takenKeys c (before ++ spec :: after) := by
    intro k hk
    rw [takenKeys_append]
    exact List.mem_append_left _ hk
  obtain ⟨flag, final⟩ := Bundle.leftKey_of_given gone other within
  have kept : old.after t.context.now (first.map (.relabel σ')) ∈
      ((new c max cached).after (turns ++ pre)).store.bundles := by
    rw [reachedPre]
    exact Store.mem_commit.2 (.inl ⟨old, stored, rfl⟩)
  have held := renamed.externalKey_after serves.inOrder sound stored
  rw [gone] at held
  have long := holdsLonger_of_taken serves'.inOrder sound' allNext kept held
    ((Bundle.after_accountId _ _ _).trans own) flag
    (List.mem_filterMap.2 ⟨spec, List.mem_cons_self, taken⟩)
  rw [Bundle.after_id] at long
  exact not_holdsLonger_of_leftKey serves.inOrder sound all takes stored final σ.injective
    (fixed _ (.inl (List.mem_map_of_mem stored))) (longer _ _ long)

end

theorem calls_apart_iff (c : Catalog) (max : Nat) (cached : Bool) {turns parts : List Turn} {t : Turn}
    (distinct : DistinctIds (turns ++ [t])) (request : t.request = .create specs rename)
    (apart : DistinctIds (turns ++ parts)) (calls : CallsFor t.context rename specs parts) {a : Answer}
    (answered : (((new c max cached).after turns).turn t).1 = .ok a) :
    ((new c max cached).after turns).EndsAlike t parts ↔
      ((new c max cached).after turns).store.Calm c t.context rename specs := by
  have step := reached_step c max cached distinct (List.prefix_refl _)
  rw [answered] at step
  have ends := step.of_ok
  rw [request] at ends
  obtain ⟨bs, q, all, takes, _, left⟩ := ends
  refine ⟨?_, endsAlike_of_calm distinct request apart calls all left⟩
  intro alike
  suffices first : ∀ before after, specs = before ++ after →
      ((new c max cached).after turns).store.Calm c t.context rename before from
    first specs [] (List.append_nil _).symm
  intro before
  -- along the specifiers: where one is disturbed, those before it are not
  induction before using List.reverseRecOn with
  | nil => exact fun _ _ => Store.calm_nil
  | append_singleton before spec ih =>
    intro after split
    rw [List.append_assoc, List.singleton_append] at split
    have calm := ih _ split
    subst split
    exact Store.calm_concat.2
      ⟨calm, not_disturbed_of_endsAlike distinct request apart calls all left takes calm alike⟩

end Service

/-! ## two pistols for one bundle -/

namespace Shop

/-- a call in the context of the second turn, with identifiers of its own -/
def alone (k : Nat) (spec : BundleSpecifier) : Turn :=
  ⟨.ofNow owner (midnight 20002), fun n => .ofNat (1000 * k + n), .create [spec] false⟩

/-- a laser for the first bundle, and a pistol -/
def laserAndPistol : List BundleSpecifier :=
  [(BundleSpecifier.new [.forPlan "laser-monthly"]).withBundleId (.ofNat 1000),
    (BundleSpecifier.new [.forPlan "pistol-monthly"]).withExternalKey "work"]

def pistolTwice : List BundleSpecifier :=
  let pistol := (BundleSpecifier.new [.forPlan "pistol-monthly"]).withBundleId (.ofNat 1000)
  [pistol, pistol]

end Shop

/-- the laser changes nothing for the pistol -/
theorem calls_apart_iff_laser :
    let opening := Shop.turn 1 (.create [.new [.forPlan "pistol-monthly"]] false)
    let creation := Shop.turn 2 (.create Shop.laserAndPistol false)
    let parts := Shop.laserAndPistol.mapIdx fun k spec => Shop.alone (k + 2) spec
    let s := (Service.new Shop.catalog 255 true).after [opening]
    DistinctIds ([opening] ++ [creation]) ∧ DistinctIds ([opening] ++ parts) ∧
      CallsFor creation.context false Shop.laserAndPistol parts ∧
      (∃ a, (s.turn creation).1 = .ok a) ∧
      s.store.Calm Shop.catalog creation.context false Shop.laserAndPistol ∧
      s.EndsAlike creation parts := by
  intro opening creation parts s
  have held : DistinctIds ([opening] ++ [creation]) ∧ DistinctIds ([opening] ++ parts) ∧
      (s.turn creation).1.isOk = true ∧
      s.store.foundBy Shop.catalog creation.context false (Shop.laserAndPistol.take 1) "work" =
        s.store.foundBy Shop.catalog creation.context false [] "work" ∧
      ∀ b ∈ s.store.bundles, b.leftKey creation.context.accountId false
        (takenKeys Shop.catalog (Shop.laserAndPistol.take 1)) = b.externalKey := by decide +kernel
  obtain ⟨distinct, apart, ok, found, kept⟩ := held
  have calls : CallsFor creation.context false Shop.laserAndPistol parts :=
    .cons ⟨rfl, rfl⟩ (.cons ⟨rfl, rfl⟩ .nil)
  obtain ⟨a, answered⟩ := exists_of_isOk ok
  have calm : s.store.Calm Shop.catalog creation.context false Shop.laserAndPistol := by
    refine Store.calm_concat.2 ⟨Store.calm_concat.2 ⟨Store.calm_nil, ?_⟩, ?_⟩
    · exact s.store.not_disturbed_nil _ _ _ _
    · intro disturbed
      cases disturbed with
      | crowded named | rekeyed _ named => cases named
      | misled _ _ keyed other =>
        cases keyed
        exact other found
      | inherited _ stored _ left other => exact other ((kept _ stored).symm.trans left)
  exact ⟨distinct, apart, calls, ⟨a, answered⟩, calm,
    (Service.calls_apart_iff Shop.catalog 255 true distinct rfl apart calls answered).2 calm⟩

/-- the second pistol is refused in a call of its own -/
theorem pistolTwice_not_endsAlike :
    let opening := Shop.turn 1 (.createBundle Shop.owner none false)
    let creation := Shop.turn 2 (.create Shop.pistolTwice false)
    let parts := Shop.pistolTwice.mapIdx fun k spec => Shop.alone (k + 2) spec
    let s := (Service.new Shop.catalog 255 true).after [opening]
    DistinctIds ([opening] ++ [creation]) ∧ DistinctIds ([opening] ++ parts) ∧
      CallsFor creation.context false Shop.pistolTwice parts ∧
      (s.turn creation).1.isOk = true ∧ ¬s.EndsAlike creation parts := by
  intro opening creation parts s
  have held : DistinctIds ([opening] ++ [creation]) ∧ DistinctIds ([opening] ++ parts) ∧
      (s.turn creation).1.isOk = true ∧ ¬s.Answers parts := by decide +kernel
  obtain ⟨distinct, apart, ok, refused⟩ := held
  exact ⟨distinct, apart, .cons ⟨rfl, rfl⟩ (.cons ⟨rfl, rfl⟩ .nil), ok, fun alike => refused alike.1⟩

end SubscriptionBundles
