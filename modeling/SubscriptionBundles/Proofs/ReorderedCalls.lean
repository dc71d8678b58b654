import Mathlib.Algebra.BigOperators.Group.List.Basic
import SubscriptionBundles.Proofs.LetThrough
import SubscriptionBundles.Proofs.SplitCalls

/-!
# Calls in another order

A creation against one of the same specifiers in another order, the entitlements of each in another
order as well.

* `Shuffled`                      lists that agree but for the order and up to a relation;
* `Suits.reordered`               a specifier gets the same batch, its records in another order;
* `Store.commit_shuffled`         such batches leave the same store but for its order;
* `Service.create_order_free`     the call is answered in any order, and leaves the same.
-/

namespace SubscriptionBundles

open Service (Turn)

/-! ## lists in another order -/

/-- the entries of one list are, in some order, related to those of the other -/
def Shuffled {α : Type} (R : α → α → Prop) (l l' : List α) : Prop :=
  ∃ mid, l.Perm mid ∧ List.Forall₂ R mid l'

namespace Shuffled
variable {α β : Type} {R : α → α → Prop} {l l' : List α}

theorem symm (sym : ∀ a b, R a b → R b a) (h : Shuffled R l l') : Shuffled R l' l := by
  obtain ⟨mid, perm, related⟩ := h
  obtain ⟨other, related, perm⟩ := List.perm_comp_forall₂ perm related
  exact ⟨other, perm.symm, related.flip.imp fun a b h => sym b a h⟩

theorem flatMap_perm (h : Shuffled R l l') {f : α → List β} (agree : ∀ a b, R a b → (f a).Perm (f b)) :
    (l.flatMap f).Perm (l'.flatMap f) := by
  obtain ⟨mid, perm, related⟩ := h
  refine (perm.flatMap_right f).trans ?_
  clear perm
  induction related with
  | nil => exact .refl _
  | cons first _ ih =>
    rw [List.flatMap_cons, List.flatMap_cons]
    exact (agree _ _ first).append ih

theorem map_perm (h : Shuffled R l l') {f : α → β} (agree : ∀ a b, R a b → f a = f b) :
    (l.map f).Perm (l'.map f) := by
  rw [List.map_eq_flatMap, List.map_eq_flatMap]
  refine h.flatMap_perm ?_
  intro a b related
  rw [agree a b related]

theorem filterMap_perm (h : Shuffled R l l') {f : α → Option β} (agree : ∀ a b, R a b → f a = f b) :
    (l.filterMap f).Perm (l'.filterMap f) := by
  rw [List.filterMap_eq_flatMap_toList, List.filterMap_eq_flatMap_toList]
  refine h.flatMap_perm ?_
  intro a b related
  rw [agree a b related]

theorem reduceOption {os os' : List (Option α)} (h : Shuffled (Option.Rel R) os os') :
    Shuffled R os.reduceOption os'.reduceOption := by
  obtain ⟨mid, perm, related⟩ := h
  refine ⟨mid.reduceOption, perm.filterMap id, ?_⟩
  clear perm
  induction related with
  | nil => exact .nil
  | cons first _ ih =>
    cases first with
    | none =>
      rw [List.reduceOption_cons_of_none, List.reduceOption_cons_of_none]
      exact ih
    | some first =>
      rw [List.reduceOption_cons_of_some, List.reduceOption_cons_of_some]
      exact .cons first ih

/-- what the entries are matched with comes in the other order as well -/
theorem exists_matched (h : Shuffled R l l') {S : α → β → Prop} {T : β → β → Prop}
    (each : ∀ a a' b, R a a' → S a b → ∃ b', S a' b' ∧ T b b') {m : List β}
    (matched : List.Forall₂ S l m) : ∃ m', List.Forall₂ S l' m' ∧ Shuffled T m m' := by
  obtain ⟨mid, perm, related⟩ := h
  obtain ⟨n, matched, same⟩ := List.perm_comp_forall₂ perm.symm matched
  suffices ∃ m', List.Forall₂ S l' m' ∧ List.Forall₂ T n m' by
    obtain ⟨m', left, right⟩ := this
    exact ⟨m', left, n, same.symm, right⟩
  clear perm same
  induction related generalizing n with
  | nil =>
    cases matched
    exact ⟨[], .nil, .nil⟩
  | cons first _ ih =>
    obtain ⟨b, n, here, others, rfl⟩ := List.forall₂_cons_left_iff.1 matched
    obtain ⟨b', own, other⟩ := each _ _ b first here
    obtain ⟨m', left, right⟩ := ih n others
    exact ⟨b' :: m', .cons own left, .cons other right⟩

end Shuffled

/-! ## specifiers in another order -/

/-- the same specifier, but for the order of its entitlements -/
structure BundleSpecifier.Reordered (spec spec' : BundleSpecifier) : Prop where
  entitlements : spec.entitlements.Perm spec'.entitlements
  same : { spec with entitlements := spec'.entitlements } = spec'

namespace BundleSpecifier.Reordered
variable {spec spec' : BundleSpecifier} (h : spec.Reordered spec')
include h

theorem symm : spec'.Reordered spec := by
  refine ⟨h.entitlements.symm, ?_⟩
  rw [← h.same]

theorem mayDraw : spec.mayDraw = spec'.mayDraw := by
  unfold BundleSpecifier.mayDraw
  rw [h.entitlements.countP_eq]

end BundleSpecifier.Reordered

/-- the same batch, but for the order of its records -/
structure PlannedBatch.Reordered (b b' : PlannedBatch) : Prop where
  target : b'.target = b.target
  records : b.records.Perm b'.records

theorem PlannedBatch.Reordered.ids {b b' : PlannedBatch} (h : b.Reordered b') :
    b.ids.Perm b'.ids := by
  unfold PlannedBatch.ids newBundle?
  rw [h.target]
  exact (h.records.map _).append_left _

section
variable {s : Service} {ctx : Context} {c : Catalog} {ids ids' : Nat → Uuid} {rename : Bool}
  {p q : Progress} {spec spec' : BundleSpecifier} {batch : Batch} {b : PlannedBatch}
  {specs specs' : List BundleSpecifier} {bs bs' : List PlannedBatch}

theorem targetBundle_reordered {batch' : Batch} (reordered : spec.Reordered spec')
    (batches : batch.Reordered batch') (id : Uuid) (claimed : List String) :
    targetBundle s ctx spec' batch' id claimed rename =
      targetBundle s ctx spec batch id claimed rename := by
  unfold targetBundle
  rw [← reordered.same, batches.establishesBundle]

theorem makes_reordered {batch' : Batch} (reordered : spec.Reordered spec')
    (batches : batch.Reordered batch') (t : Target) {e : Entitlement} {r : SubscriptionRecord}
    (makes : (checksFor s.store ctx c p spec batch t).Makes e r) :
    (checksFor s.store ctx c p spec' batch' t).Makes e r := by
  have requested (snapshot : Snapshot) : requestedStart ctx spec' batch' snapshot =
      requestedStart ctx spec batch snapshot := by
    unfold requestedStart
    rw [← reordered.same, batches.establishesBundle]
  have migrated : spec'.migrated = spec.migrated := by
    rw [← reordered.same]
  have same : checksFor s.store ctx c p spec' batch' t =
      { checksFor s.store ctx c p spec batch t with
        batch := batch'
        joining := (p.after t batch').joiningBundle t.bundle.id } := by
    unfold checksFor
    simp only [requested, migrated]
  rw [same]
  exact makes.of_base batches.base _

theorem Suits.reordered (h : Suits s ctx c rename spec batch b) (reordered : spec.Reordered spec') :
    ∃ batch' b', Suits s ctx c rename spec' batch' b' ∧ b.Reordered b' := by
  obtain ⟨batch', classified, batches⟩ := Batch.classify_of_perm h.classified reordered.entitlements
  obtain ⟨records, makes, perm⟩ := List.perm_comp_forall₂ batches.entitlements.symm h.records
  refine ⟨batch', ⟨b.target, records⟩, ⟨classified, ?_, ?_, ?_⟩, rfl, perm.symm⟩
  · rw [batches.isEmpty]
    exact h.nonempty
  · rw [targetBundle_reordered reordered batches]
    exact h.target
  · exact makes.imp fun e r => makes_reordered reordered batches b.target

theorem Gets.reordered {o : Option PlannedBatch} (h : Gets s ctx c rename spec o)
    (reordered : spec.Reordered spec') :
    ∃ o', Gets s ctx c rename spec' o' ∧ Option.Rel PlannedBatch.Reordered o o' := by
  cases h with
  | nothing classified empty =>
    obtain ⟨batch', classified, batches⟩ := Batch.classify_of_perm classified reordered.entitlements
    exact ⟨none, .nothing classified (batches.isEmpty.trans empty), .none⟩
  | batch suits =>
    obtain ⟨batch', b', suits, batches⟩ := suits.reordered reordered
    exact ⟨some b', .batch suits, .some batches⟩

/-- what is let through is let through in another order, under identifiers in that order -/
theorem LetThrough.exists_reordered (h : LetThrough s ctx c ids rename .start specs bs)
    (reordered : Shuffled BundleSpecifier.Reordered specs specs') :
    ∃ bs', Shuffled PlannedBatch.Reordered bs bs' ∧ ∀ ids' : Nat → Uuid,
      bs'.flatMap (·.ids) = (List.range (bs.flatMap (·.ids)).length).map ids' →
        LetThrough s ctx c ids' rename .start specs' bs' := by
  obtain ⟨os, gets, rfl⟩ := h.gets
  obtain ⟨os', gets', batches⟩ := reordered.exists_matched
    (fun spec spec' o same gets => gets.reordered same) gets
  have batches := batches.reduceOption
  refine ⟨os'.reduceOption, batches, ?_⟩
  intro ids' names
  have keys : (os.reduceOption.filterMap (·.target.takenKey?)).Perm
      (os'.reduceOption.filterMap (·.target.takenKey?)) :=
    batches.filterMap_perm fun b b' same => by rw [same.target]
  refine ⟨⟨os', gets', rfl⟩, keys.nodup h.distinct, fun _ _ => List.not_mem_nil, ?_, ?_⟩
  · exact h.bears.of_perm (batches.flatMap_perm fun b b' same => same.records)
  · have length := (batches.flatMap_perm fun b b' same => same.ids).length_eq
    rw [← length, names, List.range_eq_range']
    rfl

/-- what is planned is planned in another order, up to the identifiers that are drawn -/
theorem PlannedAll.exists_reordered (order : s.storage.InOrder) (sound : s.store.Sound)
    (fresh : s.store.Fresh ((List.range (specs.map (·.mayDraw)).sum).map ids))
    (fresh' : s.store.Fresh ((List.range (specs'.map (·.mayDraw)).sum).map ids'))
    (all : PlannedAll s ctx c ids rename .start specs bs q)
    (reordered : Shuffled BundleSpecifier.Reordered specs specs') :
    ∃ (bs' : List PlannedBatch) (σ : Equiv.Perm Uuid) (q' : Progress),
      Shuffled PlannedBatch.Reordered bs bs' ∧
      (∀ id, id ∈ s.store.bundleIds ∨ id ∈ s.store.recordIds → σ id = id) ∧
      PlannedAll s ctx c ids' rename .start specs' (bs'.map (.relabel σ)) q' := by
  have drawn := fresh.sublist (all.ids_sublist order)
  have few : (bs.flatMap (·.ids)).length ≤ (specs'.map (·.mayDraw)).sum := by
    rw [← (reordered.map_perm fun spec spec' same => same.mayDraw).sum_eq]
    have part := (all.ids_sublist order).length_le
    rwa [List.length_map, List.length_range] at part
  have drawn' := fresh'.sublist ((List.range_sublist.2 few).map ids')
  have takes := all.takes order sound fresh
  have through := (plannedAll_iff order sound
    fun b hb new => takes.not_mem_of_newBundle? hb).1 ⟨q, all⟩
  obtain ⟨bs', batches, planned⟩ := through.exists_reordered reordered
  have names := batches.flatMap_perm fun b b' same => same.ids
  -- the identifiers in their new order, renamed to those that are drawn there
  obtain ⟨σ, fixed, moves⟩ := exists_renaming (s.store.bundleIds ++ s.store.recordIds)
    (names.nodup drawn.distinct) drawn'.distinct (by simp [names.length_eq])
    (fun id hid h =>
      (List.mem_append.1 hid).elim (drawn.bundles id) (drawn.records id) (names.symm.subset h))
    (fun id hid => (List.mem_append.1 hid).elim (drawn'.bundles id) (drawn'.records id))
  have back : bs'.flatMap (·.ids) =
      (List.range (bs.flatMap (·.ids)).length).map (σ.symm ∘ ids') := by
    rw [← List.map_map, ← moves, List.map_map, Equiv.symm_comp_self, List.map_id]
  have apart : ∀ b' ∈ bs', ∀ new, b'.newBundle? = some new → new.id ∉ s.store.bundleIds := by
    intro b' hb' new hn stored
    have added : new.id ∈ (bs'.filterMap (·.newBundle?)).map (·.id) :=
      List.mem_map_of_mem (List.mem_filterMap.2 ⟨b', hb', hn⟩)
    exact drawn.bundles new.id stored (names.symm.subset ((newIds_sublist bs').subset added))
  obtain ⟨q', all'⟩ := (plannedAll_iff order sound apart).2 (planned _ back)
  have all' := all'.relabel order (fun id h => fixed id (List.mem_append_left _ h)) σ.injective
  rw [← Function.comp_assoc, Equiv.self_comp_symm, Function.id_comp] at all'
  refine ⟨bs', σ, _, batches, ?_, all'⟩
  intro id hid
  exact fixed id (List.mem_append.2 hid)

/-! ## the store they leave -/

theorem Bundle.renamedBy_of_perm {renames renames' : List (Uuid × String)}
    (perm : renames.Perm renames') (once : ∀ r ∈ renames, ∀ r' ∈ renames, r.1 = r'.1 → r = r')
    (now : Instant) (b : Bundle) : b.renamedBy now renames = b.renamedBy now renames' := by
  by_cases renamed : b.id ∈ renames.map (·.1)
  · obtain ⟨r, hr, here, left⟩ := @renamedBy_of_mem now _ _ renamed
    obtain ⟨r', hr', here', left'⟩ := @renamedBy_of_mem now _ _ ((perm.map _).subset renamed)
    rw [left, left', once r hr r' (perm.symm.subset hr') (here.trans here'.symm)]
  · have other : b.id ∉ renames'.map (·.1) := fun h => renamed ((perm.map _).symm.subset h)
    rw [renamedBy_of_not_mem renamed, renamedBy_of_not_mem other]

/-- batches in another order leave the same, in another order -/
theorem Store.commit_shuffled (order : s.storage.InOrder) (sound : s.store.Sound)
    (all : PlannedAll s ctx c ids rename p specs bs q)
    (batches : Shuffled PlannedBatch.Reordered bs bs') :
    (s.store.commit ctx.now bs).bundles.Perm (s.store.commit ctx.now bs').bundles ∧
      (s.store.commit ctx.now bs).records.Perm (s.store.commit ctx.now bs').records := by
  have renames : (bs.flatMap (·.renames)).Perm (bs'.flatMap (·.renames)) :=
    batches.flatMap_perm fun b b' same => by
      unfold PlannedBatch.renames
      rw [same.target]
  have once : ∀ r ∈ bs.flatMap (·.renames), ∀ r' ∈ bs.flatMap (·.renames), r.1 = r'.1 → r = r' := by
    intro r hr r' hr' same
    obtain ⟨_, key, _, old, stored, _, held, rfl⟩ := (all.mem_renames order).1 hr
    obtain ⟨_, key', _, old', stored', _, held', rfl⟩ := (all.mem_renames order).1 hr'
    have one : old = old' := sound.bundle_eq stored stored' same
    subst one
    rw [held] at held'
    cases held'
    rfl
  constructor
  · unfold commit
    refine List.Perm.append (.of_eq (List.map_congr_left fun b _ => ?_)) ?_
    · exact Bundle.renamedBy_of_perm renames once ctx.now b
    · exact batches.filterMap_perm fun b b' same => by
        unfold PlannedBatch.newBundle?
        rw [same.target]
  · exact (batches.flatMap_perm fun b b' same => same.records).append_left _

end

/-! ## calls in another order -/

namespace Service
variable (c : Catalog) (max : Nat) (cached : Bool) {turns : List Turn} {t t' : Turn}
  {specs specs' : List BundleSpecifier} {rename : Bool}

/-- two turns leave the same, but for its order and the names of what is new -/
def LeaveAlike (s : Service) (t t' : Turn) : Prop :=
  ∃ σ : Equiv.Perm Uuid, (∀ id, id ∈ s.store.bundleIds ∨ id ∈ s.store.recordIds → σ id = id) ∧
    ((s.turn t).2.store.relabel σ).bundles.Perm (s.turn t').2.store.bundles ∧
    ((s.turn t).2.store.relabel σ).records.Perm (s.turn t').2.store.records

/-- what is answered is answered in another order -/
theorem exists_reordered (distinct : DistinctIds (turns ++ [t])) (distinct' : DistinctIds (turns ++ [t']))
    (request : t.request = .create specs rename) (request' : t'.request = .create specs' rename)
    (context : t'.context = t.context) (reordered : Shuffled BundleSpecifier.Reordered specs specs')
    (answered : (((new c max cached).after turns).turn t).1.isOk = true) :
    (((new c max cached).after turns).turn t').1.isOk = true ∧
      ((new c max cached).after turns).LeaveAlike t t' := by
  obtain ⟨serves, sound, fresh⟩ := reached c max cached distinct (List.prefix_refl _)
  obtain ⟨_, _, fresh'⟩ := reached c max cached distinct' (List.prefix_refl _)
  have on := run_onPlans c max cached (distinct.initial (List.prefix_append turns [t]))
  have step := reached_step c max cached distinct (List.prefix_refl _)
  generalize (new c max cached).after turns = s at *
  obtain ⟨a, ok⟩ := exists_of_isOk answered
  rw [ok] at step
  have ends := step.of_ok
  unfold Turn.drawn at fresh fresh'
  rw [request] at ends fresh
  rw [request'] at fresh'
  obtain ⟨bs, q, all, _, _, left⟩ := ends
  obtain ⟨bs', σ, q', batches, fixed, all'⟩ :=
    all.exists_reordered serves.inOrder sound fresh fresh' reordered
  obtain ⟨answer, left'⟩ := create_of_planned serves sound fresh' all'
  have turn : s.turn t' = s.handle t.context t'.ids (.create specs' rename) := by
    unfold Service.turn
    rw [context, request']
  obtain ⟨bundles, records⟩ := Store.commit_shuffled serves.inOrder sound all batches
  constructor
  · rw [turn, answer]
    rfl
  · refine ⟨σ, fixed, ?_⟩
    rw [turn, left, left', Store.commit_relabel sound on (fun id h => fixed id (.inl h))
      (fun id h => fixed id (.inr h))]
    exact ⟨bundles.map _, records.map _⟩

/-- a creation is answered in any order of what it asks for, and leaves the same -/
theorem create_order_free (distinct : DistinctIds (turns ++ [t]))
    (distinct' : DistinctIds (turns ++ [t']))
    (request : t.request = .create specs rename) (request' : t'.request = .create specs' rename)
    (context : t'.context = t.context)
    (reordered : Shuffled BundleSpecifier.Reordered specs specs') :
    let s := (new c max cached).after turns
    (s.turn t).1.isOk = (s.turn t').1.isOk ∧
      ((s.turn t).1.isOk = true → s.LeaveAlike t t') := by
  intro s
  have there := exists_reordered c max cached distinct distinct' request request' context reordered
  have back := exists_reordered c max cached distinct' distinct request' request context.symm
    (reordered.symm fun _ _ => BundleSpecifier.Reordered.symm)
  refine ⟨?_, fun answered => (there answered).2⟩
  rw [Bool.eq_iff_iff]
  exact ⟨fun answered => (there answered).1, fun answered => (back answered).1⟩

end Service

namespace Shop

/-- a laser for the first bundle, and a pistol with a laser of its own -/
def lasersFor : List BundleSpecifier :=
  [(BundleSpecifier.new [.forPlan "laser-monthly"]).withBundleId (.ofNat 1000),
    (BundleSpecifier.new [.forPlan "pistol-monthly", .forPlan "laser-monthly"]).withExternalKey "work"]

/-- the new bundle first, and its laser before its pistol -/
def lasersForward : List BundleSpecifier :=
  [(BundleSpecifier.new [.forPlan "laser-monthly", .forPlan "pistol-monthly"]).withExternalKey "work",
    (BundleSpecifier.new [.forPlan "laser-monthly"]).withBundleId (.ofNat 1000)]

/-- a creation in the context of the second turn, with identifiers of its own -/
def creation (k : Nat) (specs : List BundleSpecifier) : Turn :=
  ⟨.ofNow owner (midnight 20002), fun n => .ofNat (1000 * k + n), .create specs false⟩

end Shop

theorem create_order_free_lasers :
    let opening := Shop.turn 1 (.create [.new [.forPlan "pistol-monthly"]] false)
    let s := (Service.new Shop.catalog 255 true).after [opening]
    let t := Shop.creation 2 Shop.lasersFor
    let t' := Shop.creation 3 Shop.lasersForward
    DistinctIds ([opening] ++ [t]) ∧ DistinctIds ([opening] ++ [t']) ∧
      Shuffled BundleSpecifier.Reordered Shop.lasersFor Shop.lasersForward ∧
      (s.turn t).1.isOk = true ∧ (s.turn t').1.isOk = true ∧ s.LeaveAlike t t' := by
  intro opening s t t'
  have distinct : DistinctIds ([opening] ++ [t]) := by decide +kernel
  have distinct' : DistinctIds ([opening] ++ [t']) := by decide +kernel
  have reordered : Shuffled BundleSpecifier.Reordered Shop.lasersFor Shop.lasersForward :=
    ⟨_, .swap _ _ _, .cons ⟨.swap _ _ _, rfl⟩ (.cons ⟨.refl _, rfl⟩ .nil)⟩
  have answered : (s.turn t).1.isOk = true := by decide +kernel
  obtain ⟨same, alike⟩ := Service.create_order_free Shop.catalog 255 true distinct distinct' rfl rfl rfl
    reordered
  exact ⟨distinct, distinct', reordered, answered, same.symm.trans answered, alike answered⟩

end SubscriptionBundles
