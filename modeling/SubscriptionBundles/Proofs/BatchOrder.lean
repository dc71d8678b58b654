import Mathlib.Data.List.Forall2
import SubscriptionBundles.Proofs.Bases
import SubscriptionBundles.Proofs.NewRecords

/-!
# Batches in another order

A batch holds its base first, and the rest of it in the order asked for.  Whether a plan of it is
let through, and with which record, does not depend on what stands before it.

* `Batch.Reordered`                 the same batch, but for the order of its groups;
* `Batch.classify_of_perm`          entitlements in another order make the batch in another order;
* `BatchChecks.Makes`               the record that an entitlement gets, wherever it stands;
* `BatchChecks.Plans`               records of entitlements, each of them such a record;
* `BatchChecks.plannedRecords_iff`  the records of a batch are just these.
-/

namespace SubscriptionBundles

/-! ## entitlements in another order -/

theorem exists_of_resolve? {c : Catalog} {s : EntitlementSpecifier} {specifier : PlanSpecifier}
    {e : Entitlement} (h : s.plan = some specifier) (resolves : s.resolve? c = some e) :
    c.resolvePlan specifier s.overrides = .ok e.plan ∧ e = ⟨e.plan, specifier, s.overrides⟩ := by
  cases found : c.resolvePlan specifier s.overrides with
  | error stray =>
    unfold EntitlementSpecifier.resolve? at resolves
    rw [h, Option.bind_some, found] at resolves
    cases resolves
  | ok plan =>
    rw [resolve?_of_ok h found] at resolves
    cases resolves
    exact ⟨rfl, rfl⟩

namespace Batch
variable {c : Catalog}

theorem exists_add {b : Batch} {e : Entitlement} (room : e.category = .base → b.base = none) :
    ∃ next, b.add e = .ok next := by
  unfold add
  cases kind : e.category with
  | base =>
    rw [room kind]
    exact ⟨_, rfl⟩
  | addOn | standalone => exact ⟨_, rfl⟩

/-- plans that are to be had, at most one of them a base, make a batch -/
theorem exists_gather {b : Batch} {specifiers : List EntitlementSpecifier}
    (resolves : ∀ s ∈ specifiers, s.plan.isSome = true → (s.resolve? c).isSome = true)
    (one : b.base.toList.length + (resolved c specifiers).countP (·.category == .base) ≤ 1) :
    ∃ b', gather c b specifiers = .ok b' := by
  induction specifiers generalizing b with
  | nil => exact ⟨b, rfl⟩
  | cons s rest ih =>
    have later : ∀ t ∈ rest, t.plan.isSome = true → (t.resolve? c).isSome = true :=
      fun t ht => resolves t (List.mem_cons_of_mem _ ht)
    unfold gather
    unfold resolved at one
    cases asked : s.plan with
    | none =>
      rw [List.filterMap_cons_none (resolve?_of_none asked)] at one
      exact ih later one
    | some specifier =>
      obtain ⟨e, he⟩ := Option.isSome_iff_exists.1
        (resolves s List.mem_cons_self (by rw [asked]; rfl))
      obtain ⟨found, same⟩ := exists_of_resolve? asked he
      rw [List.filterMap_cons_some he, List.countP_cons] at one
      have room : e.category = .base → b.base = none := by
        intro kind
        rw [kind] at one
        cases held : b.base with
        | none => rfl
        | some other =>
          rw [held] at one
          have two : 1 + (_ + 1) ≤ 1 := one
          omega
      obtain ⟨next, added⟩ := exists_add room
      have less : next.base.toList.length + (resolved c rest).countP (·.category == .base) ≤ 1 := by
        unfold resolved
        rcases add_eq_ok added with ⟨kind, free, rfl⟩ | ⟨kind, rfl⟩ | ⟨kind, rfl⟩
        · rw [kind, free] at one
          simpa [Nat.add_comm] using one
        · simpa [kind] using one
        · simpa [kind] using one
      obtain ⟨b', gathered⟩ := ih later less
      refine ⟨b', ?_⟩
      show (liftM (c.resolvePlan specifier s.overrides) >>= _) = _
      rw [found]
      show (b.add ⟨e.plan, specifier, s.overrides⟩ >>= _) = _
      rw [← same, added]
      exact gathered

/-- the same batch, but for the order of add-ons and standalones -/
structure Reordered (b b' : Batch) : Prop where
  base : b'.base = b.base
  addOns : b.addOns.Perm b'.addOns
  standalones : b.standalones.Perm b'.standalones

namespace Reordered
variable {b b' : Batch} (h : b.Reordered b')
include h

theorem entitlements : b.entitlements.Perm b'.entitlements := by
  unfold Batch.entitlements
  rw [h.base]
  exact (h.addOns.append_left _).append h.standalones

theorem isEmpty : b'.isEmpty = b.isEmpty := h.entitlements.isEmpty_eq.symm

theorem isMixed : b'.isMixed = b.isMixed := by
  unfold Batch.isMixed
  rw [h.base, h.addOns.isEmpty_eq, h.standalones.isEmpty_eq]

theorem establishesBundle : b'.establishesBundle = b.establishesBundle := by
  unfold Batch.establishesBundle
  rw [h.base, h.standalones.isEmpty_eq]

end Reordered

theorem base_eq_of_perm {o o' : Option Entitlement} (h : o.toList.Perm o'.toList) : o' = o := by
  cases o with
  | none =>
    have none : o'.toList = [] := h.symm.eq_nil
    rwa [Option.toList_eq_nil_iff] at none
  | some e =>
    have one : o'.toList = [e] := h.symm.eq_singleton
    rwa [Option.toList_eq_singleton_iff] at one

theorem classify_of_perm {specifiers specifiers' : List EntitlementSpecifier} {b : Batch}
    (h : classify c specifiers = .ok b) (perm : specifiers.Perm specifiers') :
    ∃ b', classify c specifiers' = .ok b' ∧ b.Reordered b' := by
  obtain ⟨base, addOns, standalones⟩ := classify_groups h
  have same : (resolved c specifiers).Perm (resolved c specifiers') := perm.filterMap _
  have resolves : ∀ s ∈ specifiers', s.plan.isSome = true → (s.resolve? c).isSome = true :=
    fun s hs => classify_resolves h s (perm.mem_iff.2 hs)
  have one : empty.base.toList.length +
      (resolved c specifiers').countP (·.category == .base) ≤ 1 := by
    show 0 + _ ≤ 1
    rw [Nat.zero_add, ← same.countP_eq, List.countP_eq_length_filter, ← base, Option.length_toList]
    cases b.base with
    | none => exact Nat.zero_le 1
    | some e => exact Nat.le_refl 1
  obtain ⟨b', gathered⟩ := exists_gather resolves one
  obtain ⟨base', addOns', standalones'⟩ := gather_groups gathered
  have reordered : b.Reordered b' := by
    refine ⟨base_eq_of_perm ?_, ?_, ?_⟩
    · rw [base, base']
      exact same.filter _
    · rw [addOns, addOns']
      exact same.filter _
    · rw [standalones, standalones']
      exact same.filter _
  refine ⟨b', ?_, reordered⟩
  unfold classify
  rw [gathered]
  show (if b'.isMixed = true then _ else _) = _
  rw [reordered.isMixed, (classify_eq_ok h).2]
  rfl

end Batch

/-! ## records plan by plan -/

namespace BatchChecks

/-- the start that an add-on takes over from a base that comes with it -/
def sharedStart? (k : BatchChecks) (plan : Plan) : Option Instant :=
  if plan.category = .addOn then k.batch.base.map fun _ => k.requested else none

/-- the record that an entitlement gets, wherever it stands -/
def Makes (k : BatchChecks) (e : Entitlement) (r : SubscriptionRecord) : Prop :=
  ∃ started, k.startDate (k.sharedStart? e.plan) e.plan = .ok started ∧
    (k.newSubscription r.id e started).record k.catalog = .ok r

/-- the records of entitlements, named in order, no plan of them beyond its limit -/
structure Plans (k : BatchChecks) (ids : Nat → Uuid) (drawn : Nat) (es : List Entitlement)
    (rs : List SubscriptionRecord) : Prop where
  names : rs.map (·.id) = (List.range' drawn es.length).map ids
  limits : ∀ e ∈ es, checkAddOnLimit e.plan k.snapshot.subscriptions k.joining = .ok ()
  makes : List.Forall₂ k.Makes es rs

section
variable {k : BatchChecks} {ids : Nat → Uuid} {drawn : Nat} {fixed : Option Instant}
  {e : Entitlement} {es : List Entitlement} {rs : List SubscriptionRecord}

theorem makes_map (makes : List.Forall₂ k.Makes es rs) {β : Type} (f : SubscriptionRecord → β)
    (g : Entitlement → β) (agree : ∀ id e started r,
      (k.newSubscription id e started).record k.catalog = .ok r → f r = g e) :
    rs.map f = es.map g := by
  induction makes with
  | nil => rfl
  | cons first _ ih =>
    obtain ⟨_, _, made⟩ := first
    rw [List.map_cons, List.map_cons, agree _ _ _ _ made, ih]

/-- of its batch only the base matters to the record of an entitlement -/
theorem Makes.of_base {r : SubscriptionRecord} (h : k.Makes e r) {batch : Batch}
    (base : batch.base = k.batch.base) (joining : List Plan) :
    Makes { k with batch := batch, joining := joining } e r := by
  obtain ⟨started, starts, made⟩ := h
  refine ⟨started, ?_, made⟩
  unfold startDate sharedStart? at starts ⊢
  rw [base]
  exact starts

theorem plans_nil_iff : k.Plans ids drawn [] rs ↔ rs = [] := by
  constructor
  · intro plans
    exact List.forall₂_nil_left_iff.1 plans.makes
  · rintro rfl
    exact ⟨rfl, List.forall_mem_nil _, .nil⟩

theorem plans_cons_iff : k.Plans ids drawn (e :: es) rs ↔
    ∃ started r later, k.startDate (k.sharedStart? e.plan) e.plan = .ok started ∧
      checkAddOnLimit e.plan k.snapshot.subscriptions k.joining = .ok () ∧
      (k.newSubscription (ids drawn) e started).record k.catalog = .ok r ∧
      k.Plans ids (drawn + 1) es later ∧ rs = r :: later := by
  have row (r : SubscriptionRecord) (later : List SubscriptionRecord) :
      (r :: later).map (·.id) = (List.range' drawn (e :: es).length).map ids ↔
        r.id = ids drawn ∧ later.map (·.id) = (List.range' (drawn + 1) es.length).map ids := by
    rw [List.length_cons, List.range'_succ, List.map_cons, List.map_cons, List.cons.injEq]
  constructor
  · intro plans
    obtain ⟨names, limits, makes⟩ := plans
    obtain ⟨r, later, ⟨started, starts, made⟩, others, rfl⟩ := List.forall₂_cons_left_iff.1 makes
    obtain ⟨within, limits⟩ := List.forall_mem_cons.1 limits
    obtain ⟨name, names⟩ := (row r later).1 names
    rw [name] at made
    exact ⟨started, r, later, starts, within, made, ⟨names, limits, others⟩, rfl⟩
  · intro given
    obtain ⟨started, r, later, starts, within, made, ⟨names, limits, makes⟩, rfl⟩ := given
    have name : r.id = ids drawn := by
      obtain ⟨_, _, _, rfl⟩ := NewSubscription.record_eq_ok made
      rfl
    refine ⟨(row r later).2 ⟨name, names⟩, List.forall_mem_cons.2 ⟨within, limits⟩, .cons ?_ makes⟩
    exact ⟨started, starts, by rwa [name]⟩

/-- plans that start as they would wherever they stand -/
theorem plannedRecords_iff_of_steady (steady : Option Instant → Prop)
    (stays : ∀ fixed started, steady fixed → steady (k.fix fixed started))
    (same : ∀ fixed, steady fixed → ∀ e ∈ es,
      k.startDate fixed e.plan = k.startDate (k.sharedStart? e.plan) e.plan) (h : steady fixed) :
    k.plannedRecords ids drawn fixed es = .ok rs ↔ k.Plans ids drawn es rs := by
  induction es generalizing drawn fixed rs with
  | nil =>
    rw [plans_nil_iff]
    show Except.ok [] = .ok rs ↔ _
    rw [Except.ok.injEq, eq_comm]
  | cons e es ih =>
    obtain ⟨here, later⟩ := List.forall_mem_cons.1 (same fixed h)
    have same' : ∀ fixed, steady fixed → ∀ e ∈ es, _ := fun f hf e he =>
      same f hf e (List.mem_cons_of_mem _ he)
    rw [plannedRecords_cons_eq_ok, plans_cons_iff, here]
    refine exists_congr fun started => exists_congr fun r => exists_congr fun later => ?_
    rw [ih same' (stays fixed started h)]

theorem startDate_of_base_none (alone : k.batch.base = none) (fixed other : Option Instant)
    (plan : Plan) : k.startDate fixed plan = k.startDate other plan := by
  unfold startDate
  rw [alone]
  cases fixed <;> cases other <;> rfl

theorem plannedRecords_iff {c : Catalog} {specifiers : List EntitlementSpecifier}
    (classified : Batch.classify c specifiers = .ok k.batch) :
    k.plannedRecords ids drawn none k.batch.entitlements = .ok rs ↔
      k.Plans ids drawn k.batch.entitlements rs := by
  cases brought : k.batch.base with
  | none =>
    exact plannedRecords_iff_of_steady (fun _ => True) (fun _ _ _ => trivial)
      (fun fixed _ e _ => startDate_of_base_none brought fixed _ e.plan) trivial
  | some base =>
    have kind : base.plan.category = .base :=
      Batch.category_of_base classified base (by rw [brought]; rfl)
    have plain : k.batch.standalones = [] := by
      have mixed := (Batch.classify_eq_ok classified).2
      unfold Batch.isMixed at mixed
      rw [brought] at mixed
      simpa using mixed
    have parts : k.batch.entitlements = base :: k.batch.addOns := by
      unfold Batch.entitlements
      rw [brought, plain, List.append_nil]
      rfl
    have alone : k.sharedStart? base.plan = none := by
      unfold sharedStart?
      rw [kind, if_neg]
      decide
    have beside : ∀ e ∈ k.batch.addOns, k.sharedStart? e.plan = some k.requested := by
      intro e he
      have addOn : e.plan.category = .addOn := Batch.category_of_mem_addOns classified e he
      unfold sharedStart?
      rw [if_pos addOn, brought]
      rfl
    have starts {started : Instant} (h : k.startDate none base.plan = .ok started) :
        k.fix none started = some k.requested := by
      have anchors : base.plan.category.anchorsBundle = true := by
        rw [kind]
        rfl
      unfold fix Batch.establishesBundle
      rw [brought, (bundleStartDate_of_anchors anchors h).2]
      rfl
    rw [parts, plannedRecords_cons_eq_ok, plans_cons_iff, alone]
    refine exists_congr fun started => exists_congr fun r => exists_congr fun later => ?_
    refine and_congr_right fun first => and_congr_right fun _ => and_congr_right fun _ =>
      and_congr_left fun _ => ?_
    -- once the base has fixed the start, nothing after it changes that
    rw [starts first]
    refine plannedRecords_iff_of_steady (· = some k.requested) ?_ ?_ rfl
    · rintro _ started rfl
      unfold fix
      split <;> rfl
    · rintro _ rfl e he
      rw [beside e he]

end

end BatchChecks

end SubscriptionBundles
