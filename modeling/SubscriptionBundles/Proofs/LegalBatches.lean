import SubscriptionBundles.Proofs.BatchOrder
import SubscriptionBundles.Proofs.Runs

/-!
# Legal batches

A batch is legal if every plan of it is to be had, at most one of them is a base, and a standalone
comes with nothing else.  Just the legal ones are accepted, and one that is not is refused for the
first thing that is wrong with it.

* `Gathers`                  every plan of a list is to be had, at most one of them a base;
* `Unmixed`                  no standalone stands beside a base or an add-on;
* `IsLegal`                  both of a batch;
* `StopsAt`                  what is wrong with one entitlement after others;
* `Batch.take`               one step of the pass, and `Batch.take_eq_error_iff` when it fails;
* `Batch.gather_eq_ok_iff`, `Batch.gather_eq_error_iff`  when the pass fails, and where;
* `Batch.isMixed_iff`        when what was gathered does not go together;
* `resolved_written`         what was resolved is what was asked for;
* `Batch.classify_legal`     what is accepted, in which order, and why the rest is refused.
-/

namespace SubscriptionBundles

/-- every plan is to be had, and at most one of them is a base -/
structure Gathers (c : Catalog) (specifiers : List EntitlementSpecifier) : Prop where
  resolves : ∀ s ∈ specifiers, ∀ specifier, s.plan = some specifier →
    ∃ plan, c.resolvePlan specifier s.overrides = .ok plan
  one_base : (resolved c specifiers).countP (·.category == .base) ≤ 1

/-- standalones come with neither a base nor an add-on -/
def Unmixed (es : List Entitlement) : Prop :=
  (∃ e ∈ es, e.category = .standalone) → ∀ e ∈ es, e.category ≠ .base ∧ e.category ≠ .addOn

structure IsLegal (c : Catalog) (specifiers : List EntitlementSpecifier) : Prop
    extends Gathers c specifiers where
  unmixed : Unmixed (resolved c specifiers)

/-- what is wrong with an entitlement that comes after others: its plan is not to be had, or it is a
base and so is one of the others -/
inductive StopsAt (c : Catalog) (earlier : List EntitlementSpecifier) (s : EntitlementSpecifier) :
    SubscriptionError → Prop
  | unresolved {specifier : PlanSpecifier} {e : CatalogError} (asked : s.plan = some specifier)
      (missing : c.resolvePlan specifier s.overrides = .error e) : StopsAt c earlier s (.catalog e)
  | second {e : Entitlement} (resolves : s.resolve? c = some e) (base : e.category = .base)
      (first : ∃ f ∈ resolved c earlier, f.category = .base) :
      StopsAt c earlier s (.invalidSpecifierBatch ("more than one base plan: " ++ e.plan.name))

/-! ## what was asked for -/

section
variable {c : Catalog}

theorem mem_resolved {specifiers : List EntitlementSpecifier} {e : Entitlement} :
    e ∈ resolved c specifiers ↔ ∃ s ∈ specifiers, s.resolve? c = some e :=
  List.mem_filterMap

theorem resolve?_isSome_iff {s : EntitlementSpecifier} {specifier : PlanSpecifier}
    (asked : s.plan = some specifier) :
    (s.resolve? c).isSome = true ↔ ∃ plan, c.resolvePlan specifier s.overrides = .ok plan := by
  constructor
  · intro some
    obtain ⟨e, he⟩ := Option.isSome_iff_exists.1 some
    exact ⟨e.plan, (exists_of_resolve? asked he).1⟩
  · rintro ⟨plan, found⟩
    rw [resolve?_of_ok asked found]
    rfl

/-- an entitlement is resolved by the catalog, from the specifier and overrides it was given -/
theorem resolved_plan {specifiers : List EntitlementSpecifier} :
    ∀ e ∈ resolved c specifiers, c.resolvePlan e.specifier e.overrides = .ok e.plan := by
  intro e he
  obtain ⟨s, _, here⟩ := mem_resolved.1 he
  cases asked : s.plan with
  | none =>
    rw [resolve?_of_none asked] at here
    cases here
  | some specifier =>
    obtain ⟨found, same⟩ := exists_of_resolve? asked here
    rw [same]
    exact found

/-- what was resolved is, in order, what was asked for with a plan -/
theorem resolved_written {specifiers : List EntitlementSpecifier} (h : Gathers c specifiers) :
    (resolved c specifiers).map (fun e => ⟨some e.specifier, e.overrides⟩) =
      specifiers.filter (·.plan.isSome) := by
  have resolves := h.resolves
  clear h
  unfold resolved
  induction specifiers with
  | nil => rfl
  | cons s rest ih =>
    have ih := ih fun t ht => resolves t (List.mem_cons_of_mem s ht)
    cases asked : s.plan with
    | none =>
      rw [List.filterMap_cons_none (resolve?_of_none asked), List.filter_cons_of_neg (by simp [asked])]
      exact ih
    | some specifier =>
      obtain ⟨plan, found⟩ := resolves s List.mem_cons_self specifier asked
      rw [List.filterMap_cons_some (resolve?_of_ok asked found), List.map_cons, ih,
        List.filter_cons_of_pos (by simp [asked]), ← asked]

end

namespace Batch
variable {c : Catalog} {b b' : Batch} {specifiers : List EntitlementSpecifier}

/-! ## one step -/

/-- a batch with what one more specifier asks for -/
def take (c : Catalog) (b : Batch) (s : EntitlementSpecifier) : Except SubscriptionError Batch :=
  match s.plan with
  | none => .ok b
  | some specifier => do
    let plan ← c.resolvePlan specifier s.overrides
    b.add ⟨plan, specifier, s.overrides⟩

theorem gather_eq_foldlM (c : Catalog) (b : Batch) (specifiers : List EntitlementSpecifier) :
    gather c b specifiers = specifiers.foldlM (take c) b := by
  induction specifiers generalizing b with
  | nil => rfl
  | cons s rest ih =>
    rw [List.foldlM_cons, gather, take]
    cases s.plan with
    | none => exact ih b
    | some specifier =>
      show _ = ((liftM (c.resolvePlan specifier s.overrides) >>= _) >>= _)
      rw [bind_assoc]
      simp only [ih]

theorem add_eq_error_iff {e : Entitlement} {stray : SubscriptionError} :
    b.add e = .error stray ↔ e.category = .base ∧ b.base.isSome = true ∧
      stray = .invalidSpecifierBatch ("more than one base plan: " ++ e.plan.name) := by
  unfold add
  cases kind : e.category with
  | base =>
    by_cases taken : b.base.isSome = true
    · simp [taken, eq_comm]
    · simp [taken]
  | addOn | standalone => simp

theorem take_eq_error_iff {s : EntitlementSpecifier} {stray : SubscriptionError} :
    take c b s = .error stray ↔
      (∃ specifier e, s.plan = some specifier ∧ c.resolvePlan specifier s.overrides = .error e ∧
        stray = .catalog e) ∨
      ∃ e, s.resolve? c = some e ∧ e.category = .base ∧ b.base.isSome = true ∧
        stray = .invalidSpecifierBatch ("more than one base plan: " ++ e.plan.name) := by
  unfold take
  cases asked : s.plan with
  | none =>
    rw [resolve?_of_none asked]
    simp
  | some specifier =>
    show (liftM (c.resolvePlan specifier s.overrides) >>= _) = _ ↔ _
    cases found : c.resolvePlan specifier s.overrides with
    | error e =>
      have none : s.resolve? c = none := by
        rw [← Option.not_isSome_iff_eq_none, resolve?_isSome_iff asked, found]
        exact nofun
      rw [none]
      show Except.error (SubscriptionError.catalog e) = _ ↔ _
      rw [Except.error.injEq]
      constructor
      · rintro rfl
        exact .inl ⟨specifier, e, rfl, found, rfl⟩
      · rintro (⟨_, _, same, missing, rfl⟩ | ⟨_, absent, _⟩)
        · cases same
          rw [found] at missing
          cases missing
          rfl
        · cases absent
    | ok plan =>
      rw [resolve?_of_ok asked found]
      show b.add _ = _ ↔ _
      rw [add_eq_error_iff]
      simp [found]

/-! ## the pass -/

theorem gather_eq_ok_iff : (∃ b, gather c empty specifiers = .ok b) ↔ Gathers c specifiers := by
  constructor
  · rintro ⟨b, gathered⟩
    refine ⟨?_, ?_⟩
    · intro s hs specifier asked
      refine (resolve?_isSome_iff asked).1 (gather_resolves gathered s hs ?_)
      rw [asked]
      rfl
    · rw [List.countP_eq_length_filter, ← (groups_of_gather gathered).1, Option.length_toList]
      cases b.base with
      | none => exact Nat.zero_le 1
      | some e => exact Nat.le_refl 1
  · intro h
    refine exists_gather ?_ (by simpa [empty] using h.one_base)
    intro s hs named
    obtain ⟨specifier, asked⟩ := Option.isSome_iff_exists.1 named
    exact (resolve?_isSome_iff asked).2 (h.resolves s hs specifier asked)

theorem base_isSome_iff (gathered : gather c empty specifiers = .ok b) :
    b.base.isSome = true ↔ ∃ e ∈ resolved c specifiers, e.category = .base := by
  have some : b.base.isSome = true ↔ b.base.toList ≠ [] := by cases b.base <;> simp
  rw [some, (groups_of_gather gathered).1]
  simp

/-- a pass fails at the first specifier that does not go with those before it -/
theorem gather_eq_error_iff {stray : SubscriptionError} :
    gather c empty specifiers = .error stray ↔
      ∃ before s after, specifiers = before ++ s :: after ∧ Gathers c before ∧
        StopsAt c before s stray := by
  rw [gather_eq_foldlM, foldlM_eq_error_iff]
  constructor
  · rintro ⟨before, s, after, mid, split, ok, stops⟩
    rw [← gather_eq_foldlM] at ok
    refine ⟨before, s, after, split, gather_eq_ok_iff.1 ⟨mid, ok⟩, ?_⟩
    rcases take_eq_error_iff.1 stops with ⟨_, _, asked, missing, rfl⟩ | ⟨_, here, base, taken, rfl⟩
    · exact .unresolved asked missing
    · exact .second here base ((base_isSome_iff ok).1 taken)
  · rintro ⟨before, s, after, split, gathers, stops⟩
    obtain ⟨mid, ok⟩ := gather_eq_ok_iff.2 gathers
    refine ⟨before, s, after, mid, split, by rw [← gather_eq_foldlM, ok], take_eq_error_iff.2 ?_⟩
    cases stops with
    | unresolved asked missing => exact .inl ⟨_, _, asked, missing, rfl⟩
    | second here base first => exact .inr ⟨_, here, base, (base_isSome_iff ok).2 first, rfl⟩

theorem isMixed_iff (gathered : gather c empty specifiers = .ok b) :
    b.isMixed = true ↔ ¬Unmixed (resolved c specifiers) := by
  obtain ⟨_, addOns, standalones⟩ := groups_of_gather gathered
  have addOn : (!b.addOns.isEmpty) = true ↔ ∃ e ∈ resolved c specifiers, e.category = .addOn := by
    rw [addOns]
    simp
  have standalone :
      (!b.standalones.isEmpty) = true ↔ ∃ e ∈ resolved c specifiers, e.category = .standalone := by
    rw [standalones]
    simp
  unfold isMixed Unmixed
  rw [Bool.and_eq_true, Bool.or_eq_true, base_isSome_iff gathered, addOn, standalone,
    Classical.not_imp]
  refine and_congr_right fun _ => ?_
  constructor
  · rintro (⟨e, he, kind⟩ | ⟨e, he, kind⟩) alone
    · exact (alone e he).1 kind
    · exact (alone e he).2 kind
  · intro company
    by_contra neither
    rw [not_or] at neither
    exact company fun e he =>
      ⟨fun kind => neither.1 ⟨e, he, kind⟩, fun kind => neither.2 ⟨e, he, kind⟩⟩

/-! ## legal batches -/

/-- a batch that was gathered is refused only for what does not go together -/
theorem classify_of_gather (gathered : gather c empty specifiers = .ok b) :
    classify c specifiers =
      if b.isMixed = true then
        .error (.invalidSpecifierBatch
          "standalone plans cannot be combined with base or add-on plans")
      else .ok b := by
  unfold classify
  rw [gathered]
  rfl

/-- one that cannot be gathered is refused for that -/
theorem classify_of_gather_error {stray : SubscriptionError}
    (stops : gather c empty specifiers = .error stray) :
    classify c specifiers = .error stray := by
  unfold classify
  rw [stops]
  rfl

theorem exists_classify_iff : (∃ b, classify c specifiers = .ok b) ↔ IsLegal c specifiers := by
  constructor
  · rintro ⟨b, ok⟩
    obtain ⟨gathered, plain⟩ := classify_eq_ok ok
    refine ⟨gather_eq_ok_iff.1 ⟨b, gathered⟩, ?_⟩
    by_contra mixed
    rw [(isMixed_iff gathered).2 mixed] at plain
    cases plain
  · intro legal
    obtain ⟨b, gathered⟩ := gather_eq_ok_iff.2 legal.toGathers
    refine ⟨b, ?_⟩
    rw [classify_of_gather gathered, if_neg]
    intro mixed
    exact (isMixed_iff gathered).1 mixed legal.unmixed

theorem classify_eq_error_iff {stray : SubscriptionError} :
    classify c specifiers = .error stray ↔
      (∃ before s after, specifiers = before ++ s :: after ∧ Gathers c before ∧
          StopsAt c before s stray) ∨
        Gathers c specifiers ∧ ¬IsLegal c specifiers ∧
          stray = .invalidSpecifierBatch
            "standalone plans cannot be combined with base or add-on plans" := by
  rw [← gather_eq_error_iff, ← gather_eq_ok_iff, ← exists_classify_iff]
  cases gathered : gather c empty specifiers with
  | error e =>
    rw [classify_of_gather_error gathered]
    simp
  | ok b =>
    rw [classify_of_gather gathered]
    by_cases mixed : b.isMixed = true
    · simp [mixed, eq_comm]
    · simp [mixed]

/-- Just the legal batches are accepted.  An accepted batch lists what was asked for with a plan, each
plan as the catalog resolves it: first the base, then the add-ons, then the standalones, those of one
kind in the order given.  A batch that is not legal is refused for the first plan that is not to be had
or the first second base, and only without either for what does not go together. -/
theorem classify_legal (c : Catalog) (specifiers : List EntitlementSpecifier) :
    ((∃ b, classify c specifiers = .ok b) ↔ IsLegal c specifiers) ∧
      (∀ b, classify c specifiers = .ok b →
        b.entitlements = (resolved c specifiers).filter (·.category == .base) ++
            (resolved c specifiers).filter (·.category == .addOn) ++
            (resolved c specifiers).filter (·.category == .standalone) ∧
          (resolved c specifiers).map (fun e => ⟨some e.specifier, e.overrides⟩) =
            specifiers.filter (·.plan.isSome) ∧
          (∀ e ∈ resolved c specifiers, c.resolvePlan e.specifier e.overrides = .ok e.plan) ∧
          (b.establishesBundle = true ↔
            ∃ e ∈ resolved c specifiers, e.category = .base ∨ e.category = .standalone)) ∧
      ∀ stray, classify c specifiers = .error stray ↔
        (∃ before s after, specifiers = before ++ s :: after ∧ Gathers c before ∧
            StopsAt c before s stray) ∨
          Gathers c specifiers ∧ ¬IsLegal c specifiers ∧
            stray = .invalidSpecifierBatch
              "standalone plans cannot be combined with base or add-on plans" := by
  refine ⟨exists_classify_iff, ?_, fun _ => classify_eq_error_iff⟩
  intro b ok
  obtain ⟨base, addOns, standalones⟩ := classify_groups ok
  refine ⟨?_, resolved_written (exists_classify_iff.1 ⟨b, ok⟩).toGathers, resolved_plan, ?_⟩
  · unfold entitlements
    rw [base, addOns, standalones]
  · rw [establishesBundle_iff ok, anchors_eq ok, List.countP_pos_iff]
    refine exists_congr fun e => and_congr_right fun _ => ?_
    cases e.category <;> simp [ProductCategory.anchorsBundle]

end Batch

theorem classify_legal_pair :
    let asked : List EntitlementSpecifier :=
      [.forPlan "laser-monthly", .existing, .forPlan "pistol-monthly"]
    let b : Batch := ⟨some ⟨Shop.pistol, .forPlan "pistol-monthly", []⟩,
      [⟨Shop.laser, .forPlan "laser-monthly", []⟩], []⟩
    Batch.classify Shop.catalog asked = .ok b ∧ IsLegal Shop.catalog asked ∧
      b.entitlements.map (·.plan) = [Shop.pistol, Shop.laser] ∧
      ∀ e ∈ resolved Shop.catalog asked,
        Shop.catalog.resolvePlan e.specifier e.overrides = .ok e.plan := by
  intro asked b
  have ok : Batch.classify Shop.catalog asked = .ok b := by decide +kernel
  obtain ⟨legal, accepted, _⟩ := Batch.classify_legal Shop.catalog asked
  obtain ⟨_, _, plans, _⟩ := accepted b ok
  exact ⟨ok, legal.1 ⟨b, ok⟩, rfl, plans⟩

/-- the second pistol is found before the plan that there is not -/
example : Batch.classify Shop.catalog
    [.forPlan "pistol-monthly", .forPlan "PISTOL-monthly", .forPlan "blaster-monthly"] =
      .error (.invalidSpecifierBatch "more than one base plan: pistol-monthly") := by
  decide +kernel

end SubscriptionBundles
