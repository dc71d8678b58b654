import SubscriptionBundles.Bundle.Batch
import SubscriptionBundles.Proofs.Outcomes

/-!
# What a batch holds

A batch is the resolved entitlements of a specifier, sorted into three groups.

* `EntitlementSpecifier.resolve?`   the entitlement that a specifier asks for;
* `Batch.classify_groups`           each group is the entitlements of its category, in order;
* `Batch.classify_perm`             none is lost and none is added;
* `Batch.classify_resolves`         every entitlement that names a plan is resolved;
* `Batch.establishesBundle_iff`     a bundle is brought by its base or its standalones.
-/

namespace SubscriptionBundles

/-- nothing if it refers to a subscription that exists or its plan is not to be had -/
def EntitlementSpecifier.resolve? (c : Catalog) (s : EntitlementSpecifier) : Option Entitlement :=
  s.plan.bind fun specifier =>
    match c.resolvePlan specifier s.overrides with
    | .ok plan => some ⟨plan, specifier, s.overrides⟩
    | .error _ => none

/-- the entitlements asked for, in the order given -/
def resolved (c : Catalog) (specifiers : List EntitlementSpecifier) : List Entitlement :=
  specifiers.filterMap (·.resolve? c)

theorem resolve?_of_none {c : Catalog} {s : EntitlementSpecifier} (h : s.plan = none) :
    s.resolve? c = none := by
  unfold EntitlementSpecifier.resolve?
  rw [h]
  rfl

theorem resolve?_of_ok {c : Catalog} {s : EntitlementSpecifier} {specifier : PlanSpecifier}
    {plan : Plan} (h : s.plan = some specifier) (ok : c.resolvePlan specifier s.overrides = .ok plan) :
    s.resolve? c = some ⟨plan, specifier, s.overrides⟩ := by
  unfold EntitlementSpecifier.resolve?
  rw [h]
  show (match c.resolvePlan specifier s.overrides with | .ok plan => _ | .error _ => none) = _
  rw [ok]

namespace Batch
variable {c : Catalog}

/-! ## one entitlement -/

theorem add_eq_ok {b b' : Batch} {e : Entitlement} (h : b.add e = .ok b') :
    (e.category = .base ∧ b.base = none ∧ b' = { b with base := some e }) ∨
      (e.category = .addOn ∧ b' = { b with addOns := b.addOns ++ [e] }) ∨
      (e.category = .standalone ∧ b' = { b with standalones := b.standalones ++ [e] }) := by
  unfold add at h
  split at h
  · next hc =>
    obtain ⟨free, same⟩ := refuse_eq_ok.1 h
    cases same
    exact .inl ⟨hc, by simpa using free, rfl⟩
  · next hc =>
    cases h
    exact .inr (.inl ⟨hc, rfl⟩)
  · next hc =>
    cases h
    exact .inr (.inr ⟨hc, rfl⟩)

/-! ## all entitlements -/

/-- what gathering one more specifier has gone through -/
theorem gather_cons_eq_ok {b b' : Batch} {s : EntitlementSpecifier}
    {rest : List EntitlementSpecifier} (h : gather c b (s :: rest) = .ok b') :
    (s.plan = none ∧ gather c b rest = .ok b') ∨
      ∃ e next, s.plan.isSome = true ∧ s.resolve? c = some e ∧ b.add e = .ok next ∧
        gather c next rest = .ok b' := by
  unfold gather at h
  split at h
  · next hs => exact .inl ⟨hs, h⟩
  · next specifier hs =>
    obtain ⟨plan, hp, h⟩ := bind_eq_ok.1 h
    obtain ⟨next, hn, h⟩ := bind_eq_ok.1 h
    refine .inr ⟨_, next, by rw [hs]; rfl, resolve?_of_ok hs (liftM_eq_ok.1 hp), hn, h⟩

theorem gather_groups {b b' : Batch} {specifiers : List EntitlementSpecifier}
    (h : gather c b specifiers = .ok b') :
    b'.base.toList = b.base.toList ++ (resolved c specifiers).filter (·.category == .base) ∧
      b'.addOns = b.addOns ++ (resolved c specifiers).filter (·.category == .addOn) ∧
      b'.standalones =
        b.standalones ++ (resolved c specifiers).filter (·.category == .standalone) := by
  induction specifiers generalizing b with
  | nil =>
    cases h
    simp [resolved]
  | cons s rest ih =>
    rcases gather_cons_eq_ok h with ⟨hs, h⟩ | ⟨e, next, _, he, hn, h⟩
    · unfold resolved
      rw [List.filterMap_cons_none (resolve?_of_none hs)]
      exact ih h
    · obtain ⟨hb, ha, hs⟩ := ih h
      unfold resolved at *
      rw [List.filterMap_cons_some he, hb, ha, hs]
      rcases add_eq_ok hn with ⟨hc, free, rfl⟩ | ⟨hc, rfl⟩ | ⟨hc, rfl⟩
      · simp [hc, free]
      · simp [hc]
      · simp [hc]

theorem gather_resolves {b b' : Batch} {specifiers : List EntitlementSpecifier}
    (h : gather c b specifiers = .ok b') :
    ∀ s ∈ specifiers, s.plan.isSome = true → (s.resolve? c).isSome = true := by
  induction specifiers generalizing b with
  | nil =>
    intro s hs
    cases hs
  | cons s rest ih =>
    intro t ht hp
    rcases gather_cons_eq_ok h with ⟨hs, h⟩ | ⟨e, next, _, he, _, h⟩
    · rcases List.mem_cons.1 ht with rfl | ht
      · rw [hs] at hp
        cases hp
      · exact ih h t ht hp
    · rcases List.mem_cons.1 ht with rfl | ht
      · rw [he]
        rfl
      · exact ih h t ht hp

/-! ## classified batches -/

theorem classify_eq_ok {specifiers : List EntitlementSpecifier} {b : Batch}
    (h : classify c specifiers = .ok b) : gather c empty specifiers = .ok b ∧ b.isMixed = false := by
  unfold classify at h
  obtain ⟨gathered, hg, h⟩ := bind_eq_ok.1 h
  obtain ⟨uniform, same⟩ := refuse_eq_ok.1 h
  cases same
  exact ⟨hg, by simpa using uniform⟩

section
variable {specifiers : List EntitlementSpecifier} {b : Batch}

/-- a pass from the empty batch sorts what it resolves into the three groups -/
theorem groups_of_gather (gathered : gather c empty specifiers = .ok b) :
    b.base.toList = (resolved c specifiers).filter (·.category == .base) ∧
      b.addOns = (resolved c specifiers).filter (·.category == .addOn) ∧
      b.standalones = (resolved c specifiers).filter (·.category == .standalone) :=
  gather_groups gathered

theorem classify_groups (h : classify c specifiers = .ok b) :
    b.base.toList = (resolved c specifiers).filter (·.category == .base) ∧
      b.addOns = (resolved c specifiers).filter (·.category == .addOn) ∧
      b.standalones = (resolved c specifiers).filter (·.category == .standalone) :=
  groups_of_gather (classify_eq_ok h).1

theorem classify_resolves (h : classify c specifiers = .ok b) :
    ∀ s ∈ specifiers, s.plan.isSome = true → (s.resolve? c).isSome = true :=
  gather_resolves (classify_eq_ok h).1

theorem filter_categories_perm (es : List Entitlement) :
    (es.filter (·.category == .base) ++ es.filter (·.category == .addOn) ++
      es.filter (·.category == .standalone)).Perm es := by
  induction es with
  | nil => exact .refl _
  | cons e es ih =>
    cases hc : e.category with
    | base =>
      simp only [List.filter_cons, hc]
      exact ih.cons e
    | addOn =>
      simp only [List.filter_cons, hc]
      refine .trans ?_ (ih.cons e)
      have moved : (es.filter (·.category == .base) ++ e :: es.filter (·.category == .addOn)).Perm
          (e :: (es.filter (·.category == .base) ++ es.filter (·.category == .addOn))) :=
        List.perm_middle
      exact moved.append_right _
    | standalone =>
      simp only [List.filter_cons, hc]
      exact List.perm_middle.trans (ih.cons e)

theorem classify_perm (h : classify c specifiers = .ok b) :
    b.entitlements.Perm (resolved c specifiers) := by
  obtain ⟨hb, ha, hs⟩ := classify_groups h
  unfold entitlements
  rw [hb, ha, hs]
  exact filter_categories_perm _

theorem classify_length (h : classify c specifiers = .ok b) :
    b.entitlements.length = specifiers.countP (·.plan.isSome) := by
  rw [(classify_perm h).length_eq]
  have all := classify_resolves h
  clear h
  unfold resolved
  induction specifiers with
  | nil => rfl
  | cons s rest ih =>
    have ih := ih fun t ht => all t (List.mem_cons_of_mem _ ht)
    cases hp : s.plan with
    | none =>
      rw [List.filterMap_cons_none (resolve?_of_none hp), ih]
      simp [hp]
    | some specifier =>
      obtain ⟨e, he⟩ := Option.isSome_iff_exists.1 (all s List.mem_cons_self (by rw [hp]; rfl))
      rw [List.filterMap_cons_some he, List.length_cons, ih]
      simp [hp]

theorem classify_isEmpty (h : classify c specifiers = .ok b) :
    b.isEmpty = !specifiers.any (·.plan.isSome) := by
  have len := classify_length h
  unfold isEmpty
  cases hany : specifiers.any (·.plan.isSome) with
  | true =>
    have pos : 0 < specifiers.countP (·.plan.isSome) := by
      rw [List.countP_pos_iff]
      simpa using hany
    cases he : b.entitlements with
    | nil =>
      rw [he, List.length_nil] at len
      omega
    | cons _ _ => rfl
  | false =>
    have zero : specifiers.countP (·.plan.isSome) = 0 := by
      rw [List.countP_eq_zero]
      simpa using hany
    rw [zero, List.length_eq_zero_iff] at len
    rw [len]
    rfl

theorem entitlements_of_isEmpty (empty : b.isEmpty = true) : b.entitlements = [] := by
  simpa [isEmpty] using empty

theorem exists_entitlement (nonempty : b.isEmpty = false) : ∃ e rest, b.entitlements = e :: rest := by
  refine List.exists_cons_of_ne_nil ?_
  simpa [isEmpty] using nonempty

theorem category_of_mem_addOns (h : classify c specifiers = .ok b) :
    ∀ e ∈ b.addOns, e.category = .addOn := by
  intro e he
  rw [(classify_groups h).2.1] at he
  simpa using (List.mem_filter.1 he).2

theorem category_of_mem_standalones (h : classify c specifiers = .ok b) :
    ∀ e ∈ b.standalones, e.category = .standalone := by
  intro e he
  rw [(classify_groups h).2.2] at he
  simpa using (List.mem_filter.1 he).2

theorem category_of_base (h : classify c specifiers = .ok b) :
    ∀ e ∈ b.base, e.category = .base := by
  intro e he
  have mem : e ∈ b.base.toList := by simpa using he
  rw [(classify_groups h).1] at mem
  simpa using (List.mem_filter.1 mem).2

/-- how many base and standalone plans a batch brings -/
def anchors (b : Batch) : Nat := b.entitlements.countP (·.category.anchorsBundle)

theorem anchors_eq (h : classify c specifiers = .ok b) :
    b.anchors = (resolved c specifiers).countP (·.category.anchorsBundle) :=
  (classify_perm h).countP_eq _

theorem anchors_eq_length (h : classify c specifiers = .ok b) :
    b.anchors = b.base.toList.length + b.standalones.length := by
  unfold anchors entitlements
  have hb : b.base.toList.countP (·.category.anchorsBundle) = b.base.toList.length := by
    rw [List.countP_eq_length]
    intro e he
    rw [category_of_base h e (by simpa using he)]
    rfl
  have ha : b.addOns.countP (·.category.anchorsBundle) = 0 := by
    rw [List.countP_eq_zero]
    intro e he
    rw [category_of_mem_addOns h e he]
    decide
  have hs : b.standalones.countP (·.category.anchorsBundle) = b.standalones.length := by
    rw [List.countP_eq_length]
    intro e he
    rw [category_of_mem_standalones h e he]
    rfl
  rw [List.countP_append, List.countP_append, hb, ha, hs]
  omega

theorem establishesBundle_iff (h : classify c specifiers = .ok b) :
    b.establishesBundle = true ↔ 0 < b.anchors := by
  rw [anchors_eq_length h]
  unfold establishesBundle
  cases b.base with
  | none => cases b.standalones <;> simp
  | some e =>
    simp only [Option.isSome_some, Bool.true_or, Option.toList_some, List.length_singleton, true_iff]
    omega

/-- the first plan of a batch that brings its bundle along is a base or standalone one -/
theorem head_of_establishes (h : classify c specifiers = .ok b) (brings : b.establishesBundle = true) :
    ∃ e rest, b.entitlements = e :: rest ∧ e.category.anchorsBundle = true := by
  unfold entitlements
  cases hb : b.base with
  | some e =>
    refine ⟨e, b.addOns ++ b.standalones, rfl, ?_⟩
    rw [category_of_base h e (by rw [hb]; rfl)]
    rfl
  | none =>
    have mixed := (classify_eq_ok h).2
    unfold establishesBundle at brings
    unfold isMixed at mixed
    cases hs : b.standalones with
    | nil => simp [hb, hs] at brings
    | cons e rest =>
      have none : b.addOns = [] := by simpa [hs, hb] using mixed
      refine ⟨e, rest, by rw [none]; rfl, ?_⟩
      rw [category_of_mem_standalones h e (by rw [hs]; exact List.mem_cons_self)]
      rfl

end

end Batch

end SubscriptionBundles
