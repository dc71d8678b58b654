import SubscriptionBundles.Bundle.StartDate
import SubscriptionBundles.Proofs.PlanInForce
import SubscriptionBundles.Proofs.Outcomes

/-!
# The base of a bundle

Add-ons are checked against the base of their bundle that was created last.

* `Snapshot.base?_take`        the base of a snapshot is the stored one;
* `mem_of_baseRecord?`         it is a base of the bundle;
* `bundleStartDate_addOn_iff`  when an add-on may start on a bundle's base;
* `bundleStartDate_label`      what errors call a bundle decides nothing;
* `checkAddOnOnBase_open`      a base that takes an add-on is not over when the add-on starts.
-/

namespace SubscriptionBundles

/-! ## the base that counts -/

theorem latestBy_map {α β κ : Type} [LE κ] [DecidableLE κ] (key : β → κ) (f : α → β) (l : List α) :
    latestBy key (l.map f) = (latestBy (fun a => key (f a)) l).map f := by
  induction l with
  | nil => rfl
  | cons a l ih =>
    rw [List.map_cons]
    unfold latestBy
    rw [ih]
    cases latestBy (fun a => key (f a)) l with
    | none => rfl
    | some b =>
      show (if key (f a) ≤ key (f b) then some (f b) else some (f a)) =
        (if key (f a) ≤ key (f b) then some b else some a).map f
      split <;> rfl

namespace Snapshot

theorem latest?_take (id : Uuid) (key : Option String) (records : List SubscriptionRecord)
    (now : Instant) (qualifies : Member → Bool) :
    (take id key records now).latest? qualifies =
      (latestBy (·.createdUtc) (records.filter fun r => qualifies ⟨r, .rebuild r [] now⟩)).map
        (.rebuild · [] now) := by
  unfold latest? take
  rw [List.filter_map, latestBy_map, Option.map_map]
  rfl

theorem base?_take (s : Store) (id : Uuid) (key : Option String) (now : Instant) :
    (take id key (s.recordsForBundle id) now).base? =
      (s.baseRecord? id).map (.rebuild · [] now) :=
  latest?_take id key _ now _

end Snapshot

theorem mem_of_baseRecord? {s : Store} {id : Uuid} {r : SubscriptionRecord}
    (h : s.baseRecord? id = some r) : r ∈ s.records ∧ r.bundleId = id ∧ r.category = .base := by
  obtain ⟨found, base⟩ := List.mem_filter.1 (mem_of_latestBy _ h)
  obtain ⟨stored, home⟩ := List.mem_filter.1 found
  exact ⟨stored, by simpa using home, by simpa using base⟩

/-! ## add-ons on a base -/

section
variable {c : Catalog} {plan : Plan} {label : String} {anchor : Option Subscription}
  {requested started : Instant}

theorem bundleStartDate_addOn_iff (kind : plan.category = .addOn) :
    bundleStartDate c plan label anchor requested = .ok started ↔
      ∃ base, anchor = some base ∧ ¬requested < base.startDate ∧
        checkAddOnOnBase c base plan requested = .ok () ∧ started = base.startDate := by
  unfold bundleStartDate
  rw [kind]
  cases anchor with
  | none =>
    constructor
    · intro h
      cases h
    · intro given
      obtain ⟨_, same, _⟩ := given
      cases same
  | some base =>
    show (if requested < base.startDate then Except.error _ else _) = _ ↔ _
    rw [refuse_eq_ok, bind_eq_ok]
    constructor
    · intro given
      obtain ⟨late, _, suits, same⟩ := given
      exact ⟨base, rfl, late, suits, (pure_eq_ok.1 same).symm⟩
    · intro given
      obtain ⟨_, same, late, suits, rfl⟩ := given
      cases same
      exact ⟨late, (), suits, rfl⟩

theorem bundleStartDate_of_ne_addOn (kind : plan.category ≠ .addOn) (label : String) :
    bundleStartDate c plan label anchor requested =
      if anchor.any (·.isActiveOrPending) then .error (.baseAlreadyExists label)
      else .ok requested := by
  unfold bundleStartDate
  cases hc : plan.category with
  | addOn => exact absurd hc kind
  | base | standalone => rfl

theorem bundleStartDate_label (other : String)
    (h : bundleStartDate c plan label anchor requested = .ok started) :
    bundleStartDate c plan other anchor requested = .ok started := by
  by_cases kind : plan.category = .addOn
  · rw [bundleStartDate_addOn_iff kind] at h ⊢
    exact h
  · rw [bundleStartDate_of_ne_addOn kind] at h ⊢
    rw [refuse_eq_ok] at h ⊢
    exact h

theorem checkAddOnOnBase_open {base : Subscription}
    (h : checkAddOnOnBase c base plan requested = .ok ()) :
    base.state ≠ .cancelled ∧ ∀ date, base.endDate = some date → requested < date := by
  obtain ⟨open_, _⟩ := refuse_eq_ok.1 h
  obtain ⟨running, ends⟩ := not_or.1 open_
  refine ⟨running, ?_⟩
  intro date hd
  rw [hd, Option.any_some, decide_eq_true_eq, Instant.le_def] at ends
  rw [Instant.lt_def]
  omega

end

end SubscriptionBundles
