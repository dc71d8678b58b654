import SubscriptionBundles.Proofs.Cancellations
import SubscriptionBundles.Proofs.StoredPreviews

/-!
# Which cancellations are answered

A cancellation is answered unless it has to end a subscription by terms that give it no end.  Whom it
has to end by their own terms is settled by the list alone.

* `sweepSubscription_answered_iff`  one subscription of a sweep;
* `Sweep.Reflects.answered_iff`     the rest of a list, from a sweep over the ids before it;
* `Service.cancel_answered_iff`     a whole call;
* `ownEnd_of_plain`, `ownEnd_of_startOfTerm`, `ownEnd_of_illegal`  which terms give an end.
-/

namespace SubscriptionBundles

/-! ## one subscription -/

section
variable {s : Storage} {ctx : Context} {c : Catalog} {terms : CancelTerms} {w : Sweep}
  {before ids : List Uuid} {r : SubscriptionRecord} (order : s.InOrder) (sound : s.store.Sound)
include order sound

theorem sweepSubscription_answered_iff (hr : r ∈ s.store.records) :
    (∃ w', sweepSubscription s ctx c terms w r.id = .ok w') ↔
      (w.isOpen (.rebuild r [] ctx.now) = true → ∃ date, s.store.ownEnd ctx c terms r = .ok date) := by
  constructor
  · rintro ⟨_, ok⟩ free
    obtain ⟨target, stored, same, ⟨shut, _⟩ | ⟨_, date, ends, _⟩⟩ := sweepSubscription_cases order ok
    all_goals obtain rfl := sound.record_eq stored hr same
    · rw [shut] at free
      cases free
    · exact ⟨date, ends⟩
  · intro ended
    cases free : w.isOpen (.rebuild r [] ctx.now) with
    | false => exact ⟨w, sweepSubscription_of_shut order sound hr free⟩
    | true =>
      obtain ⟨date, ends⟩ := ended free
      obtain ⟨anchor, anchored, dated⟩ := bind_eq_ok.1 ends
      unfold sweepSubscription
      rw [snapshotAround_stored order sound hr]
      show ∃ w', (Snapshot.require _ r.id >>= _) = .ok w'
      rw [Snapshot.require_stored sound hr]
      show ∃ w', (if !w.isOpen (.rebuild r [] ctx.now) then _
        else (billingAnchor ctx c _ _ _ >>= _)) = .ok w'
      rw [free, anchored]
      show ∃ w', (effectiveDate ctx _ _ anchor >>= _) = .ok w'
      rw [dated]
      show ∃ w', (if (Subscription.rebuild r [] ctx.now).category == .base then .ok _ else .ok _) =
        Except.ok w'
      split <;> exact ⟨_, rfl⟩

/-! ## a list -/

/-- those have to have an end by their own terms that were not reached before and that the rest
reaches by their own ids first -/
theorem Sweep.Reflects.answered_iff (h : w.Reflects s.store ctx c terms before)
    (stored : ∀ id ∈ ids, id ∈ s.store.recordIds) :
    (∃ w', ids.foldlM (SubscriptionBundles.sweepSubscription s ctx c terms) w = .ok w') ↔
      ∀ r ∈ s.store.records, r.neverEnds = true → before.find? (s.store.reaches r) = none →
        ids.find? (s.store.reaches r) = some r.id →
          ∃ date, s.store.ownEnd ctx c terms r = .ok date := by
  induction ids generalizing before w with
  | nil =>
    constructor
    · intro _ r _ _ _ first
      cases first
    · exact fun _ => ⟨w, rfl⟩
  | cons id rest ih =>
    obtain ⟨q, hq, rfl⟩ := List.mem_map.1 (stored id List.mem_cons_self)
    have later := fun x hx => stored x (List.mem_cons_of_mem _ hx)
    have own : s.store.reaches q q.id = true := Store.reaches_iff.2 (.inl rfl)
    have concat (r : SubscriptionRecord) : (before ++ [q.id]).find? (s.store.reaches r) = none ↔
        before.find? (s.store.reaches r) = none ∧ ¬s.store.reaches r q.id = true := by
      rw [List.find?_append, Option.or_eq_none_iff]
      refine and_congr_right fun _ => ?_
      rw [List.find?_eq_none]
      simp
    constructor
    · rintro ⟨w', ok⟩ r hr lasting unreached first
      rw [List.foldlM_cons, bind_eq_ok] at ok
      obtain ⟨next, hn, ok⟩ := ok
      by_cases given : s.store.reaches r q.id = true
      · -- the id is the first to reach it, so it is its own
        rw [List.find?_cons_of_pos given] at first
        obtain rfl := sound.record_eq hq hr (Option.some.inj first)
        exact (sweepSubscription_answered_iff order sound hq).1 ⟨next, hn⟩
          ((h.isOpen_iff sound hq).2 ⟨lasting, unreached⟩)
      · rw [List.find?_cons_of_neg given] at first
        exact (ih (h.sweepSubscription order sound hn) later).1 ⟨w', ok⟩ r hr lasting
          ((concat r).2 ⟨unreached, given⟩) first
    · intro ended
      have here : ∃ next, SubscriptionBundles.sweepSubscription s ctx c terms w q.id = .ok next := by
        refine (sweepSubscription_answered_iff order sound hq).2 fun free => ?_
        obtain ⟨lasting, unreached⟩ := (h.isOpen_iff sound hq).1 free
        exact ended q hq lasting unreached (List.find?_cons_of_pos own)
      obtain ⟨next, hn⟩ := here
      have left : ∃ w', rest.foldlM (SubscriptionBundles.sweepSubscription s ctx c terms) next =
          .ok w' := by
        refine (ih (h.sweepSubscription order sound hn) later).2 ?_
        intro r hr lasting unreached first
        obtain ⟨unreached, given⟩ := (concat r).1 unreached
        refine ended r hr lasting unreached ?_
        rw [List.find?_cons_of_neg given]
        exact first
      obtain ⟨w', ok⟩ := left
      rw [List.foldlM_cons]
      exact ⟨w', bind_eq_ok.2 ⟨next, hn, ok⟩⟩

end

/-! ## a call -/

namespace Service
variable {s : Service} {c : Catalog} {max : Nat} {ctx : Context} {ids : List Uuid}
  {terms : CancelTerms}

theorem cancel_answered_iff (h : s.Serves c max) (sound : s.store.Sound)
    (stored : ∀ id ∈ ids, id ∈ s.store.recordIds) :
    (∃ shown, (s.cancel ctx ids terms).1 = .ok shown) ↔
      ∀ r ∈ s.store.records, r.neverEnds = true → ids.find? (s.store.reaches r) = some r.id →
        ∃ date, s.store.ownEnd ctx c terms r = .ok date := by
  have listed := (Sweep.Reflects.start s.store ctx c terms).answered_iff h.inOrder sound stored
  have swept_iff : (∃ shown, (s.cancel ctx ids terms).1 = .ok shown) ↔
      ∃ w, ids.foldlM (sweepSubscription s.storage ctx c terms) .start = .ok w := by
    constructor
    · rintro ⟨_, answered⟩
      obtain ⟨w, swept, _⟩ := cancel_swept h sound answered
      exact ⟨w, swept⟩
    · rintro ⟨w, swept⟩
      obtain ⟨left, serves, answer⟩ := cancel_of_swept h sound swept
      rw [answer]
      refine subscriptions_of_stored serves.inOrder ctx.now ?_
      intro id hid
      change id ∈ (s.cancel ctx ids terms).2.store.recordIds
      rw [left, Store.recordIds_append]
      exact stored id hid
  rw [swept_iff, listed]
  refine forall₂_congr fun r _ => ?_
  rw [List.find?_nil]
  exact ⟨fun all lasting => all lasting rfl, fun all lasting _ => all lasting⟩

end Service

/-! ## terms -/

/-- the billing day that terms go by for a stored subscription -/
def Store.billedOn (s : Store) (ctx : Context) (c : Catalog) (terms : CancelTerms)
    (r : SubscriptionRecord) : UInt32 :=
  let around := Snapshot.take r.bundleId none (s.recordsForBundle r.bundleId) ctx.now
  billCycleDayUnder ctx (.rebuild r [] ctx.now) around.base? terms.accountDay c.billingAlignment

section
variable {s : Store} {c : Catalog} (on : s.OnPlans c) {r : SubscriptionRecord} (hr : r ∈ s.records)
  (ctx : Context) {terms : CancelTerms}
include on hr

theorem ownEnd_eq (terms : CancelTerms) : s.ownEnd ctx c terms r =
    effectiveDate ctx (.rebuild r [] ctx.now) terms.policy
      ⟨some c.billingAlignment, some (s.billedOn ctx c terms r)⟩ := by
  unfold Store.ownEnd
  show (billingAnchor ctx c _ _ _ >>= _) = _
  rw [billingAnchor_eq on hr]
  rfl

theorem ownEnd_of_plain (plain : terms.policy = .immediate ∨ terms.policy = .endOfTerm) :
    ∃ date, s.ownEnd ctx c terms r = .ok date := by
  rw [ownEnd_eq on hr]
  rcases plain with policy | policy
  all_goals
    rw [policy]
    exact ⟨_, rfl⟩

/-- by the start of a term, it ends if a term has begun -/
theorem ownEnd_of_startOfTerm (policy : terms.policy = .startOfTerm) :
    (∃ date, s.ownEnd ctx c terms r = .ok date) ↔
      ∃ d, termStart? (ctx.localDate (presentFor ctx (.rebuild r [] ctx.now)))
        (s.billedOn ctx c terms r) = some d := by
  rw [ownEnd_eq on hr, policy]
  unfold effectiveDate
  simp only
  split
  · next d begun => exact ⟨fun _ => ⟨d, begun⟩, fun _ => ⟨_, rfl⟩⟩
  · next none =>
    rw [none]
    exact ⟨nofun, fun ⟨_, begun⟩ => nomatch begun⟩

theorem ownEnd_of_illegal (policy : terms.policy = .illegal) :
    ¬∃ date, s.ownEnd ctx c terms r = .ok date := by
  rw [ownEnd_eq on hr, policy]
  exact nofun

end

end SubscriptionBundles
