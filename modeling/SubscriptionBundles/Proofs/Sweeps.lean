import SubscriptionBundles.Proofs.Commit
import SubscriptionBundles.Service.Changes

/-!
# What a sweep cancels

A sweep cancels stored subscriptions that are still open, one after the other, and none before it
starts.  What each of these cancellations keeps, a whole sweep keeps.

* `snapshotAround_stored`      a subscription is found in its bundle;
* `effectiveDate_ge`           no policy ends a subscription before its start;
* `Store.ownEnd`               when a cancellation ends a subscription that it is asked to end;
* `sweepSubscription_cases`    all that one subscription adds to a sweep;
* `sweepSubscription_keeps`, `sweep_keeps`  what every cancellation of an open subscription keeps;
* `TransitionEvent.Continues`  an event that a stored subscription may be given;
* `sweep_eq_ok`                the events of a sweep, and the subscriptions it was asked for;
* `Sweep.writes`               its write is accepted.
-/

namespace SubscriptionBundles

/-! ## records -/

section
variable {store : Store} {id : Uuid} {r : SubscriptionRecord}

theorem mem_of_record? (h : store.record? id = some r) : r ∈ store.records ∧ r.id = id :=
  ⟨List.mem_of_find?_eq_some h, by simpa using List.find?_some h⟩

theorem mem_recordIds_of_record? (h : store.record? id = some r) : id ∈ store.recordIds := by
  obtain ⟨hr, rfl⟩ := mem_of_record? h
  exact List.mem_map_of_mem hr

end

theorem Store.mem_recordsForBundle {s : Store} {r : SubscriptionRecord} (stored : r ∈ s.records)
    {id : Uuid} (home : r.bundleId = id) : r ∈ s.recordsForBundle id :=
  List.mem_filter.2 ⟨stored, beq_iff_eq.2 home⟩

section
variable {s : Store} (sound : s.Sound) {r : SubscriptionRecord}
include sound

theorem Snapshot.find?_take {id : Uuid} (within : r ∈ s.recordsForBundle id) (key : Option String)
    (now : Instant) :
    (take id key (s.recordsForBundle id) now).find? r.id = some (.rebuild r [] now) := by
  unfold find?
  rw [subscriptions_take, List.find?_map]
  show ((s.recordsForBundle id).find? fun q => q.id == r.id).map _ = _
  rw [sound.find?_recordsForBundle within]
  rfl

end

section
variable {s : Storage} (order : s.InOrder) (sound : s.store.Sound) {r : SubscriptionRecord}
  (hr : r ∈ s.store.records)
include order sound hr

theorem snapshotAround_stored (now : Instant) :
    s.snapshotAround r.id now =
      .ok (.take r.bundleId none (s.store.recordsForBundle r.bundleId) now) :=
  (snapshotAround_eq_ok order).2 ⟨r, sound.record?_eq hr, rfl⟩

omit order in
theorem Snapshot.require_stored (now : Instant) :
    (Snapshot.take r.bundleId none (s.store.recordsForBundle r.bundleId) now).require r.id =
      .ok (.rebuild r [] now) := by
  have within := Store.mem_recordsForBundle hr rfl
  unfold Snapshot.require
  rw [Snapshot.find?_take sound within]

end

/-! ## dates -/

/-- a term ends at the present at the earliest -/
theorem endOfTerm_ge {ctx : Context} {s : Subscription} {anchor : BillingAnchor} {date : Instant}
    (h : effectiveDate ctx s .endOfTerm anchor = .ok date) : presentFor ctx s ≤ date := by
  cases h
  cases charged : s.chargedThroughDate.filter (presentFor ctx s < ·) with
  | none => exact Instant.le_refl _
  | some through =>
    -- a paid date counts only if it is later
    have later := of_decide_eq_true (Option.filter_eq_some_iff.1 charged).2
    exact Int.le_of_lt later

theorem effectiveDate_ge {ctx : Context} {s : Subscription} {policy : BillingPolicy}
    {anchor : BillingAnchor} {date : Instant} (h : effectiveDate ctx s policy anchor = .ok date) :
    s.startDate ≤ date := by
  have present : s.startDate ≤ presentFor ctx s := Instant.le_max_right _ _
  cases policy with
  | immediate =>
    cases h
    exact present
  | endOfTerm => exact Int.le_trans present (endOfTerm_ge h)
  | startOfTerm =>
    unfold effectiveDate at h
    cases alignment : anchor.alignment with
    | none => simp [alignment] at h
    | some _ =>
      cases billed : anchor.billCycleDay with
      | none => simp [alignment, billed] at h
      | some day =>
        simp only [alignment, billed] at h
        split at h
        · cases h
          exact Instant.le_max_right _ _
        · cases h
  | illegal => cases h

/-- when terms end a stored subscription, going by the billing anchor of its own -/
def Store.ownEnd (s : Store) (ctx : Context) (c : Catalog) (terms : CancelTerms)
    (r : SubscriptionRecord) : Except SubscriptionError Instant := do
  let around := Snapshot.take r.bundleId none (s.recordsForBundle r.bundleId) ctx.now
  let anchor ← billingAnchor ctx c (.rebuild r [] ctx.now) around.base? terms.accountDay
  effectiveDate ctx (.rebuild r [] ctx.now) terms.policy anchor

theorem Store.ownEnd_ge {s : Store} {ctx : Context} {c : Catalog} {terms : CancelTerms}
    {r : SubscriptionRecord} {date : Instant} (h : s.ownEnd ctx c terms r = .ok date) :
    (Subscription.rebuild r [] ctx.now).startDate ≤ date := by
  obtain ⟨_, _, ends⟩ := bind_eq_ok.1 h
  exact effectiveDate_ge ends

/-! ## one subscription -/

section
variable {s : Storage} {ctx : Context} {c : Catalog} {terms : CancelTerms} {w w' : Sweep}

/-- a subscription that is not open is left alone, an open one is cancelled, and with a base the
add-ons of its bundle -/
theorem sweepSubscription_cases (order : s.InOrder) {id : Uuid}
    (ok : sweepSubscription s ctx c terms w id = .ok w') :
    ∃ target ∈ s.store.records, target.id = id ∧
      (w.isOpen (.rebuild target [] ctx.now) = false ∧ w' = w ∨
        w.isOpen (.rebuild target [] ctx.now) = true ∧ ∃ date,
          s.store.ownEnd ctx c terms target = .ok date ∧
          (target.category ≠ .base ∧
            w' = w.cancel (.rebuild target [] ctx.now) date ctx.now ∨
          target.category = .base ∧
            w' = (w.cancel (.rebuild target [] ctx.now) date ctx.now).cancelAddOns date ctx.now
              ((s.store.recordsForBundle target.bundleId).map (.rebuild · [] ctx.now)))) := by
  unfold sweepSubscription at ok
  obtain ⟨found, hf, ok⟩ := bind_eq_ok.1 ok
  obtain ⟨named, hn, rfl⟩ := (snapshotAround_eq_ok order).1 hf
  obtain ⟨target, ht, ok⟩ := bind_eq_ok.1 ok
  have member := Snapshot.require_eq_ok ht
  rw [Snapshot.subscriptions_take] at member
  obtain ⟨record, hr, rfl⟩ := List.mem_map.1 member
  have name : record.id = id := Snapshot.id_of_require ht
  obtain ⟨stored, home⟩ := List.mem_filter.1 hr
  have home : record.bundleId = named.bundleId := by simpa using home
  refine ⟨record, stored, name, ?_⟩
  split at ok
  · next shut =>
    cases ok
    exact .inl ⟨by simpa using shut, rfl⟩
  · next free =>
    obtain ⟨anchor, anchored, ok⟩ := bind_eq_ok.1 ok
    obtain ⟨date, ends, ok⟩ := bind_eq_ok.1 ok
    rw [← home] at anchored ok
    refine .inr ⟨by simpa using free, date, bind_eq_ok.2 ⟨anchor, anchored, ends⟩, ?_⟩
    rw [Snapshot.subscriptions_take] at ok
    split at ok
    · next kind =>
      cases ok
      exact .inr ⟨by simpa using kind, rfl⟩
    · next kind =>
      cases ok
      exact .inl ⟨by simpa using kind, rfl⟩

/-! ## what a sweep keeps -/

variable {P : Sweep → Prop}

/-- what every cancellation of an open subscription keeps, a row of them keeps -/
theorem Sweep.cancelAddOns_keeps {baseEnd processed : Instant} {subscriptions : List Subscription}
    (keeps : ∀ w, P w → ∀ t ∈ subscriptions, w.isOpen t = true → ∀ date, t.startDate ≤ date →
      P (w.cancel t date processed)) (first : P w) :
    P (w.cancelAddOns baseEnd processed subscriptions) := by
  induction subscriptions generalizing w with
  | nil => exact first
  | cons t rest ih =>
    have later := fun w h u hu => keeps w h u (List.mem_cons_of_mem t hu)
    refine @ih (w.cancelAddOn baseEnd processed t) later ?_
    unfold Sweep.cancelAddOn
    split
    · next held =>
      rw [Bool.and_eq_true] at held
      exact keeps w first t List.mem_cons_self held.2 _ (Instant.le_max_right _ _)
    · exact first

section
variable (order : s.InOrder)
  (keeps : ∀ w, P w → ∀ r ∈ s.store.records, w.isOpen (.rebuild r [] ctx.now) = true →
    ∀ date, (Subscription.rebuild r [] ctx.now).startDate ≤ date →
      P (w.cancel (.rebuild r [] ctx.now) date ctx.now))
  (first : P w)
include order keeps first

theorem sweepSubscription_keeps {id : Uuid} (ok : sweepSubscription s ctx c terms w id = .ok w') :
    P w' := by
  obtain ⟨target, stored, _, ⟨_, rfl⟩ | ⟨free, date, ends, ended⟩⟩ :=
    sweepSubscription_cases order ok
  · exact first
  have cancelled := keeps w first target stored free date (Store.ownEnd_ge ends)
  rcases ended with ⟨_, rfl⟩ | ⟨_, rfl⟩
  · exact cancelled
  · refine Sweep.cancelAddOns_keeps ?_ cancelled
    intro w h t ht
    obtain ⟨r, hr, rfl⟩ := List.mem_map.1 ht
    exact keeps w h r (List.mem_filter.1 hr).1

theorem sweep_keeps {ids : List Uuid}
    (ok : ids.foldlM (sweepSubscription s ctx c terms) w = .ok w') : P w' := by
  refine foldlM_keeps first ?_ ok
  intro w id next h ok
  exact sweepSubscription_keeps order keeps h ok

end

/-! ## the events of a sweep -/

/-- it gives a stored subscription another billing day or ends it, no earlier than that starts -/
def TransitionEvent.Continues (e : TransitionEvent) (store : Store) (now : Instant) : Prop :=
  ∃ r ∈ store.records, r.id = e.subscriptionId ∧
    ((∃ day, e.kind = .billCycleDayChange day) ∨
      e.kind = .cancel ∧ (Subscription.rebuild r [] now).startDate ≤ e.effectiveDate)

theorem Sweep.cancel_continues {store : Store} {now : Instant}
    (h : ∀ e ∈ w.events, e.Continues store now) {r : SubscriptionRecord} (stored : r ∈ store.records)
    {date : Instant} (late : (Subscription.rebuild r [] now).startDate ≤ date) (processed : Instant) :
    ∀ e ∈ (w.cancel (.rebuild r [] now) date processed).events, e.Continues store now := by
  intro e he
  rcases List.mem_append.1 he with he | he
  · exact h e he
  · rw [List.mem_singleton] at he
    rw [he]
    exact ⟨r, stored, rfl, .inr ⟨rfl, late⟩⟩

/-- whoever is listed is stored -/
theorem sweep_stored (order : s.InOrder) {ids : List Uuid}
    (ok : ids.foldlM (sweepSubscription s ctx c terms) w = .ok w') :
    ∀ id ∈ ids, id ∈ s.store.recordIds := by
  induction ids generalizing w with
  | nil => exact List.forall_mem_nil _
  | cons id rest ih =>
    rw [List.foldlM_cons, bind_eq_ok] at ok
    obtain ⟨next, here, ok⟩ := ok
    obtain ⟨target, stored, rfl, _⟩ := sweepSubscription_cases order here
    exact List.forall_mem_cons.2 ⟨List.mem_map_of_mem stored, ih ok⟩

theorem sweep_eq_ok (order : s.InOrder) (h : ∀ e ∈ w.events, e.Continues s.store ctx.now)
    {ids : List Uuid} (ok : ids.foldlM (sweepSubscription s ctx c terms) w = .ok w') :
    (∀ e ∈ w'.events, e.Continues s.store ctx.now) ∧ ∀ id ∈ ids, id ∈ s.store.recordIds := by
  refine ⟨?_, sweep_stored order ok⟩
  refine sweep_keeps (P := fun w => ∀ e ∈ w.events, e.Continues s.store ctx.now) order ?_ h ok
  intro w h r stored _ date late
  exact Sweep.cancel_continues h stored late ctx.now

end

/-! ## what a sweep writes and answers -/

theorem Sweep.filterMap_effects (w : Sweep) :
    w.effects.filterMap Effect.write? =
      if w.events.isEmpty then [] else [.appendEvents w.events] := by
  have counts (es : List TransitionEvent) :
      (es.map fun _ => Effect.count (.operation .cancel)).filterMap Effect.write? = [] := by
    rw [List.filterMap_map, List.filterMap_eq_nil_iff]
    intro e _
    rfl
  unfold Sweep.effects
  rw [List.filterMap_append, counts]
  split <;> rfl

theorem Sweep.writes {w : Sweep} {store : Store} (sound : store.Sound) {now : Instant}
    (h : ∀ e ∈ w.events, e.Continues store now) :
    (w.effects.filterMap Effect.write?).foldlM Store.apply store = .ok (store.append w.events) := by
  rw [Sweep.filterMap_effects]
  split
  · next none =>
    rw [List.isEmpty_iff] at none
    rw [none, Store.append_nil]
    rfl
  · show (store.appendEvents w.events >>= pure) = _
    rw [Store.append_of_stored sound.records]
    · rfl
    · intro e he
      obtain ⟨r, hr, id, _⟩ := h e he
      rw [← id]
      exact List.mem_map_of_mem hr

theorem subscriptions_of_stored {s : Storage} (order : s.InOrder) (now : Instant) {ids : List Uuid}
    (stored : ∀ id ∈ ids, id ∈ s.store.recordIds) : ∃ l, s.subscriptions now ids = .ok l := by
  unfold Storage.subscriptions
  induction ids with
  | nil => exact ⟨[], rfl⟩
  | cons id rest ih =>
    obtain ⟨r, hr⟩ := Option.isSome_iff_exists.1
      (find?_isSome_iff_mem.2 (stored id List.mem_cons_self))
    obtain ⟨l, hl⟩ := ih fun id' h => stored id' (List.mem_cons_of_mem _ h)
    refine ⟨.rebuild r [] now :: l, ?_⟩
    rw [List.mapM_cons, (requireRecord_eq_ok order).2 hr, hl]
    rfl

end SubscriptionBundles
