import SubscriptionBundles.Proofs.Orphans

/-!
# The next event of a subscription

A turn creates subscriptions, or appends at most one event to each of those that are stored, in the
next number of that subscription.

* `TransitionEvent.Extends`     the next event of a stored subscription;
* `Sweep.Extends`               the cancellations of a sweep, one to a subscription;
* `sweep_extends`               every sweep keeps to that;
* `SubscriptionRecord.Next`     a record after a turn;
* `Service.turn_next`           every record of a turn is new or follows a stored one.
-/

namespace SubscriptionBundles

open Service (Turn)

/-! ## events -/

/-- it has the next number, and is a change of the billing day, or the end of what has none -/
structure TransitionEvent.Extends (e : TransitionEvent) (r : SubscriptionRecord) (now : Instant) :
    Prop where
  own : e.subscriptionId = r.id
  next : e.sequence = (Subscription.rebuild r [] now).nextSequence
  kind : (∃ day, e.kind = .billCycleDayChange day) ∨ e.kind = .cancel ∧ r.neverEnds = true

/-! ## sweeps -/

/-- no subscription is cancelled twice, and none that has an end -/
structure Sweep.Extends (w : Sweep) (store : Store) (now : Instant) : Prop where
  tracked : w.Exact
  once : (w.events.map (·.subscriptionId)).Nodup
  next : ∀ e ∈ w.events, ∃ r ∈ store.records, e.Extends r now

namespace Sweep.Extends
variable {w : Sweep} {store : Store} {now : Instant}

theorem start (store : Store) (now : Instant) : Sweep.start.Extends store now :=
  ⟨rfl, .nil, List.forall_mem_nil _⟩

variable (h : w.Extends store now)
include h

theorem cancel {r : SubscriptionRecord} (stored : r ∈ store.records)
    (free : w.isOpen (.rebuild r [] now) = true) (date processed : Instant) :
    (w.cancel (.rebuild r [] now) date processed).Extends store now := by
  obtain ⟨lasting, unreached⟩ := (w.isOpen_rebuild_iff r now).1 free
  refine ⟨h.tracked.cancel _ date processed, ?_, ?_⟩
  · show ((w.events ++ [_]).map TransitionEvent.subscriptionId).Nodup
    rw [List.map_append, List.nodup_append]
    refine ⟨h.once, List.nodup_singleton _, ?_⟩
    intro a ha b hb same
    obtain ⟨e, he, rfl⟩ := List.mem_map.1 ha
    rw [List.map_singleton, List.mem_singleton] at hb
    exact unreached (h.tracked.mem_reached.2 ⟨e, he, same.trans hb⟩)
  · intro e he
    rcases List.mem_append.1 he with he | he
    · exact h.next e he
    · rw [List.mem_singleton] at he
      rw [he]
      exact ⟨r, stored, rfl, rfl, .inr ⟨rfl, lasting⟩⟩

end Sweep.Extends

theorem sweep_extends {s : Storage} (order : s.InOrder) {ctx : Context} {c : Catalog}
    {terms : CancelTerms} {w w' : Sweep} (h : w.Extends s.store ctx.now) {ids : List Uuid}
    (ok : ids.foldlM (sweepSubscription s ctx c terms) w = .ok w') : w'.Extends s.store ctx.now := by
  refine sweep_keeps (P := fun w => w.Extends s.store ctx.now) order ?_ h ok
  intro w h r stored free date _
  exact h.cancel stored free date ctx.now

/-! ## records -/

/-- the same subscription with the next event, or with none -/
structure SubscriptionRecord.Next (r later : SubscriptionRecord) (now : Instant) : Prop extends
    r.Grew later where
  next : later.events = r.events ∨ ∃ e, later.events = r.events ++ [e] ∧ e.Extends r now

namespace SubscriptionRecord.Next
variable {r : SubscriptionRecord} {now : Instant}

theorem refl (r : SubscriptionRecord) (now : Instant) : r.Next r now := ⟨.refl r, .inl rfl⟩

/-- of events for different subscriptions, a record takes one at most -/
theorem withEvents {store : Store} (sound : store.Sound) (stored : r ∈ store.records)
    {events : List TransitionEvent} (once : (events.map (·.subscriptionId)).Nodup)
    (next : ∀ e ∈ events, ∃ q ∈ store.records, e.Extends q now) :
    r.Next (r.withEvents events) now := by
  refine ⟨.withEvents events r, ?_⟩
  have own : ∀ e ∈ events.filter (fun e => e.subscriptionId == r.id), e.Extends r now := by
    intro e he
    obtain ⟨he, own⟩ := List.mem_filter.1 he
    obtain ⟨q, hq, extends_⟩ := next e he
    have same : q.id = r.id := extends_.own.symm.trans (by simpa using own)
    rw [← sound.record_eq hq stored same]
    exact extends_
  have alone : ((events.filter fun e => e.subscriptionId == r.id).map (·.subscriptionId)).Nodup :=
    once.sublist (List.filter_sublist.map _)
  show r.events ++ events.filter _ = _ ∨ _
  cases mine : events.filter fun e => e.subscriptionId == r.id with
  | nil => exact .inl (List.append_nil _)
  | cons e rest =>
    rw [mine] at own alone
    cases rest with
    | nil => exact .inr ⟨e, by rw [← mine]; rfl, own e List.mem_cons_self⟩
    | cons f rest =>
      -- two events of one subscription
      have first := (own e List.mem_cons_self).own
      have second := (own f (List.mem_cons_of_mem e List.mem_cons_self)).own
      rw [List.map_cons, List.map_cons, first, second] at alone
      exact absurd List.mem_cons_self (List.nodup_cons.1 alone).1

end SubscriptionRecord.Next

/-! ## turns -/

namespace Service
variable {s : Service} {c : Catalog} {max : Nat} {t : Turn}

/-- every record is new, or follows one that was stored -/
theorem turn_next (h : s.Serves c max) (sound : s.store.Sound) (fresh : s.store.Fresh t.drawn) :
    ∀ r' ∈ (s.turn t).2.store.records,
      (∃ n : NewSubscription, n.record c = .ok r') ∨
        ∃ r ∈ s.store.records, r.Next r' t.context.now := by
  have step := (handle_step h sound t fresh).1
  change Step s c t (s.turn t).1 (s.turn t).2.store at step
  generalize answer : (s.turn t).1 = a at step
  generalize left : (s.turn t).2.store = store at step
  intro r' hr'
  cases step with
  | refused | read | rekeyed => exact .inr ⟨r', hr', .refl r' _⟩
  | bundleCreated =>
    rcases List.mem_append.1 hr' with hr' | hr'
    · exact .inr ⟨r', hr', .refl r' _⟩
    · cases hr'
  | charged =>
    obtain ⟨r, hr, rfl⟩ := List.mem_map.1 hr'
    refine .inr ⟨r, hr, ?_⟩
    show r.Next (if _ then _ else r) _
    split
    · exact ⟨⟨rfl, rfl, rfl, rfl, rfl, [], by simp⟩, .inl rfl⟩
    · exact .refl r _
  | created request planned takes =>
    rcases List.mem_append.1 hr' with hr' | hr'
    · exact .inr ⟨r', hr', .refl r' _⟩
    · obtain ⟨b, hb, hr⟩ := List.mem_flatMap.1 hr'
      obtain ⟨_, _, _, _, here⟩ := planned.of_mem b hb
      obtain ⟨_, _, _, _, made⟩ := BatchChecks.plannedRecords_of_mem here.records r' hr
      exact .inl ⟨_, made⟩
  | continued _ request =>
    right
    obtain ⟨ctx, draws, _⟩ := t
    rcases request with ⟨ids, terms, rfl⟩ | ⟨id, day, start, rfl⟩
    · obtain ⟨w, swept, ends⟩ := cancel_of_ok h sound answer
      rw [left.symm.trans ends] at hr'
      obtain ⟨r, hr, rfl⟩ := List.mem_map.1 hr'
      have extends_ := sweep_extends h.inOrder (.start s.store ctx.now) swept
      exact ⟨r, hr, .withEvents sound hr extends_.once extends_.next⟩
    · obtain ⟨found, stored, date, ends⟩ := updateBillCycleDay_of_ok h sound answer
      rw [left.symm.trans ends] at hr'
      obtain ⟨r, hr, rfl⟩ := List.mem_map.1 hr'
      refine ⟨r, hr, .withEvents sound hr (List.nodup_singleton _) ?_⟩
      intro e he
      rw [List.mem_singleton] at he
      rw [he]
      exact ⟨found, stored, rfl, rfl, .inl ⟨day, rfl⟩⟩

end Service

end SubscriptionBundles
