import SubscriptionBundles.Proofs.Bases
import SubscriptionBundles.Proofs.LiveCounts

/-!
# What a sweep does to add-ons

Who is open when a sweep reaches it is cancelled.  With a base go the open add-ons of its bundle, so
that none of them is left live without it.

* `SubscriptionRecord.Covers`    an add-on lives no longer than its base does;
* `Sweep.Exact`                  a sweep has reached the subscriptions that it cancels, and no other;
* `Sweep.cancelAddOns_reached`   every open add-on is cancelled, by the end of the base or at its start;
* `Sweep.PassesOver`             a base is reached while it is open, and an add-on of it is not;
* `covers_or_passesOver`         but for that, a sweep leaves a covered add-on covered.
-/

namespace SubscriptionBundles

/-! ## bases that cover add-ons -/

/-- from its start on, the add-on is live only as long as the base is -/
structure SubscriptionRecord.Covers (b r : SubscriptionRecord) : Prop where
  base : b.category = .base
  home : b.bundleId = r.bundleId
  start : b.alignStartDate ≤ r.alignStartDate
  lives : ∀ now, r.alignStartDate ≤ now → r.isLiveAt now = true → b.isLiveAt now = true

namespace SubscriptionRecord

/-- the same subscription later on, with no further cancellation -/
structure Kept (r later : SubscriptionRecord) : Prop extends r.Grew later where
  cancels : ∀ e ∈ later.events, e.kind = .cancel → e ∈ r.events

variable {b r b' r' : SubscriptionRecord}

theorem Kept.refl (r : SubscriptionRecord) : r.Kept r := ⟨.refl r, fun _ he _ => he⟩

theorem Kept.isLiveAt_eq (h : r.Kept r') (now : Instant) : r'.isLiveAt now = r.isLiveAt now := by
  rw [Bool.eq_iff_iff, isLiveAt_iff, isLiveAt_iff]
  constructor
  · intro live e he hc
    exact live e (h.mem_events e he) hc
  · intro live e he hc
    exact live e (h.cancels e he hc) hc

theorem Covers.later (h : b.Covers r) (kept : b.Kept b') (grew : r.Grew r') : b'.Covers r' := by
  refine ⟨kept.category.trans h.base, ?_, ?_, ?_⟩
  · rw [kept.bundleId, grew.bundleId]
    exact h.home
  · rw [kept.aligned, grew.aligned]
    exact h.start
  · intro now started live
    rw [grew.aligned] at started
    rw [kept.isLiveAt_eq]
    exact h.lives now started (isLiveAt_mono grew.mem_events (Instant.le_refl now) live)

/-- who is live where the base is not -/
def Outlives (r b : SubscriptionRecord) : Prop :=
  ∃ now, r.alignStartDate ≤ now ∧ r.isLiveAt now = true ∧ b.isLiveAt now = false

theorem Covers.or_outlives (h : b.Covers r) (grewBase : b.Grew b') (grew : r.Grew r') :
    b'.Covers r' ∨ r'.Outlives b' := by
  by_cases lives : ∀ now, r'.alignStartDate ≤ now → r'.isLiveAt now = true → b'.isLiveAt now = true
  · refine .inl ⟨grewBase.category.trans h.base, ?_, ?_, lives⟩
    · rw [grewBase.bundleId, grew.bundleId]
      exact h.home
    · rw [grewBase.aligned, grew.aligned]
      exact h.start
  · simp only [not_forall, Bool.not_eq_true] at lives
    obtain ⟨now, started, live, ended⟩ := lives
    exact .inr ⟨now, started, live, ended⟩

/-- nothing ends it -/
def neverEnds (r : SubscriptionRecord) : Bool := r.events.all (·.kind != .cancel)

theorem endDate_isNone_eq (r : SubscriptionRecord) (now : Instant) :
    (Subscription.rebuild r [] now).endDate.isNone = r.neverEnds := by
  rw [Subscription.endDate_rebuild, Option.isNone_map, Bool.eq_iff_iff, Option.isNone_iff_eq_none,
    List.find?_eq_none]
  unfold neverEnds
  simp [mem_events_rebuild]

theorem isLiveAt_of_neverEnds (h : r.neverEnds = true) (now : Instant) : r.isLiveAt now = true := by
  rw [isLiveAt_iff]
  intro e he hc
  have := List.all_eq_true.1 h e he
  rw [hc] at this
  cases this

end SubscriptionRecord

/-! ## who was reached -/

/-- the ids reached are those of the events, the latest first -/
def Sweep.Exact (w : Sweep) : Prop := w.reached = (w.events.map (·.subscriptionId)).reverse

namespace Sweep.Exact
variable {w : Sweep} (h : w.Exact)
include h

theorem cancel (s : Subscription) (effective processed : Instant) :
    (w.cancel s effective processed).Exact := by
  unfold Exact at h ⊢
  unfold Sweep.cancel
  rw [List.map_append, List.reverse_append, h]
  rfl

theorem mem_reached {id : Uuid} : id ∈ w.reached ↔ ∃ e ∈ w.events, e.subscriptionId = id := by
  unfold Exact at h
  rw [h, List.mem_reverse, List.mem_map]

theorem sweepSubscription {s : Storage} (order : s.InOrder) {ctx : Context} {c : Catalog}
    {terms : CancelTerms} {id : Uuid} {w' : Sweep}
    (ok : sweepSubscription s ctx c terms w id = .ok w') : w'.Exact := by
  refine sweepSubscription_keeps order ?_ h ok
  intro w h r _ _ date _
  exact h.cancel _ date ctx.now

end Sweep.Exact

theorem sweep_exact {s : Storage} (order : s.InOrder) {ctx : Context} {c : Catalog}
    {terms : CancelTerms} {ids : List Uuid} {w : Sweep}
    (ok : ids.foldlM (sweepSubscription s ctx c terms) .start = .ok w) : w.Exact := by
  have start : Sweep.start.Exact := rfl
  refine foldlM_keeps start ?_ ok
  intro w id next h ok
  exact h.sweepSubscription order ok

/-! ## the add-ons of a base -/

namespace Sweep
variable {w : Sweep} {baseEnd processed : Instant}

/-- what a row of cancellations adds, all of it to add-ons -/
theorem cancelAddOns_events (w : Sweep) (subscriptions : List Subscription) :
    ∃ more, (w.cancelAddOns baseEnd processed subscriptions).events = w.events ++ more ∧
      ∀ e ∈ more, ∃ s ∈ subscriptions, s.category = .addOn ∧ e.subscriptionId = s.id := by
  induction subscriptions generalizing w with
  | nil => exact ⟨[], (List.append_nil _).symm, List.forall_mem_nil _⟩
  | cons s rest ih =>
    obtain ⟨more, eq, addOns⟩ := ih (w.cancelAddOn baseEnd processed s)
    have later : ∀ e ∈ more, ∃ t ∈ s :: rest, t.category = .addOn ∧ e.subscriptionId = t.id := by
      intro e he
      obtain ⟨t, ht, found⟩ := addOns e he
      exact ⟨t, List.mem_cons_of_mem _ ht, found⟩
    change (w.cancelAddOns baseEnd processed (s :: rest)).events = _ at eq
    unfold cancelAddOn at eq
    split at eq
    · next held =>
      rw [Bool.and_eq_true, beq_iff_eq] at held
      refine ⟨s.cancelEvent (max baseEnd s.startDate) processed :: more, ?_, ?_⟩
      · rw [eq]
        exact List.append_assoc w.events [_] more
      · intro e he
        rcases List.mem_cons.1 he with rfl | he
        · exact ⟨s, List.mem_cons_self, held.1, rfl⟩
        · exact later e he
    · exact ⟨more, eq, later⟩

theorem mem_cancelAddOns {e : TransitionEvent} (he : e ∈ w.events) (subscriptions : List Subscription) :
    e ∈ (w.cancelAddOns baseEnd processed subscriptions).events := by
  obtain ⟨more, eq, _⟩ := @cancelAddOns_events baseEnd processed w subscriptions
  rw [eq]
  exact List.mem_append_left _ he

/-- an open add-on is cancelled by the end of its base, or at its own start -/
theorem cancelAddOns_reached {subscriptions : List Subscription} {s : Subscription}
    (hs : s ∈ subscriptions) (addOn : s.category = .addOn) (open_ : w.isOpen s = true) :
    ∃ t ∈ subscriptions, t.id = s.id ∧ t.cancelEvent (max baseEnd t.startDate) processed ∈
      (w.cancelAddOns baseEnd processed subscriptions).events := by
  induction subscriptions generalizing w with
  | nil => cases hs
  | cons first rest ih =>
    show ∃ t ∈ first :: rest, _ ∧ _ ∈
      ((w.cancelAddOn baseEnd processed first).cancelAddOns baseEnd processed rest).events
    by_cases same : first.id = s.id ∧ first.category = .addOn ∧ w.isOpen first = true
    · obtain ⟨name, kind, free⟩ := same
      refine ⟨first, List.mem_cons_self, name, mem_cancelAddOns ?_ rest⟩
      unfold cancelAddOn
      rw [if_pos (by simp [kind, free])]
      exact List.mem_append_right _ List.mem_cons_self
    · rcases List.mem_cons.1 hs with rfl | hs
      · exact absurd ⟨rfl, addOn, open_⟩ same
      · have still : (w.cancelAddOn baseEnd processed first).isOpen s = true := by
          unfold cancelAddOn
          split
          · next held =>
            rw [Bool.and_eq_true, beq_iff_eq] at held
            have other : s.id ≠ first.id := fun name => same ⟨name.symm, held⟩
            unfold isOpen cancel at *
            simpa [other] using open_
          · exact open_
        obtain ⟨t, ht, found⟩ := ih hs still
        exact ⟨t, List.mem_cons_of_mem _ ht, found⟩

end Sweep

/-! ## a base and an add-on -/

section
variable {s : Storage} {ctx : Context} {c : Catalog} {terms : CancelTerms} {w w' : Sweep}
  {b r : SubscriptionRecord}

theorem Sweep.isOpen_rebuild_iff (w : Sweep) (r : SubscriptionRecord) (now : Instant) :
    w.isOpen (.rebuild r [] now) = true ↔ r.neverEnds = true ∧ r.id ∉ w.reached := by
  unfold isOpen
  rw [SubscriptionRecord.endDate_isNone_eq]
  simp

/-- the sweep comes to the base while that is open, and the add-on is not -/
def Sweep.PassesOver (s : Storage) (ctx : Context) (c : Catalog) (terms : CancelTerms)
    (ids : List Uuid) (b r : SubscriptionRecord) : Prop :=
  ∃ before rest w, ids = before ++ b.id :: rest ∧
    before.foldlM (sweepSubscription s ctx c terms) .start = .ok w ∧
    w.isOpen (.rebuild b [] ctx.now) = true ∧ w.isOpen (.rebuild r [] ctx.now) = false

/-- an open subscription and add-ons are all that is cancelled -/
theorem sweepSubscription_events (order : s.InOrder) {id : Uuid}
    (ok : sweepSubscription s ctx c terms w id = .ok w') :
    ∃ more, w'.events = w.events ++ more ∧ ∀ e ∈ more, ∃ q ∈ s.store.records,
      e.subscriptionId = q.id ∧
        (q.category = .addOn ∨ q.id = id ∧ w.isOpen (.rebuild q [] ctx.now) = true) := by
  obtain ⟨target, stored, name, ⟨_, rfl⟩ | ⟨free, date, _, ⟨_, rfl⟩ | ⟨_, rfl⟩⟩⟩ :=
    sweepSubscription_cases order ok
  · exact ⟨[], (List.append_nil _).symm, List.forall_mem_nil _⟩
  · refine ⟨_, rfl, ?_⟩
    intro e he
    rw [List.mem_singleton] at he
    rw [he]
    exact ⟨target, stored, rfl, .inr ⟨name, free⟩⟩
  · obtain ⟨more, eq, addOns⟩ := @Sweep.cancelAddOns_events date ctx.now
      (w.cancel (.rebuild target [] ctx.now) date ctx.now)
      ((s.store.recordsForBundle target.bundleId).map (.rebuild · [] ctx.now))
    refine ⟨(Subscription.rebuild target [] ctx.now).cancelEvent date ctx.now :: more, ?_, ?_⟩
    · rw [eq]
      exact List.append_assoc w.events [_] more
    · intro e he
      rcases List.mem_cons.1 he with rfl | he
      · exact ⟨target, stored, rfl, .inr ⟨name, free⟩⟩
      · obtain ⟨_, ht, kind, own⟩ := addOns e he
        obtain ⟨q, hq, rfl⟩ := List.mem_map.1 ht
        exact ⟨q, (List.mem_filter.1 hq).1, own, .inl kind⟩

theorem withEvents_append (r : SubscriptionRecord) (es more : List TransitionEvent) :
    r.withEvents (es ++ more) = (r.withEvents es).withEvents more := by
  unfold SubscriptionRecord.withEvents
  rw [List.filter_append, List.append_assoc]

theorem withEvents_of_other {es : List TransitionEvent} (other : ∀ e ∈ es, e.subscriptionId ≠ r.id) :
    r.withEvents es = r := by
  have none : es.filter (fun e => e.subscriptionId == r.id) = [] := by
    rw [List.filter_eq_nil_iff]
    intro e he
    simpa using other e he
  unfold SubscriptionRecord.withEvents
  rw [none, List.append_nil]

section
variable (order : s.InOrder) (sound : s.store.Sound) (hb : b ∈ s.store.records)
  (hr : r ∈ s.store.records)
include order sound hb

/-- an open base is cancelled only when it is reached itself -/
theorem withEvents_base (base : b.category = .base) {id : Uuid}
    (ok : sweepSubscription s ctx c terms w id = .ok w')
    (other : ¬(id = b.id ∧ w.isOpen (.rebuild b [] ctx.now) = true)) :
    b.withEvents w'.events = b.withEvents w.events := by
  obtain ⟨more, eq, cancelled⟩ := sweepSubscription_events order ok
  rw [eq, withEvents_append]
  refine withEvents_of_other ?_
  intro e he own
  obtain ⟨q, hq, name, kind⟩ := cancelled e he
  obtain rfl : q = b := sound.record_eq hq hb (name.symm.trans own)
  rcases kind with addOn | ⟨same, free⟩
  · rw [base] at addOn
    cases addOn
  · exact other ⟨same.symm, free⟩

include hr

/-- an open base takes an open add-on of its bundle with it -/
theorem covers_of_reached (covers : b.Covers r) (addOn : r.category = .addOn) {name : String}
    (follows : r.Follows name) (tracked : w.Exact)
    (ok : sweepSubscription s ctx c terms w b.id = .ok w')
    (free : w.isOpen (.rebuild b [] ctx.now) = true)
    (along : w.isOpen (.rebuild r [] ctx.now) = true) :
    (b.withEvents w'.events).Covers (r.withEvents w'.events) := by
  have differ : ∀ q ∈ s.store.records, q.category = .addOn → q.id ≠ b.id := by
    intro q hq kind same
    obtain rfl : q = b := sound.record_eq hq hb same
    rw [covers.base] at kind
    cases kind
  obtain ⟨target, ht, same, ⟨shut, _⟩ | ⟨_, date, _, ⟨kind, _⟩ | ⟨_, rfl⟩⟩⟩ :=
    sweepSubscription_cases order ok
  all_goals obtain rfl : target = b := sound.record_eq ht hb same
  · rw [free] at shut
    cases shut
  · exact absurd covers.base kind
  obtain ⟨lasting, unreached⟩ := (w.isOpen_rebuild_iff target ctx.now).1 free
  -- the add-on is still open when its turn comes
  have along' : (w.cancel (.rebuild target [] ctx.now) date ctx.now).isOpen
      (.rebuild r [] ctx.now) = true := by
    rw [Sweep.isOpen_rebuild_iff] at along ⊢
    exact ⟨along.1, fun h => (List.mem_cons.1 h).elim (differ r hr addOn) along.2⟩
  have listed : Subscription.rebuild r [] ctx.now ∈
      (s.store.recordsForBundle target.bundleId).map (.rebuild · [] ctx.now) :=
    List.mem_map_of_mem (List.mem_filter.2 ⟨hr, by simpa using covers.home.symm⟩)
  obtain ⟨_, ht, own, cancelled⟩ := @Sweep.cancelAddOns_reached _ date ctx.now _ _ listed addOn along'
  obtain ⟨q, hq, rfl⟩ := List.mem_map.1 ht
  obtain rfl : q = r := sound.record_eq (List.mem_filter.1 hq).1 hr own
  obtain ⟨more, eq, addOns⟩ := @Sweep.cancelAddOns_events date ctx.now
    (w.cancel (.rebuild target [] ctx.now) date ctx.now)
    ((s.store.recordsForBundle target.bundleId).map (.rebuild · [] ctx.now))
  refine ⟨covers.base, covers.home, covers.start, ?_⟩
  intro now started live
  have due : now < date := by
    have ends := SubscriptionRecord.isLiveAt_iff.1 live _
      (List.mem_append_right _ (List.mem_filter.2 ⟨cancelled, by simp [Subscription.cancelEvent]⟩)) rfl
    change now < max date _ at ends
    change q.alignStartDate ≤ now at started
    rw [follows.startDate_eq, Instant.max_def] at ends
    split at ends
    · rw [Instant.le_def] at started
      rw [Instant.lt_def] at ends
      omega
    · exact ends
  rw [SubscriptionRecord.isLiveAt_iff]
  intro e he hc
  rcases List.mem_append.1 he with he | he
  · have := List.all_eq_true.1 lasting e he
    rw [hc] at this
    cases this
  · obtain ⟨he, own⟩ := List.mem_filter.1 he
    have own : e.subscriptionId = target.id := by simpa using own
    rw [eq] at he
    rcases List.mem_append.1 he with he | he
    · rcases List.mem_append.1 he with he | he
      · exact absurd (tracked.mem_reached.2 ⟨e, he, own⟩) unreached
      · rw [List.mem_singleton] at he
        rw [he]
        exact due
    · obtain ⟨_, hs, kind, name⟩ := addOns e he
      obtain ⟨q, hq, rfl⟩ := List.mem_map.1 hs
      exact absurd (name.symm.trans own) (differ q (List.mem_filter.1 hq).1 kind)

/-- `before` is done; the base covers the add-on as far as the sweep has come -/
theorem covers_or_passesOver_from (covers : b.Covers r) (addOn : r.category = .addOn) {name : String}
    (follows : r.Follows name) {before rest : List Uuid}
    (past : before.foldlM (sweepSubscription s ctx c terms) .start = .ok w)
    (held : (b.withEvents w.events).Covers (r.withEvents w.events))
    (ok : rest.foldlM (sweepSubscription s ctx c terms) w = .ok w') :
    (b.withEvents w'.events).Covers (r.withEvents w'.events) ∨
      Sweep.PassesOver s ctx c terms (before ++ rest) b r := by
  induction rest generalizing before w with
  | nil =>
    cases ok
    exact .inl held
  | cons id rest ih =>
    rw [List.foldlM_cons, bind_eq_ok] at ok
    obtain ⟨next, hn, ok⟩ := ok
    have past' : (before ++ [id]).foldlM (sweepSubscription s ctx c terms) .start = .ok next := by
      rw [List.foldlM_append, past]
      show (sweepSubscription s ctx c terms w id >>= pure) = _
      rw [hn]
      rfl
    rw [List.append_cons]
    by_cases reached : id = b.id ∧ w.isOpen (.rebuild b [] ctx.now) = true
    · obtain ⟨rfl, free⟩ := reached
      cases along : w.isOpen (.rebuild r [] ctx.now) with
      | false =>
        refine .inr ⟨before, rest, w, ?_, past, free, along⟩
        rw [← List.append_cons]
      | true =>
        have here := covers_of_reached order sound hb hr covers addOn follows
          (sweep_exact order past) hn free along
        exact ih past' here ok
    · refine ih past' ?_ ok
      obtain ⟨more, eq, _⟩ := sweepSubscription_events order hn
      rw [withEvents_base order sound hb covers.base hn reached, eq, withEvents_append]
      exact held.later (.refl _) (.withEvents more _)

theorem covers_or_passesOver (covers : b.Covers r) (addOn : r.category = .addOn) {name : String}
    (follows : r.Follows name) {ids : List Uuid}
    (ok : ids.foldlM (sweepSubscription s ctx c terms) .start = .ok w) :
    (b.withEvents w.events).Covers (r.withEvents w.events) ∨
      Sweep.PassesOver s ctx c terms ids b r := by
  have first : ([] : List Uuid).foldlM (sweepSubscription s ctx c terms) .start = .ok .start := rfl
  refine covers_or_passesOver_from order sound hb hr covers addOn follows first ?_ ok
  show (b.withEvents []).Covers (r.withEvents [])
  rw [SubscriptionRecord.withEvents_nil, SubscriptionRecord.withEvents_nil]
  exact covers

end

end

end SubscriptionBundles
