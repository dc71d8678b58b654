import SubscriptionBundles.Proofs.NumberedEvents

/-!
# What a cancellation does

The listed ids are gone through in order, over the store as the call found it.  The first that
reaches a subscription decides when it ends.

* `Store.reaches`                an id reaches a subscription: its own, or a base's that takes it along;
* `Store.Ends`                   when a subscription ends that listed ids reach;
* `Sweep.mem_cancel_base`        a base takes its open add-ons along;
* `Sweep.mem_sweepSubscription`  what one id adds to a sweep;
* `Sweep.Reflects`               a sweep holds the ends of all that was reached, and nothing else;
* `Store.Cancels`                what a cancellation comes to, subscription by subscription;
* `Service.cancel_exact`         every answered cancellation comes to that, and a second one to nothing.
-/

namespace SubscriptionBundles

open Service (Turn)

/-! ## who is reached -/

/-- a base that has no end takes the add-ons of its bundle along -/
def SubscriptionRecord.takesAlong (b r : SubscriptionRecord) : Bool :=
  b.category == .base && b.neverEnds && r.category == .addOn && b.bundleId == r.bundleId

/-- a listed id is the subscription's own, or that of a base that takes it along -/
def Store.reaches (s : Store) (r : SubscriptionRecord) (id : Uuid) : Bool :=
  id == r.id || s.records.any fun b => b.id == id && b.takesAlong r

section
variable {s : Store} {b r : SubscriptionRecord} {id : Uuid}

theorem SubscriptionRecord.takesAlong_iff :
    b.takesAlong r = true ↔ b.category = .base ∧ b.neverEnds = true ∧ r.category = .addOn ∧
      b.bundleId = r.bundleId := by
  simp [takesAlong, and_assoc]

theorem Store.reaches_iff :
    s.reaches r id = true ↔ id = r.id ∨ ∃ b ∈ s.records, b.id = id ∧ b.takesAlong r = true := by
  simp [reaches]

/-- a base is reached by its own id only -/
theorem Store.reaches_base (base : b.category = .base) : s.reaches b id = true ↔ id = b.id := by
  rw [reaches_iff, or_iff_left]
  intro along
  obtain ⟨_, _, _, takes⟩ := along
  have addOn := (SubscriptionRecord.takesAlong_iff.1 takes).2.2.1
  rw [base] at addOn
  cases addOn

theorem Store.find?_reaches_base {ids : List Uuid} (base : b.category = .base) (listed : b.id ∈ ids) :
    ids.find? (s.reaches b) = some b.id := by
  cases found : ids.find? (s.reaches b) with
  | none => exact absurd (reaches_iff.2 (.inl rfl)) (List.find?_eq_none.1 found b.id listed)
  | some x => rw [(reaches_base base).1 (List.find?_some found)]

/-- what reaches a base reaches the add-ons that it takes along -/
theorem Store.reaches_of_base (stored : b ∈ s.records) (takes : b.takesAlong r = true)
    (base : s.reaches b id = true) : s.reaches r id = true := by
  rw [reaches_base (SubscriptionRecord.takesAlong_iff.1 takes).1] at base
  exact reaches_iff.2 (.inr ⟨b, stored, base.symm, takes⟩)

theorem Store.Sound.id_ne_of_takesAlong (sound : s.Sound) (hb : b ∈ s.records) (hr : r ∈ s.records)
    (takes : b.takesAlong r = true) : b.id ≠ r.id := by
  intro same
  obtain rfl := sound.record_eq hb hr same
  obtain ⟨base, _, addOn, _⟩ := SubscriptionRecord.takesAlong_iff.1 takes
  rw [base] at addOn
  cases addOn

end

/-! ## when it ends -/

/-- when a subscription ends that listed ids reach: by its own terms if the first of them is its own
id, else with the base that takes it along, or at its own start if that is later -/
inductive Store.Ends (s : Store) (ctx : Context) (c : Catalog) (terms : CancelTerms) (ids : List Uuid)
    (r : SubscriptionRecord) : Instant → Prop
  | own {date : Instant} (first : ids.find? (s.reaches r) = some r.id)
      (ends : s.ownEnd ctx c terms r = .ok date) : Ends s ctx c terms ids r date
  | along {b : SubscriptionRecord} {baseEnd : Instant} (stored : b ∈ s.records)
      (takes : b.takesAlong r = true) (first : ids.find? (s.reaches r) = some b.id)
      (ends : s.ownEnd ctx c terms b = .ok baseEnd) :
      Ends s ctx c terms ids r (max baseEnd (Subscription.rebuild r [] ctx.now).startDate)

namespace Store.Ends
variable {s : Store} {ctx : Context} {c : Catalog} {terms : CancelTerms} {ids before : List Uuid}
  {r : SubscriptionRecord} {id : Uuid} {date : Instant}

theorem first_ne_none (h : s.Ends ctx c terms ids r date) : ids.find? (s.reaches r) ≠ none := by
  cases h with
  | own first | along _ _ first =>
    rw [first]
    exact nofun

theorem congr {more : List Uuid} (h : s.Ends ctx c terms ids r date)
    (same : more.find? (s.reaches r) = ids.find? (s.reaches r)) : s.Ends ctx c terms more r date := by
  cases h with
  | own first ends => exact .own (same.trans first) ends
  | along stored takes first ends => exact .along stored takes (same.trans first) ends

theorem unique (sound : s.Sound) (hr : r ∈ s.records) {other : Instant}
    (h : s.Ends ctx c terms ids r date) (h' : s.Ends ctx c terms ids r other) : date = other := by
  cases h with
  | own first ends =>
    cases h' with
    | own _ ends' => exact Except.ok.inj (ends.symm.trans ends')
    | along hb takes first' _ =>
      exact absurd (Option.some.inj (first'.symm.trans first)) (sound.id_ne_of_takesAlong hb hr takes)
  | along hb takes first ends =>
    cases h' with
    | own first' _ =>
      exact absurd (Option.some.inj (first.symm.trans first')) (sound.id_ne_of_takesAlong hb hr takes)
    | along hb' _ first' ends' =>
      obtain rfl := sound.record_eq hb hb' (Option.some.inj (first.symm.trans first'))
      rw [Except.ok.inj (ends.symm.trans ends')]

/-- one more id decides when a subscription ends that was not reached before -/
theorem concat_iff : s.Ends ctx c terms (before ++ [id]) r date ↔
    s.Ends ctx c terms before r date ∨
      before.find? (s.reaches r) = none ∧ s.Ends ctx c terms [id] r date := by
  have whole : (before ++ [id]).find? (s.reaches r) =
      (before.find? (s.reaches r)).or ([id].find? (s.reaches r)) := List.find?_append
  cases first : before.find? (s.reaches r) with
  | none =>
    rw [first, Option.none_or] at whole
    constructor
    · exact fun h => .inr ⟨rfl, h.congr whole.symm⟩
    · rintro (h | ⟨_, h⟩)
      · exact absurd first h.first_ne_none
      · exact h.congr whole
  | some x =>
    rw [first, Option.some_or, ← first] at whole
    constructor
    · exact fun h => .inl (h.congr whole.symm)
    · rintro (h | ⟨none, _⟩)
      · exact h.congr whole
      · cases none

/-- an id reaches the subscription it names, and those that this takes along -/
theorem single (sound : s.Sound) {b : SubscriptionRecord} (hb : b ∈ s.records) (hr : r ∈ s.records)
    (h : s.Ends ctx c terms [b.id] r date) : r = b ∨ b.takesAlong r = true := by
  have only : ∀ x, [b.id].find? (s.reaches r) = some x → x = b.id := by
    intro x first
    exact List.mem_singleton.1 (List.mem_of_find?_eq_some first)
  cases h with
  | own first _ => exact .inl (sound.record_eq hr hb (only _ first))
  | along stored takes first _ =>
    obtain rfl := sound.record_eq stored hb (only _ first)
    exact .inr takes

theorem single_iff (sound : s.Sound) {b : SubscriptionRecord} (hb : b ∈ s.records)
    (hr : r ∈ s.records) {own : Instant} (ends : s.ownEnd ctx c terms b = .ok own) :
    s.Ends ctx c terms [b.id] r date ↔
      r = b ∧ date = own ∨
        b.takesAlong r = true ∧ date = max own (Subscription.rebuild r [] ctx.now).startDate := by
  have reached : s.reaches r b.id = true → [b.id].find? (s.reaches r) = some b.id :=
    List.find?_cons_of_pos
  constructor
  · intro h
    rcases h.single sound hb hr with rfl | takes
    · cases h with
      | own _ ends' => exact .inl ⟨rfl, Except.ok.inj (ends'.symm.trans ends)⟩
      | along stored takes first _ =>
        exact absurd (List.mem_singleton.1 (List.mem_of_find?_eq_some first))
          (sound.id_ne_of_takesAlong stored hr takes)
    · cases h with
      | own first _ =>
        exact absurd (List.mem_singleton.1 (List.mem_of_find?_eq_some first)).symm
          (sound.id_ne_of_takesAlong hb hr takes)
      | along stored _ first ends' =>
        obtain rfl := sound.record_eq stored hb
          (List.mem_singleton.1 (List.mem_of_find?_eq_some first))
        rw [Except.ok.inj (ends'.symm.trans ends)]
        exact .inr ⟨takes, rfl⟩
  · rintro (⟨rfl, rfl⟩ | ⟨takes, rfl⟩)
    · exact .own (reached (reaches_iff.2 (.inl rfl))) ends
    · exact .along hb takes (reached (reaches_iff.2 (.inr ⟨b, hb, rfl, takes⟩))) ends

/-- the events that one id brings, for itself and for what it takes along -/
theorem exists_single_iff (sound : s.Sound) {b : SubscriptionRecord} (hb : b ∈ s.records)
    {own : Instant} (ends : s.ownEnd ctx c terms b = .ok own) (free : SubscriptionRecord → Prop)
    (event : SubscriptionRecord → Instant → TransitionEvent) (e : TransitionEvent) :
    (∃ r ∈ s.records, free r ∧ ∃ date, s.Ends ctx c terms [b.id] r date ∧ e = event r date) ↔
      free b ∧ e = event b own ∨ ∃ r ∈ s.records, b.takesAlong r = true ∧ free r ∧
        e = event r (max own (Subscription.rebuild r [] ctx.now).startDate) := by
  constructor
  · rintro ⟨r, hr, open_, date, reached, rfl⟩
    rcases (single_iff sound hb hr ends).1 reached with ⟨rfl, rfl⟩ | ⟨takes, rfl⟩
    · exact .inl ⟨open_, rfl⟩
    · exact .inr ⟨r, hr, takes, open_, rfl⟩
  · rintro (⟨open_, rfl⟩ | ⟨r, hr, takes, open_, rfl⟩)
    · exact ⟨b, hb, open_, own, (single_iff sound hb hb ends).2 (.inl ⟨rfl, rfl⟩), rfl⟩
    · exact ⟨r, hr, open_, _, (single_iff sound hb hr ends).2 (.inr ⟨takes, rfl⟩), rfl⟩

end Store.Ends

/-! ## one subscription of a sweep -/

theorem Sweep.mem_cancel {w : Sweep} {s : Subscription} {date processed : Instant}
    {e : TransitionEvent} :
    e ∈ (w.cancel s date processed).events ↔ e ∈ w.events ∨ e = s.cancelEvent date processed := by
  unfold cancel
  rw [List.mem_append, List.mem_singleton]

/-- add-ons of different ids are cancelled if they are open to begin with -/
theorem Sweep.mem_cancelAddOns_iff {baseEnd processed : Instant} {w : Sweep}
    {subscriptions : List Subscription} (distinct : (subscriptions.map (·.id)).Nodup)
    {e : TransitionEvent} :
    e ∈ (w.cancelAddOns baseEnd processed subscriptions).events ↔
      e ∈ w.events ∨ ∃ t ∈ subscriptions, t.category = .addOn ∧ w.isOpen t = true ∧
        e = t.cancelEvent (max baseEnd t.startDate) processed := by
  induction subscriptions generalizing w with
  | nil => simp [cancelAddOns]
  | cons first rest ih =>
    obtain ⟨apart, distinct⟩ := List.nodup_cons.1 distinct
    have same : ∀ t ∈ rest, (w.cancelAddOn baseEnd processed first).isOpen t = w.isOpen t := by
      intro t ht
      have other : t.id ≠ first.id := fun one => apart (List.mem_map.2 ⟨t, ht, one⟩)
      unfold cancelAddOn
      split
      · simp [isOpen, cancel, other]
      · rfl
    have here : e ∈ (w.cancelAddOn baseEnd processed first).events ↔
        e ∈ w.events ∨ first.category = .addOn ∧ w.isOpen first = true ∧
          e = first.cancelEvent (max baseEnd first.startDate) processed := by
      unfold cancelAddOn
      split
      · next held =>
        rw [Bool.and_eq_true, beq_iff_eq] at held
        simp [cancel, held]
      · next held =>
        rw [Bool.and_eq_true, beq_iff_eq] at held
        refine (or_iff_left ?_).symm
        intro given
        exact held ⟨given.1, given.2.1⟩
    show e ∈ ((w.cancelAddOn baseEnd processed first).cancelAddOns baseEnd processed rest).events ↔ _
    rw [ih distinct, here, or_assoc]
    refine or_congr_right ?_
    constructor
    · rintro (given | ⟨t, ht, addOn, free, rfl⟩)
      · exact ⟨first, List.mem_cons_self, given⟩
      · exact ⟨t, List.mem_cons_of_mem _ ht, addOn, (same t ht) ▸ free, rfl⟩
    · rintro ⟨t, ht, addOn, free, rfl⟩
      rcases List.mem_cons.1 ht with rfl | ht
      · exact .inl ⟨addOn, free, rfl⟩
      · exact .inr ⟨t, ht, addOn, (same t ht).symm ▸ free, rfl⟩

/-- a base that is cancelled takes its open add-ons along -/
theorem Sweep.mem_cancel_base {s : Store} (sound : s.Sound) {base : SubscriptionRecord}
    (stored : base ∈ s.records) (kind : base.category = .base) (lasting : base.neverEnds = true)
    {w : Sweep} {date now : Instant} {e : TransitionEvent} :
    e ∈ ((w.cancel (.rebuild base [] now) date now).cancelAddOns date now
        ((s.recordsForBundle base.bundleId).map (.rebuild · [] now))).events ↔
      e ∈ (w.cancel (.rebuild base [] now) date now).events ∨
        ∃ r ∈ s.records, base.takesAlong r = true ∧ w.isOpen (.rebuild r [] now) = true ∧
          e = (Subscription.rebuild r [] now).cancelEvent
            (max date (Subscription.rebuild r [] now).startDate) now := by
  have distinct : (((s.recordsForBundle base.bundleId).map
      fun r => Subscription.rebuild r [] now).map (·.id)).Nodup := by
    rw [List.map_map]
    exact sound.records.sublist (List.filter_sublist.map _)
  -- who is open beside the base was open before it was cancelled
  have still : ∀ r ∈ s.records, base.takesAlong r = true →
      ((w.cancel (.rebuild base [] now) date now).isOpen (.rebuild r [] now) = true ↔
        w.isOpen (.rebuild r [] now) = true) := by
    intro r hr takes
    have differ := sound.id_ne_of_takesAlong stored hr takes
    rw [isOpen_rebuild_iff, isOpen_rebuild_iff]
    refine and_congr_right fun _ => not_congr ?_
    unfold cancel
    exact List.mem_cons.trans (or_iff_right differ.symm)
  rw [mem_cancelAddOns_iff distinct]
  refine or_congr_right ?_
  constructor
  · rintro ⟨t, ht, addOn, open_, rfl⟩
    obtain ⟨r, hr, rfl⟩ := List.mem_map.1 ht
    obtain ⟨hr, home⟩ := List.mem_filter.1 hr
    have takes : base.takesAlong r = true :=
      SubscriptionRecord.takesAlong_iff.2 ⟨kind, lasting, addOn, (beq_iff_eq.1 home).symm⟩
    exact ⟨r, hr, takes, (still r hr takes).1 open_, rfl⟩
  · rintro ⟨r, hr, takes, open_, rfl⟩
    obtain ⟨_, _, addOn, home⟩ := SubscriptionRecord.takesAlong_iff.1 takes
    exact ⟨_, List.mem_map_of_mem (Store.mem_recordsForBundle hr home.symm), addOn,
      (still r hr takes).2 open_, rfl⟩

section
variable {s : Storage} {ctx : Context} {c : Catalog} {terms : CancelTerms} {w w' : Sweep} {id : Uuid}
  (order : s.InOrder) (sound : s.store.Sound)
include order sound

/-- who is not open is left alone -/
theorem sweepSubscription_of_shut {r : SubscriptionRecord} (hr : r ∈ s.store.records)
    (shut : w.isOpen (.rebuild r [] ctx.now) = false) :
    sweepSubscription s ctx c terms w r.id = .ok w := by
  unfold sweepSubscription
  rw [snapshotAround_stored order sound hr]
  show (Snapshot.require _ r.id >>= _) = _
  rw [Snapshot.require_stored sound hr]
  show (if !w.isOpen (.rebuild r [] ctx.now) then _ else _) = _
  rw [shut]
  rfl

variable (bases : ∀ b ∈ s.store.records, ∀ r ∈ s.store.records, b.takesAlong r = true →
    w.isOpen (.rebuild r [] ctx.now) = true → w.isOpen (.rebuild b [] ctx.now) = true)
  (ok : sweepSubscription s ctx c terms w id = .ok w')
include bases ok

/-- one id adds the ends of the open subscriptions that it reaches -/
theorem Sweep.mem_sweepSubscription {e : TransitionEvent} :
    e ∈ w'.events ↔ e ∈ w.events ∨ ∃ r ∈ s.store.records, w.isOpen (.rebuild r [] ctx.now) = true ∧
      ∃ date, s.store.Ends ctx c terms [id] r date ∧
        e = (Subscription.rebuild r [] ctx.now).cancelEvent date ctx.now := by
  obtain ⟨target, stored, rfl, ended⟩ := sweepSubscription_cases order ok
  rcases ended with ⟨shut, rfl⟩ | ⟨free, date, ends, ended⟩
  · refine (or_iff_left ?_).symm
    rintro ⟨r, hr, free, _, reached, _⟩
    have open_ : w'.isOpen (.rebuild target [] ctx.now) = true := by
      rcases reached.single sound stored hr with rfl | takes
      · exact free
      · exact bases target stored r hr takes free
    rw [shut] at open_
    cases open_
  · have gained := Store.Ends.exists_single_iff sound stored ends
      (fun r => w.isOpen (.rebuild r [] ctx.now) = true)
      (fun r d => (Subscription.rebuild r [] ctx.now).cancelEvent d ctx.now) e
    rw [gained, and_iff_right free, ← or_assoc, ← mem_cancel]
    rcases ended with ⟨other, rfl⟩ | ⟨base, rfl⟩
    · refine (or_iff_left ?_).symm
      rintro ⟨r, _, takes, _⟩
      exact other (SubscriptionRecord.takesAlong_iff.1 takes).1
    · have lasting := ((w.isOpen_rebuild_iff target ctx.now).1 free).1
      exact mem_cancel_base sound stored base lasting

/-- an open subscription that the id reaches has an end -/
theorem Sweep.exists_ends {r : SubscriptionRecord} (hr : r ∈ s.store.records)
    (free : w.isOpen (.rebuild r [] ctx.now) = true) (given : s.store.reaches r id = true) :
    ∃ date, s.store.Ends ctx c terms [id] r date := by
  have first : [id].find? (s.store.reaches r) = some id := List.find?_cons_of_pos given
  obtain ⟨target, stored, rfl, ended⟩ := sweepSubscription_cases order ok
  have open_ : w.isOpen (.rebuild target [] ctx.now) = true := by
    rcases Store.reaches_iff.1 given with same | ⟨b, hb, same, takes⟩
    · rw [sound.record_eq stored hr same]
      exact free
    · rw [← sound.record_eq hb stored same]
      exact bases b hb r hr takes free
  rcases ended with ⟨shut, _⟩ | ⟨_, date, ends, _⟩
  · rw [shut] at open_
    cases open_
  · rcases Store.reaches_iff.1 given with same | ⟨b, hb, same, takes⟩
    · obtain rfl := sound.record_eq stored hr same
      exact ⟨date, .own first ends⟩
    · obtain rfl := sound.record_eq hb stored same
      exact ⟨_, .along hb takes first ends⟩

end

/-! ## a whole sweep -/

/-- a sweep over listed ids: whoever is without an end has one if an id reaches it, and the events are
those ends -/
structure Sweep.Reflects (w : Sweep) (s : Store) (ctx : Context) (c : Catalog) (terms : CancelTerms)
    (ids : List Uuid) : Prop where
  tracked : w.Exact
  events : ∀ e, e ∈ w.events ↔ ∃ r ∈ s.records, r.neverEnds = true ∧
    ∃ date, s.Ends ctx c terms ids r date ∧
      e = (Subscription.rebuild r [] ctx.now).cancelEvent date ctx.now
  dated : ∀ r ∈ s.records, r.neverEnds = true → ids.find? (s.reaches r) ≠ none →
    ∃ date, s.Ends ctx c terms ids r date

namespace Sweep.Reflects

theorem start (s : Store) (ctx : Context) (c : Catalog) (terms : CancelTerms) :
    Sweep.start.Reflects s ctx c terms [] := by
  refine ⟨rfl, ?_, ?_⟩
  · intro e
    refine iff_of_false List.not_mem_nil ?_
    rintro ⟨r, _, _, date, ends, _⟩
    exact ends.first_ne_none rfl
  · intro r _ _ first
    exact absurd rfl first

section
variable {s : Store} {ctx : Context} {c : Catalog} {terms : CancelTerms} {w : Sweep} {ids : List Uuid}
  {r : SubscriptionRecord} (sound : s.Sound) (h : w.Reflects s ctx c terms ids) (hr : r ∈ s.records)
include sound h hr

theorem isOpen_iff : w.isOpen (.rebuild r [] ctx.now) = true ↔
    r.neverEnds = true ∧ ids.find? (s.reaches r) = none := by
  rw [isOpen_rebuild_iff]
  refine and_congr_right fun lasting => ?_
  rw [h.tracked.mem_reached, ← Decidable.not_not (p := ids.find? _ = none)]
  refine not_congr ⟨?_, ?_⟩
  · rintro ⟨e, he, own⟩
    obtain ⟨q, hq, _, date, ends, rfl⟩ := (h.events e).1 he
    obtain rfl := sound.record_eq hq hr own
    exact ends.first_ne_none
  · intro first
    obtain ⟨date, ends⟩ := h.dated r hr lasting first
    exact ⟨_, (h.events _).2 ⟨r, hr, lasting, date, ends, rfl⟩, rfl⟩

/-- an event of a subscription ends it -/
theorem of_own {f : TransitionEvent} (hf : f ∈ w.events) (own : f.subscriptionId = r.id) :
    r.neverEnds = true ∧ ∃ date, s.Ends ctx c terms ids r date ∧
      f = (Subscription.rebuild r [] ctx.now).cancelEvent date ctx.now := by
  obtain ⟨q, hq, lasting, date, ends, rfl⟩ := (h.events f).1 hf
  obtain rfl := sound.record_eq hq hr own
  exact ⟨lasting, date, ends, rfl⟩

/-- the event of a subscription -/
theorem find?_eq_some_iff {e : TransitionEvent} :
    w.events.find? (·.subscriptionId == r.id) = some e ↔ r.neverEnds = true ∧
      ∃ date, s.Ends ctx c terms ids r date ∧
        e = (Subscription.rebuild r [] ctx.now).cancelEvent date ctx.now := by
  constructor
  · intro found
    exact h.of_own sound hr (List.mem_of_find?_eq_some found) (by simpa using List.find?_some found)
  · rintro ⟨lasting, date, ends, rfl⟩
    have mem := (h.events _).2 ⟨r, hr, lasting, date, ends, rfl⟩
    cases found : w.events.find? (·.subscriptionId == r.id) with
    | none => exact absurd (beq_self_eq_true r.id) (List.find?_eq_none.1 found _ mem)
    | some f =>
      obtain ⟨_, date', ends', rfl⟩ :=
        h.of_own sound hr (List.mem_of_find?_eq_some found) (by simpa using List.find?_some found)
      rw [ends.unique sound hr ends']

end

variable {s : Storage} {ctx : Context} {c : Catalog} {terms : CancelTerms} {w w' : Sweep}
  {before ids : List Uuid} (order : s.InOrder) (sound : s.store.Sound)
  (h : w.Reflects s.store ctx c terms before)
include order sound h

theorem sweepSubscription {id : Uuid}
    (ok : SubscriptionBundles.sweepSubscription s ctx c terms w id = .ok w') :
    w'.Reflects s.store ctx c terms (before ++ [id]) := by
  have bases : ∀ b ∈ s.store.records, ∀ r ∈ s.store.records, b.takesAlong r = true →
      w.isOpen (.rebuild r [] ctx.now) = true → w.isOpen (.rebuild b [] ctx.now) = true := by
    intro b hb r hr takes free
    refine (h.isOpen_iff sound hb).2 ⟨(SubscriptionRecord.takesAlong_iff.1 takes).2.1, ?_⟩
    have unreached := ((h.isOpen_iff sound hr).1 free).2
    rw [List.find?_eq_none] at unreached ⊢
    intro x hx given
    exact unreached x hx (Store.reaches_of_base hb takes given)
  refine ⟨h.tracked.sweepSubscription order ok, ?_, ?_⟩
  · intro e
    rw [mem_sweepSubscription order sound bases ok, h.events e]
    constructor
    · rintro (⟨r, hr, lasting, date, ends, rfl⟩ | ⟨r, hr, free, date, ends, rfl⟩)
      · exact ⟨r, hr, lasting, date, Store.Ends.concat_iff.2 (.inl ends), rfl⟩
      · obtain ⟨lasting, unreached⟩ := (h.isOpen_iff sound hr).1 free
        exact ⟨r, hr, lasting, date, Store.Ends.concat_iff.2 (.inr ⟨unreached, ends⟩), rfl⟩
    · rintro ⟨r, hr, lasting, date, ends, rfl⟩
      rcases Store.Ends.concat_iff.1 ends with ends | ⟨unreached, ends⟩
      · exact .inl ⟨r, hr, lasting, date, ends, rfl⟩
      · exact .inr ⟨r, hr, (h.isOpen_iff sound hr).2 ⟨lasting, unreached⟩, date, ends, rfl⟩
  · intro r hr lasting first
    by_cases unreached : before.find? (s.store.reaches r) = none
    · rw [List.find?_append, unreached, Option.none_or, ← Option.isSome_iff_ne_none,
        List.find?_isSome] at first
      obtain ⟨x, hx, given⟩ := first
      rw [List.mem_singleton] at hx
      rw [hx] at given
      have free := (h.isOpen_iff sound hr).2 ⟨lasting, unreached⟩
      obtain ⟨date, ends⟩ := exists_ends order sound bases ok hr free given
      exact ⟨date, Store.Ends.concat_iff.2 (.inr ⟨unreached, ends⟩)⟩
    · obtain ⟨date, ends⟩ := h.dated r hr lasting unreached
      exact ⟨date, Store.Ends.concat_iff.2 (.inl ends)⟩

theorem sweep (ok : ids.foldlM (SubscriptionBundles.sweepSubscription s ctx c terms) w = .ok w') :
    w'.Reflects s.store ctx c terms (before ++ ids) := by
  induction ids generalizing before w with
  | nil =>
    cases ok
    rw [List.append_nil]
    exact h
  | cons id rest ih =>
    rw [List.foldlM_cons, bind_eq_ok] at ok
    obtain ⟨next, hn, ok⟩ := ok
    rw [List.append_cons]
    exact ih (h.sweepSubscription order sound hn) ok

end Sweep.Reflects

/-! ## the call -/

/-- of entries with different keys, those of one key -/
theorem filter_eq_toList_find? {α κ : Type} [BEq κ] [LawfulBEq κ] {key : α → κ} {l : List α}
    (distinct : (l.map key).Nodup) (k : κ) :
    l.filter (fun a => key a == k) = (l.find? fun a => key a == k).toList := by
  induction l with
  | nil => rfl
  | cons a l ih =>
    obtain ⟨apart, distinct⟩ := List.nodup_cons.1 distinct
    by_cases same : (key a == k) = true
    · rw [List.filter_cons_of_pos (p := fun a => key a == k) same,
        List.find?_cons_of_pos (p := fun a => key a == k) same, Option.toList_some,
        List.filter_eq_nil_iff.2]
      intro b hb other
      exact apart (List.mem_map.2 ⟨b, hb, (eq_of_beq other).trans (eq_of_beq same).symm⟩)
    · rw [List.filter_cons_of_neg (p := fun a => key a == k) same,
        List.find?_cons_of_neg (p := fun a => key a == k) same, ih distinct]

/-- the event that each subscription is given, if any, at the end of its events -/
def Store.gaining (s : Store) (gain : SubscriptionRecord → Option TransitionEvent) : Store :=
  { s with records := s.records.map fun r => { r with events := r.events ++ (gain r).toList } }

/-- what a cancellation of listed ids comes to: who is given an event, and which -/
structure Store.Cancels (s : Store) (ctx : Context) (c : Catalog) (terms : CancelTerms)
    (ids : List Uuid) (gain : SubscriptionRecord → Option TransitionEvent) : Prop where
  /-- who has no end, and is listed or an add-on of a listed base that has none -/
  gains_iff : ∀ r ∈ s.records, (gain r).isSome = true ↔ r.neverEnds = true ∧
    (r.id ∈ ids ∨ ∃ b ∈ s.records, b.id ∈ ids ∧ b.takesAlong r = true)
  event : ∀ r ∈ s.records, ∀ e, gain r = some e → e.kind = .cancel ∧ e.subscriptionId = r.id ∧
    e.processedDate = ctx.now ∧
      (r.events.length < 2 ^ 32 → e.sequence.toNat = r.events.length)
  own : ∀ r ∈ s.records, ∀ e, gain r = some e → ids.find? (s.reaches r) = some r.id →
    s.ownEnd ctx c terms r = .ok e.effectiveDate
  along : ∀ r ∈ s.records, ∀ e, gain r = some e → ∀ b ∈ s.records, b.takesAlong r = true →
    ids.find? (s.reaches r) = some b.id → ∃ f, gain b = some f ∧
      e.effectiveDate = max f.effectiveDate (Subscription.rebuild r [] ctx.now).startDate

section
variable {s : Store} {ctx : Context} {c : Catalog} {terms : CancelTerms} {w : Sweep} {ids : List Uuid}
  (sound : s.Sound) (h : w.Reflects s ctx c terms ids)
include sound h

theorem Sweep.Reflects.cancels (numbered : ∀ r ∈ s.records, r.events.length < 2 ^ 32 →
    Numbered r.events) :
    s.Cancels ctx c terms ids fun r => w.events.find? (·.subscriptionId == r.id) := by
  refine ⟨?_, ?_, ?_, ?_⟩
  · intro r hr
    have listed : ids.find? (s.reaches r) ≠ none ↔
        (r.id ∈ ids ∨ ∃ b ∈ s.records, b.id ∈ ids ∧ b.takesAlong r = true) := by
      rw [← Option.isSome_iff_ne_none, List.find?_isSome]
      simp only [Store.reaches_iff]
      constructor
      · rintro ⟨x, hx, rfl | ⟨b, hb, rfl, takes⟩⟩
        · exact .inl hx
        · exact .inr ⟨b, hb, hx, takes⟩
      · rintro (hx | ⟨b, hb, hx, takes⟩)
        · exact ⟨r.id, hx, .inl rfl⟩
        · exact ⟨b.id, hx, .inr ⟨b, hb, rfl, takes⟩⟩
    rw [← listed, Option.isSome_iff_exists]
    constructor
    · rintro ⟨e, found⟩
      obtain ⟨lasting, _, ends, _⟩ := (h.find?_eq_some_iff sound hr).1 found
      exact ⟨lasting, ends.first_ne_none⟩
    · rintro ⟨lasting, first⟩
      obtain ⟨date, ends⟩ := h.dated r hr lasting first
      exact ⟨_, (h.find?_eq_some_iff sound hr).2 ⟨lasting, date, ends, rfl⟩⟩
  · intro r hr e found
    obtain ⟨_, date, _, rfl⟩ := (h.find?_eq_some_iff sound hr).1 found
    exact ⟨rfl, rfl, rfl, fun fits => nextSequence_of_numbered (numbered r hr fits) fits ctx.now⟩
  · intro r hr e found first
    obtain ⟨_, date, ends, rfl⟩ := (h.find?_eq_some_iff sound hr).1 found
    cases ends with
    | own _ ends => exact ends
    | along hb takes first' _ =>
      exact absurd (Option.some.inj (first'.symm.trans first)) (sound.id_ne_of_takesAlong hb hr takes)
  · intro r hr e found b hb takes first
    obtain ⟨_, date, ends, rfl⟩ := (h.find?_eq_some_iff sound hr).1 found
    cases ends with
    | own first' _ =>
      exact absurd (Option.some.inj (first.symm.trans first')) (sound.id_ne_of_takesAlong hb hr takes)
    | along stored _ first' ends =>
      obtain rfl := sound.record_eq stored hb (Option.some.inj (first'.symm.trans first))
      obtain ⟨base, lasting, _⟩ := SubscriptionRecord.takesAlong_iff.1 takes
      have listed := Store.find?_reaches_base (s := s) base (List.mem_of_find?_eq_some first)
      exact ⟨_, (h.find?_eq_some_iff sound hb).2 ⟨lasting, _, .own listed ends, rfl⟩, rfl⟩

end

/-! ## every run -/

namespace Service
variable {s : Service} {c : Catalog} {max : Nat}

/-- listed subscriptions that all have an end are left alone, whatever is listed beside them -/
theorem cancel_of_ended (h : s.Serves c max) (sound : s.store.Sound) {ids : List Uuid}
    (ended : ∀ id ∈ ids, ∃ r ∈ s.store.records, r.id = id ∧ r.neverEnds = false) (ctx : Context)
    (terms : CancelTerms) :
    (∃ shown, (s.cancel ctx ids terms).1 = .ok shown) ∧
      (s.cancel ctx ids terms).2.store = s.store := by
  have swept : ids.foldlM (sweepSubscription s.storage ctx c terms) .start = .ok .start := by
    induction ids with
    | nil => rfl
    | cons id rest ih =>
      obtain ⟨r, hr, rfl, shut⟩ := ended id List.mem_cons_self
      have closed : Sweep.start.isOpen (.rebuild r [] ctx.now) = false := by
        unfold Sweep.isOpen
        rw [r.endDate_isNone_eq, shut]
        rfl
      rw [List.foldlM_cons, sweepSubscription_of_shut h.inOrder sound hr closed]
      exact ih fun x hx => ended x (List.mem_cons_of_mem _ hx)
  obtain ⟨left, serves, answer⟩ := cancel_of_swept h sound swept
  have same : (s.cancel ctx ids terms).2.store = s.store := left.trans (Store.append_nil _)
  refine ⟨?_, same⟩
  rw [answer]
  refine subscriptions_of_stored serves.inOrder ctx.now ?_
  intro id hid
  obtain ⟨r, hr, rfl, _⟩ := ended id hid
  change r.id ∈ (s.cancel ctx ids terms).2.store.recordIds
  rw [same]
  exact List.mem_map_of_mem hr

section
variable {ctx : Context} {ids : List Uuid} {terms : CancelTerms} (h : s.Serves c max)
  (sound : s.store.Sound)
include h sound

theorem cancel_of_error {e : SubscriptionError} (refused : (s.cancel ctx ids terms).1 = .error e) :
    (s.cancel ctx ids terms).2.store = s.store := by
  have step := (@cancel_step s c max ctx (fun _ => .nil) h sound ids terms).1
  have answer : (s.handle ctx (fun _ => .nil) (.cancel ids terms)).1 = .error e :=
    congrArg (Except.map Answer.subscriptions) refused
  rw [answer] at step
  exact step.of_error

variable {shown : List Subscription} (answered : (s.cancel ctx ids terms).1 = .ok shown)
include answered

/-- an answered cancellation has gone through the list -/
theorem cancel_swept : ∃ w : Sweep,
    ids.foldlM (sweepSubscription s.storage ctx c terms) .start = .ok w ∧
      (s.cancel ctx ids terms).2.store = s.store.append w.events ∧
      (s.cancel ctx ids terms).2.Serves c max := by
  have answer : (s.handle ctx (fun _ => .nil) (.cancel ids terms)).1 = .ok (.subscriptions shown) :=
    congrArg (Except.map Answer.subscriptions) answered
  obtain ⟨w, swept, left⟩ := cancel_of_ok h sound answer
  exact ⟨w, swept, left, (cancel_of_swept h sound swept).2.1⟩

/-- what it leaves is what reflects the list -/
theorem cancel_reflects : ∃ w : Sweep, w.Reflects s.store ctx c terms ids ∧
    (s.cancel ctx ids terms).2.store = s.store.append w.events := by
  obtain ⟨w, swept, left, _⟩ := cancel_swept h sound answered
  exact ⟨w, (Sweep.Reflects.start s.store ctx c terms).sweep h.inOrder sound swept, left⟩

theorem cancel_gains (numbered : ∀ r ∈ s.store.records, r.events.length < 2 ^ 32 →
    Numbered r.events) :
    ∃ gain, s.store.Cancels ctx c terms ids gain ∧
      (s.cancel ctx ids terms).2.store = s.store.gaining gain := by
  obtain ⟨w, swept, left, _⟩ := cancel_swept h sound answered
  have reflects := (Sweep.Reflects.start s.store ctx c terms).sweep h.inOrder sound swept
  have once := (sweep_extends h.inOrder (Sweep.Extends.start s.store ctx.now) swept).once
  refine ⟨_, reflects.cancels sound numbered, left.trans ?_⟩
  unfold Store.append Store.gaining SubscriptionRecord.withEvents
  simp only [filter_eq_toList_find? once]

/-- what an answered cancellation has listed has an end -/
theorem neverEnds_cancelled : ∀ id ∈ ids, ∃ r ∈ (s.cancel ctx ids terms).2.store.records,
    r.id = id ∧ r.neverEnds = false := by
  obtain ⟨w, swept, left, _⟩ := cancel_swept h sound answered
  have reflects := (Sweep.Reflects.start s.store ctx c terms).sweep h.inOrder sound swept
  intro id hid
  obtain ⟨_, known⟩ := sweep_eq_ok h.inOrder (by simp [Sweep.start]) swept
  obtain ⟨r, hr, rfl⟩ := List.mem_map.1 (known id hid)
  rw [left]
  refine ⟨r.withEvents w.events, List.mem_map_of_mem hr, rfl, ?_⟩
  by_contra lasting
  rw [Bool.not_eq_false] at lasting
  have all := List.all_eq_true.1 lasting
  have before : r.neverEnds = true :=
    List.all_eq_true.2 fun e he => all e (List.mem_append_left _ he)
  -- it was without an end, so the sweep holds one
  have reached : ids.find? (s.store.reaches r) ≠ none := by
    rw [ne_eq, List.find?_eq_none]
    exact fun none => none r.id hid (Store.reaches_iff.2 (.inl rfl))
  obtain ⟨date, ends⟩ := reflects.dated r hr before reached
  have mem := (reflects.events _).2 ⟨r, hr, before, date, ends, rfl⟩
  have kept := all _ (List.mem_append_right _ (List.mem_filter.2 ⟨mem, beq_self_eq_true r.id⟩))
  cases kept

end

variable (c max) (cached : Bool) {turns : List Turn}

/-- A refused cancellation leaves the store as it was.  An answered one gives each subscription that
it reaches the one event that it should, and leaves nothing to do for another. -/
theorem cancel_exact (distinct : DistinctIds turns) (ctx : Context) (ids : List Uuid)
    (terms : CancelTerms) :
    let s := (new c max cached).after turns
    let o := s.cancel ctx ids terms
    (∀ e, o.1 = .error e → o.2.store = s.store) ∧
      ∀ shown, o.1 = .ok shown →
        (∃ gain, s.store.Cancels ctx c terms ids gain ∧ o.2.store = s.store.gaining gain) ∧
        ∀ ctx' terms', (∃ again, (o.2.cancel ctx' ids terms').1 = .ok again) ∧
          (o.2.cancel ctx' ids terms').2.store = o.2.store := by
  intro s o
  obtain ⟨serves, sound, _⟩ := run_sound c max cached distinct
  refine ⟨fun e refused => cancel_of_error serves sound refused, ?_⟩
  intro shown answered
  refine ⟨cancel_gains serves sound answered fun r hr fits =>
    (run_orderly c max cached distinct r hr fits).1, ?_⟩
  obtain ⟨w, _, left, serves'⟩ := cancel_swept serves sound answered
  have sound' : o.2.store.Sound := by
    rw [left]
    exact sound.append w.events
  exact cancel_of_ended serves' sound' (neverEnds_cancelled serves sound answered)

end Service

/-! ## a pair that is paid ahead -/

/-- a pistol with its laser, the pistol paid up to a date -/
def Shop.paidPair : List Turn :=
  [turn 1 (.create [pair] false), turn 2 (.setChargedThrough (.ofNat 1001) (midnight 20030))]

/-- the laser is listed, but its pistol comes first -/
def Shop.pairListed : List Uuid := [.ofNat 1001, .ofNat 1002, .ofNat 1001]

theorem cancel_exact_paidPair :
    let s := (Service.new Shop.catalog 255 true).after Shop.paidPair
    let ctx := Context.ofNow Shop.owner (Shop.midnight 20004)
    let terms := CancelTerms.mk .endOfTerm none
    let o := s.cancel ctx Shop.pairListed terms
    DistinctIds Shop.paidPair ∧ o.1.isOk = true ∧
      (∃ gain, s.store.Cancels ctx Shop.catalog terms Shop.pairListed gain ∧
        o.2.store = s.store.gaining gain) ∧
      ∀ ctx' terms', (∃ again, (o.2.cancel ctx' Shop.pairListed terms').1 = .ok again) ∧
        (o.2.cancel ctx' Shop.pairListed terms').2.store = o.2.store := by
  have distinct : DistinctIds Shop.paidPair := by decide
  have held := Service.cancel_exact Shop.catalog 255 true distinct
    (.ofNow Shop.owner (Shop.midnight 20004)) Shop.pairListed ⟨.endOfTerm, none⟩
  refine ⟨distinct, (fun answered => ⟨answered, (exists_of_isOk answered).elim held.2⟩) ?_⟩
  decide +kernel

end SubscriptionBundles
