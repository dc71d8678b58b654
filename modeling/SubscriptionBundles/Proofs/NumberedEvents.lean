import SubscriptionBundles.Proofs.NextEvents
import SubscriptionBundles.Proofs.PhaseSchedules

/-!
# Well-formed timelines

The events of a stored subscription are numbered as they were appended.  The first of them creates
it, and at most one ends it.

* `Numbered`                         events that have the numbers of their places;
* `nextSequence_of_numbered`         the next number is the number of events;
* `SubscriptionRecord.Next.orderly`  a turn appends in that number, and ends once;
* `NewSubscription.record_orderly`   a new record is numbered from its creation on;
* `SubscriptionRecord.WellFormed`    what holds of a stored record;
* `Service.run_wellFormed`           it holds throughout a run.
-/

namespace SubscriptionBundles

open Service (Turn)

/-! ## the next number -/

theorem toNat_max (a b : UInt32) : (max a b).toNat = max a.toNat b.toNat := by
  show (if a ≤ b then b else a).toNat = if a.toNat ≤ b.toNat then b.toNat else a.toNat
  split
  · next le => rw [if_pos (UInt32.le_iff_toNat_le.1 le)]
  · next gt => rw [if_neg fun le => gt (UInt32.le_iff_toNat_le.2 le)]

namespace Subscription
variable {s : Subscription}

theorem nextSequence_toNat (s : Subscription) :
    s.nextSequence.toNat = s.events.foldl (fun n e => max n (e.sequence + 1).toNat) 0 := by
  unfold nextSequence
  rw [← UInt32.toNat_zero]
  generalize (0 : UInt32) = n
  induction s.events generalizing n with
  | nil => rfl
  | cons e rest ih =>
    rw [List.foldl_cons, List.foldl_cons, ih, toNat_max]

end Subscription

/-- the greatest of what a list gives: no less than any of them, no more than a bound of all -/
theorem foldl_max_bounds {α : Type} (f : α → Nat) (l : List α) (n : Nat) :
    n ≤ l.foldl (fun n a => max n (f a)) n ∧ (∀ a ∈ l, f a ≤ l.foldl (fun n a => max n (f a)) n) ∧
      ∀ bound, n ≤ bound → (∀ a ∈ l, f a ≤ bound) → l.foldl (fun n a => max n (f a)) n ≤ bound := by
  induction l generalizing n with
  | nil => exact ⟨Nat.le_refl n, nofun, fun _ low _ => low⟩
  | cons a l ih =>
    obtain ⟨start, each, least⟩ := ih (max n (f a))
    rw [List.foldl_cons]
    refine ⟨by omega, ?_, ?_⟩
    · intro b hb
      rcases List.mem_cons.1 hb with rfl | hb
      · omega
      · exact each b hb
    · intro bound low all
      have first := all a List.mem_cons_self
      exact least bound (by omega) fun b hb => all b (List.mem_cons_of_mem a hb)

/-! ## numbered events -/

/-- every event has the number of its place -/
def Numbered (events : List TransitionEvent) : Prop :=
  ∀ (i : Nat) (e : TransitionEvent), events[i]? = some e → e.sequence.toNat = i

namespace Numbered
variable {events more : List TransitionEvent} (h : Numbered events)
include h

theorem append (after : ∀ (i : Nat) (e : TransitionEvent), more[i]? = some e →
    e.sequence.toNat = events.length + i) : Numbered (events ++ more) := by
  intro i e here
  rcases Nat.lt_or_ge i events.length with old | new
  · rw [List.getElem?_append_left old] at here
    exact h i e here
  · rw [List.getElem?_append_right new] at here
    have number := after _ e here
    omega

theorem lt_length {e : TransitionEvent} (he : e ∈ events) : e.sequence.toNat < events.length := by
  obtain ⟨i, here⟩ := List.getElem?_of_mem he
  obtain ⟨inside, _⟩ := List.getElem?_eq_some_iff.1 here
  rw [h i e here]
  exact inside

theorem eq_of_sequence {e f : TransitionEvent} (he : e ∈ events) (hf : f ∈ events)
    (same : e.sequence.toNat = f.sequence.toNat) : e = f := by
  obtain ⟨i, hi⟩ := List.getElem?_of_mem he
  obtain ⟨j, hj⟩ := List.getElem?_of_mem hf
  rw [h i e hi, h j f hj] at same
  rw [same, hj] at hi
  exact (Option.some.inj hi).symm

theorem nodup : events.Nodup := by
  refine List.pairwise_iff_getElem.2 ?_
  intro i j hi hj before same
  have first := h i _ (List.getElem?_eq_getElem hi)
  have second := h j _ (List.getElem?_eq_getElem hj)
  rw [same] at first
  omega

end Numbered

theorem phaseEvents_numbers {id : Uuid} {plan : String} {processed : Instant} {sequence : UInt32}
    {later : List (PhaseType × Instant)} (fits : sequence.toNat + later.length ≤ 2 ^ 32) {i : Nat}
    {e : TransitionEvent} (here : (phaseEvents id plan processed sequence later)[i]? = some e) :
    e.sequence.toNat = sequence.toNat + i := by
  rw [phaseEvents_getElem?] at here
  obtain ⟨q, entry, rfl⟩ := Option.map_eq_some_iff.1 here
  obtain ⟨inside, _⟩ := List.getElem?_eq_some_iff.1 entry
  exact toNat_add_ofNat (by omega)

/-- the number after the events of a record, whatever the present -/
theorem nextSequence_of_numbered {r : SubscriptionRecord} (h : Numbered r.events)
    (fits : r.events.length < 2 ^ 32) (now : Instant) :
    (Subscription.rebuild r [] now).nextSequence.toNat = r.events.length := by
  have after : ∀ e ∈ r.events, (e.sequence + 1).toNat = e.sequence.toNat + 1 := by
    intro e he
    have inside := h.lt_length he
    exact toNat_add_ofNat (i := 1) (by omega)
  rw [Subscription.nextSequence_toNat]
  obtain ⟨_, each, least⟩ := foldl_max_bounds (fun e : TransitionEvent => (e.sequence + 1).toNat)
    (Subscription.rebuild r [] now).events 0
  refine Nat.le_antisymm (least _ (Nat.zero_le _) ?_) ?_
  · intro e he
    have inside := h.lt_length (SubscriptionRecord.mem_events_rebuild.1 he)
    have next := after e (SubscriptionRecord.mem_events_rebuild.1 he)
    omega
  · cases count : r.events.length with
    | zero => exact Nat.zero_le _
    | succ n =>
      -- the last event bears the greatest number
      have last : r.events[n]? = some r.events[n] := List.getElem?_eq_getElem (by omega)
      have stored := List.mem_of_getElem? last
      have greatest := each r.events[n] (SubscriptionRecord.mem_events_rebuild.2 stored)
      rw [after _ stored, h n _ last] at greatest
      exact greatest

/-! ## one turn -/

namespace SubscriptionRecord
variable {r r' : SubscriptionRecord}

def endsAtMostOnce (r : SubscriptionRecord) : Prop := r.events.countP (·.kind == .cancel) ≤ 1

theorem countP_of_neverEnds (h : r.neverEnds = true) : r.events.countP (·.kind == .cancel) = 0 := by
  rw [List.countP_eq_zero]
  intro e he ends
  have := List.all_eq_true.1 h e he
  rw [eq_of_beq ends] at this
  cases this

theorem Next.orderly {now : Instant} (h : r.Next r' now) (fits : r'.events.length < 2 ^ 32)
    (given : r.events.length < 2 ^ 32 → Numbered r.events ∧ r.endsAtMostOnce) :
    Numbered r'.events ∧ r'.endsAtMostOnce := by
  unfold endsAtMostOnce at *
  rcases h.next with same | ⟨e, more, extends_⟩
  · rw [same] at fits ⊢
    exact given fits
  · rw [more] at fits ⊢
    rw [List.length_append, List.length_singleton] at fits
    have room : r.events.length < 2 ^ 32 := by omega
    obtain ⟨numbered, once⟩ := given room
    refine ⟨numbered.append ?_, ?_⟩
    · intro i f here
      obtain ⟨last, rfl⟩ := List.getElem?_eq_some_iff.1 here
      have next : e.sequence.toNat = r.events.length := by
        rw [extends_.next]
        exact nextSequence_of_numbered numbered room now
      rw [List.length_singleton] at last
      rw [List.getElem_singleton]
      omega
    · rw [List.countP_append]
      rcases extends_.kind with ⟨day, bcd⟩ | ⟨cancel, lasting⟩
      · have other : [e].countP (·.kind == .cancel) = 0 := by
          simp [bcd]
        omega
      · have first := countP_of_neverEnds lasting
        have single := List.countP_le_length (p := (·.kind == .cancel)) (l := [e])
        rw [List.length_singleton] at single
        omega

end SubscriptionRecord

/-- a new record is numbered from its creation on, and nothing ends it -/
theorem NewSubscription.record_orderly {c : Catalog} {n : NewSubscription} {r : SubscriptionRecord}
    (h : n.record c = .ok r) (fits : r.events.length < 2 ^ 32) :
    Numbered r.events ∧ r.endsAtMostOnce := by
  have lasting : r.neverEnds = true := by
    obtain ⟨current, later, _, rfl⟩ := record_eq_ok h
    refine List.all_eq_true.2 ?_
    intro e he
    rcases List.mem_cons.1 he with rfl | he
    · rfl
    · obtain ⟨_, phase, kind⟩ := phaseEvents_fit e he
      rw [kind]
      rfl
  refine ⟨?_, ?_⟩
  · obtain ⟨current, later, _, rfl⟩ := record_eq_ok h
    rw [List.length_cons, phaseEvents_length] at fits
    have first : Numbered [(⟨n.id, 0, n.effectiveDate, n.processedDate,
        .create n.plan.name current n.plan.priceListName⟩ : TransitionEvent)] := by
      intro i e here
      obtain ⟨inside, rfl⟩ := List.getElem?_eq_some_iff.1 here
      rw [List.length_singleton] at inside
      rw [List.getElem_singleton]
      show 0 = i
      omega
    have room : (1 : UInt32).toNat + later.length ≤ 2 ^ 32 := by
      show 1 + later.length ≤ 2 ^ 32
      omega
    exact first.append fun i e here => phaseEvents_numbers room here
  · unfold SubscriptionRecord.endsAtMostOnce
    rw [SubscriptionRecord.countP_of_neverEnds lasting]
    exact Nat.zero_le 1

/-! ## stored records -/

/-- a timeline as it is stored -/
structure SubscriptionRecord.WellFormed (r : SubscriptionRecord) : Prop where
  numbered : ∀ (i : Nat) (e : TransitionEvent), r.events[i]? = some e →
    e.sequence.toNat = i ∧ e.subscriptionId = r.id
  created : ∃ first later plan phase priceList, r.events = first :: later ∧
    first.kind = .create plan phase priceList ∧ first.effectiveDate = r.alignStartDate ∧
      ∀ e ∈ later, e.kind.establishes = false
  ends_once : r.events.countP (·.kind == .cancel) ≤ 1
  ends_late : ∀ e ∈ r.events, e.kind = .cancel → r.alignStartDate ≤ e.effectiveDate

namespace SubscriptionRecord.Follows
variable {r : SubscriptionRecord} {name : String} (h : r.Follows name)
include h

/-- no cancellation comes before the start -/
theorem cancel_ge : ∀ e ∈ r.events, e.kind = .cancel → r.alignStartDate ≤ e.effectiveDate := by
  intro e he cancel
  obtain ⟨_, _, later, events, fit⟩ := h
  rw [events] at he
  rcases List.mem_cons.1 he with rfl | he
  · cases cancel
  · exact (fit e he).2.2 cancel

theorem wellFormed (numbered : Numbered r.events) (once : r.endsAtMostOnce) : r.WellFormed := by
  have late := h.cancel_ge
  obtain ⟨phase, priceList, later, events, fit⟩ := h
  refine ⟨?_, ?_, once, late⟩
  · intro i e here
    refine ⟨numbered i e here, ?_⟩
    have he := List.mem_of_getElem? here
    rw [events] at he
    rcases List.mem_cons.1 he with rfl | he
    · rfl
    · exact (fit e he).1
  · refine ⟨_, later, name, phase, priceList, events, rfl, rfl, ?_⟩
    intro e he
    exact EventKind.establishes_of_fits (fit e he).2.1

/-- it does not end before it starts -/
theorem endDate_ge (now : Instant) {date : Instant}
    (ends : (Subscription.rebuild r [] now).endDate = some date) : r.alignStartDate ≤ date := by
  rw [Subscription.endDate_rebuild] at ends
  obtain ⟨e, found, rfl⟩ := Option.map_eq_some_iff.1 ends
  have he := SubscriptionRecord.mem_events_rebuild.1 (List.mem_of_find?_eq_some found)
  exact h.cancel_ge e he (by simpa using List.find?_some found)

end SubscriptionRecord.Follows

namespace Service
variable (c : Catalog) (max : Nat) (cached : Bool) {turns : List Turn}

theorem run_orderly (distinct : DistinctIds turns) :
    ∀ r ∈ ((new c max cached).after turns).store.records, r.events.length < 2 ^ 32 →
      Numbered r.events ∧ r.endsAtMostOnce := by
  refine after_induction (P := fun _ s => ∀ r ∈ s.store.records, r.events.length < 2 ^ 32 →
    Numbered r.events ∧ r.endsAtMostOnce) ?_ ?_
  · intro r hr
    cases hr
  · intro earlier t part before r' hr' fits
    obtain ⟨serves, sound, fresh⟩ := reached c max cached distinct part
    rcases turn_next serves sound fresh r' hr' with ⟨n, made⟩ | ⟨r, hr, next⟩
    · exact NewSubscription.record_orderly made fits
    · exact next.orderly fits (before r hr)

theorem run_wellFormed (distinct : DistinctIds turns) :
    ∀ r ∈ ((new c max cached).after turns).store.records, r.events.length < 2 ^ 32 →
      r.WellFormed ∧ ∀ now, (Subscription.rebuild r [] now).startDate = r.alignStartDate ∧
        ∀ date, (Subscription.rebuild r [] now).endDate = some date →
          (Subscription.rebuild r [] now).startDate ≤ date := by
  intro r hr fits
  obtain ⟨numbered, once⟩ := run_orderly c max cached distinct r hr fits
  obtain ⟨_, _, _, follows⟩ := run_onPlans c max cached distinct r hr
  refine ⟨follows.wellFormed numbered once, ?_⟩
  intro now
  rw [follows.startDate_eq now]
  exact ⟨rfl, fun date ends => follows.endDate_ge now ends⟩

end Service

/-- a pistol is billed on another day, from before its start on, and cancelled -/
def Shop.rebilled : List Turn :=
  [turn 1 (.create [pair] false),
    turn 2 (.updateBillCycleDay (.ofNat 1001) 1 (some ⟨2024, 1, 1, by decide, by decide⟩)),
    turn 3 (.cancel [.ofNat 1001] ⟨.immediate, none⟩)]

theorem run_wellFormed_rebilled :
    DistinctIds Shop.rebilled ∧
      ∃ r ∈ ((Service.new Shop.catalog 255 true).after Shop.rebilled).store.records,
        r.events.length = 3 ∧ r.WellFormed ∧
          (Subscription.rebuild r [] (Shop.midnight 0)).startDate = r.alignStartDate := by
  have distinct : DistinctIds Shop.rebilled := by decide +kernel
  have held : ∃ r ∈ ((Service.new Shop.catalog 255 true).after Shop.rebilled).store.records,
      r.events.length = 3 := by decide +kernel
  obtain ⟨r, hr, three⟩ := held
  obtain ⟨formed, dated⟩ :=
    Service.run_wellFormed Shop.catalog 255 true distinct r hr (by omega)
  exact ⟨distinct, r, hr, three, formed, (dated (Shop.midnight 0)).1⟩

end SubscriptionBundles
