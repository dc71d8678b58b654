import Mathlib.Data.List.Nodup
import SubscriptionBundles.Proofs.Endings

/-!
# Where events are stored

A timeline has one place for a date and a number.  Events that have places of their own may be
stored in any order, and in the record or beside it: a subscription is rebuilt from the timeline, and
the timeline is the same.

* `TransitionEvent.place`             where an event stands in a timeline;
* `timeline_eq_iff`                   the same events make the same timeline;
* `Subscription.rebuild_eq_iff_perm`  so they make the same subscription.
-/

namespace SubscriptionBundles

/-! ## places -/

namespace TransitionEvent

/-- what the timeline goes by -/
def place (e : TransitionEvent) : Instant × UInt32 := (e.effectiveDate, e.sequence)

/-- two events that precede each other have one place -/
theorem place_eq_of_precedes {a b : TransitionEvent} (hab : a.precedes b = true)
    (hba : b.precedes a = true) : a.place = b.place := by
  rw [precedes_iff] at hab hba
  have date : a.effectiveDate = b.effectiveDate := Instant.place_inj.1 (by omega)
  have number : a.sequence = b.sequence := UInt32.toNat_inj.1 (by omega)
  unfold place
  rw [date, number]

end TransitionEvent

/-! ## timelines -/

section
variable {a b : List TransitionEvent}

theorem timeline_eq_of_perm (distinct : (a.map (·.place)).Nodup) (perm : b.Perm a) :
    timeline b = timeline a := by
  have sorted := timeline_perm a
  apply List.Perm.eq_of_pairwise _ (timeline_sorted b) (timeline_sorted a)
    ((timeline_perm b).trans (perm.trans sorted.symm))
  intro e f he hf hef hfe
  -- both are among the events, and no two of these share a place
  have he : e ∈ a := perm.mem_iff.1 (mem_timeline.1 he)
  have hf : f ∈ a := mem_timeline.1 hf
  exact List.inj_on_of_nodup_map distinct he hf (TransitionEvent.place_eq_of_precedes hef hfe)

/-- a timeline tells the events that it is made of, but not how they are stored -/
theorem timeline_eq_iff (distinct : (a.map (·.place)).Nodup) :
    timeline b = timeline a ↔ b.Perm a := by
  constructor
  · intro same
    have sorted := timeline_perm a
    rw [← same] at sorted
    exact (timeline_perm b).symm.trans sorted
  · exact timeline_eq_of_perm distinct

end

/-! ## records -/

section
variable {r : SubscriptionRecord} {extra : List TransitionEvent}

namespace Subscription

/-- what a record and extra events make is a matter of their timeline -/
theorem rebuild_eq_of_timeline {events' extra' : List TransitionEvent}
    (same : timeline ({ r with events := events' }.eventsWith extra') =
      timeline (r.eventsWith extra)) (now : Instant) :
    rebuild { r with events := events' } extra' now = rebuild r extra now := by
  unfold SubscriptionRecord.eventsWith at same
  unfold rebuild
  dsimp only at same ⊢
  rw [same]

/-- Events with places of their own make one subscription, in whatever order they are stored and
whichever of them stand in the record or beside it; and it takes those very events. -/
theorem rebuild_eq_iff_perm (distinct : ((r.eventsWith extra).map (·.place)).Nodup)
    (events' extra' : List TransitionEvent) (now : Instant) :
    rebuild { r with events := events' } extra' now = rebuild r extra now ↔
      ({ r with events := events' }.eventsWith extra').Perm (r.eventsWith extra) := by
  rw [← timeline_eq_iff distinct]
  constructor
  · intro same
    exact congrArg Subscription.events same
  · intro same
    exact rebuild_eq_of_timeline same now

end Subscription

end

namespace Shop

/-- the two creations, the later one first -/
def creations : List TransitionEvent := restarted.events.reverse.filter (·.kind ≠ .cancel)

/-- the two cancellations, the later one first, around an event of another subscription -/
def cancellations : List TransitionEvent :=
  [⟨.ofNat 1, 2, midnight 20010, midnight 20004, .cancel⟩,
    ⟨.ofNat 3, 0, midnight 20000, midnight 20000, .billCycleDayChange 12⟩,
    ⟨.ofNat 1, 1, midnight 20030, midnight 20003, .cancel⟩]

/-- the billing day is changed twice at one place of the timeline -/
def rebilledTwice (first second : UInt32) : SubscriptionRecord :=
  { recancelled with
    events :=
      [⟨.ofNat 1, 0, midnight 20000, midnight 20000, .billCycleDayChange first⟩,
        ⟨.ofNat 1, 0, midnight 20000, midnight 20000, .billCycleDayChange second⟩] }

end Shop

theorem Subscription.rebuild_eq_iff_perm_restarted :
    ((Shop.restarted.eventsWith []).map (·.place)).Nodup ∧
      rebuild { Shop.restarted with events := Shop.creations } Shop.cancellations
        (Shop.midnight 20021) = rebuild Shop.restarted [] (Shop.midnight 20021) := by
  have distinct : ((Shop.restarted.eventsWith []).map (·.place)).Nodup := by decide
  refine ⟨distinct, ?_⟩
  exact (rebuild_eq_iff_perm distinct Shop.creations Shop.cancellations _).2 (by decide)

/-- the same events, but the one that is stored last counts -/
example :
    (Shop.rebilledTwice 12 20).events.Perm (Shop.rebilledTwice 20 12).events ∧
      (Subscription.rebuild (Shop.rebilledTwice 12 20) [] (Shop.midnight 20001)).current ≠
        (Subscription.rebuild (Shop.rebilledTwice 20 12) [] (Shop.midnight 20001)).current := by
  decide

end SubscriptionBundles
