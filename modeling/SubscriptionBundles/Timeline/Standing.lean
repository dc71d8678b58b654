import SubscriptionBundles.Timeline.Event

/-!
# Standing and transitions

* `Standing`         the values in force at a point of a timeline;
* `Standing.after?`  the standing after an event, unless the event is a phase of a plan that is no
                     longer the one in force;
* `transitions`      the steps that a timeline takes from a standing, ending with a cancellation;
* `standingAt`       the standing after the last step that is effective by an instant.
-/

namespace SubscriptionBundles

inductive EntitlementState
  | pending
  | active
  | cancelled
deriving DecidableEq

namespace EntitlementState

def label : EntitlementState → String
  | pending => "pending"
  | active => "active"
  | cancelled => "cancelled"

def all : List EntitlementState := [pending, active, cancelled]

end EntitlementState

structure Standing where
  state? : Option EntitlementState
  plan? : Option String
  phase? : Option PhaseType
  priceList? : Option String
  billCycleDay? : Option UInt32
deriving DecidableEq

namespace Standing

/-- before the first event -/
def initial : Standing := ⟨none, none, none, none, none⟩

/-- a subscription that no event has touched is pending -/
def state (s : Standing) : EntitlementState := s.state?.getD .pending

def after? (s : Standing) : EventKind → Option Standing
  | .create plan phase priceList | .change plan phase priceList =>
    some { s with
      state? := some .active, plan? := some plan, phase? := some phase, priceList? := some priceList }
  | .phase plan phase => if s.plan? = some plan then some { s with phase? := some phase } else none
  | .cancel => some { s with state? := some .cancelled }
  | .billCycleDayChange day => some { s with billCycleDay? := some day }

end Standing

/-- an event with the standing before and after it -/
structure Transition where
  event : TransitionEvent
  previous : Standing
  next : Standing
deriving DecidableEq

def transitions (s : Standing) : List TransitionEvent → List Transition
  | [] => []
  | e :: rest =>
    match s.after? e.kind with
    | none => transitions s rest
    | some next => ⟨e, s, next⟩ :: if e.kind = .cancel then [] else transitions next rest

/-- the standing that the last effective step leaves, or the one given if there is none -/
def standingAt (now : Instant) (s : Standing) : List Transition → Standing
  | [] => s
  | t :: rest => standingAt now (if t.event.effectiveDate ≤ now then t.next else s) rest

/-! ## small laws -/

theorem Standing.after?_phase_eq_some {s next : Standing} {plan : String} {phase : PhaseType} :
    s.after? (.phase plan phase) = some next ↔
      s.plan? = some plan ∧ next = { s with phase? := some phase } := by
  unfold after?
  rw [Option.ite_none_right_eq_some, Option.some.injEq, eq_comm (a := next)]

@[simp] theorem transitions_nil (s : Standing) : transitions s [] = [] := rfl

theorem transitions_cons_none {s : Standing} {e : TransitionEvent} (h : s.after? e.kind = none)
    (rest : List TransitionEvent) : transitions s (e :: rest) = transitions s rest := by
  simp [transitions, h]

theorem transitions_cons_cancel {s : Standing} {e : TransitionEvent} (h : e.kind = .cancel)
    (rest : List TransitionEvent) :
    transitions s (e :: rest) = [⟨e, s, { s with state? := some .cancelled }⟩] := by
  simp [transitions, Standing.after?, h]

theorem transitions_cons_some {s next : Standing} {e : TransitionEvent}
    (h : s.after? e.kind = some next) (hc : e.kind ≠ .cancel) (rest : List TransitionEvent) :
    transitions s (e :: rest) = ⟨e, s, next⟩ :: transitions next rest := by
  simp [transitions, h, hc]

theorem transitions_sublist (s : Standing) (events : List TransitionEvent) :
    ((transitions s events).map (·.event)).Sublist events := by
  induction events generalizing s with
  | nil => exact .slnil
  | cons e rest ih =>
    unfold transitions
    split
    · exact (ih s).cons e
    · split
      · exact (List.nil_sublist rest).cons_cons e
      · exact (ih _).cons_cons e

theorem standingAt_append (now : Instant) (s : Standing) (a b : List Transition) :
    standingAt now s (a ++ b) = standingAt now (standingAt now s a) b := by
  induction a generalizing s with
  | nil => rfl
  | cons t a ih => exact ih _

end SubscriptionBundles
