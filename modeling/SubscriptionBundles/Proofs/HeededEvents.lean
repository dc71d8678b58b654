import SubscriptionBundles.Proofs.SettledTimelines

/-!
# Events that a timeline ignores

A timeline takes a step for each of its events, except for the phases of a plan that is not in force
and for all that comes after a cancellation.

* `planAfter`                   the plan that is in force after events;
* `TransitionEvent.isIgnored`   an event that changes nothing where it stands;
* `heededAfter`                 the events of a timeline that do, in their order;
* `ignoredAfter`                and the others;
* `after?_eq_none_iff`          without a cancellation, they are the ones that give no standing;
* `transitions_heededAfter`     a step is taken for each event that is heeded;
* `transitions_ignoredAfter`    so each event is either a step or ignored.
-/

namespace SubscriptionBundles

/-! ## the plan in force -/

/-- the plan that an event establishes -/
def EventKind.plan? : EventKind → Option String
  | .create plan _ _ | .change plan _ _ => some plan
  | .phase _ _ | .cancel | .billCycleDayChange _ => none

/-- the plan that was established last -/
def planAfter (events : List TransitionEvent) : Option String :=
  ((events.map (·.kind)).filterMap EventKind.plan?).getLast?

theorem Standing.after?_plan? (s : Standing) (k : EventKind) :
    ((s.after? k).getD s).plan? = k.plan?.or s.plan? := by
  cases k with
  | create _ _ _ | change _ _ _ | cancel | billCycleDayChange _ => rfl
  | phase plan phase =>
    show ((if s.plan? = some plan then some { s with phase? := some phase } else none).getD s).plan? = _
    split <;> rfl

theorem Standing.settle_plan? (s : Standing) (events : List TransitionEvent) :
    (s.settle events).plan? = (planAfter events).or s.plan? := by
  unfold planAfter
  induction events generalizing s with
  | nil => rfl
  | cons e rest ih =>
    rw [settle_cons, ih, after?_plan?, List.map_cons]
    cases established : e.kind.plan? with
    | none => rw [List.filterMap_cons_none established, Option.none_or]
    | some plan =>
      rw [List.filterMap_cons_some established, List.getLast?_cons]
      cases ((rest.map (·.kind)).filterMap EventKind.plan?).getLast? <;> rfl

/-! ## ignored events -/

/-- it comes after a cancellation, or is a phase of a plan that is not in force -/
def TransitionEvent.isIgnored (earlier : List TransitionEvent) (e : TransitionEvent) : Bool :=
  earlier.any (·.kind == .cancel) ||
    match e.kind with
    | .phase plan _ => planAfter earlier != some plan
    | _ => false

/-- the events of a timeline that are not ignored, the earlier part of it given -/
def heededAfter (earlier : List TransitionEvent) : List TransitionEvent → List TransitionEvent
  | [] => []
  | e :: rest =>
    if e.isIgnored earlier then heededAfter (earlier ++ [e]) rest
    else e :: heededAfter (earlier ++ [e]) rest

/-- the ignored events of a timeline, the earlier part of it given -/
def ignoredAfter (earlier : List TransitionEvent) : List TransitionEvent → List TransitionEvent
  | [] => []
  | e :: rest =>
    if e.isIgnored earlier then e :: ignoredAfter (earlier ++ [e]) rest
    else ignoredAfter (earlier ++ [e]) rest

theorem after?_eq_none_iff {earlier : List TransitionEvent}
    (open_ : ∀ e ∈ earlier, e.kind ≠ .cancel) (e : TransitionEvent) :
    (Standing.initial.settle earlier).after? e.kind = none ↔ e.isIgnored earlier = true := by
  have going : earlier.any (·.kind == .cancel) = false := by simpa using open_
  have plan := Standing.settle_plan? .initial earlier
  unfold TransitionEvent.isIgnored
  rw [going, Bool.false_or]
  cases e.kind with
  | create _ _ _ | change _ _ _ | cancel | billCycleDayChange _ => exact ⟨nofun, nofun⟩
  | phase named phase =>
    show (if (Standing.initial.settle earlier).plan? = some named then _ else none) = none ↔
      (planAfter earlier != some named) = true
    rw [plan, show Standing.initial.plan? = none from rfl, Option.or_none]
    simp

theorem TransitionEvent.isIgnored_iff {earlier : List TransitionEvent} {e : TransitionEvent} :
    e.isIgnored earlier = true ↔ (∃ f ∈ earlier, f.kind = .cancel) ∨
      ∃ plan phase, e.kind = .phase plan phase ∧ planAfter earlier ≠ some plan := by
  unfold isIgnored
  rw [Bool.or_eq_true, List.any_eq_true]
  apply or_congr
  · simp
  · cases e.kind with
    | phase plan phase => simp
    | create _ _ _ | change _ _ _ | cancel | billCycleDayChange _ => simp

theorem heededAfter_of_cancelled {earlier : List TransitionEvent}
    (cancelled : ∃ f ∈ earlier, f.kind = .cancel) (rest : List TransitionEvent) :
    heededAfter earlier rest = [] := by
  induction rest generalizing earlier with
  | nil => rfl
  | cons e rest ih =>
    obtain ⟨f, hf, cancels⟩ := cancelled
    unfold heededAfter
    rw [if_pos (TransitionEvent.isIgnored_iff.2 (.inl ⟨f, hf, cancels⟩))]
    exact ih ⟨f, List.mem_append_left _ hf, cancels⟩

/-- without a cancellation so far, the steps that follow are those of the heeded events -/
theorem transitions_heededAfter {earlier : List TransitionEvent}
    (open_ : ∀ e ∈ earlier, e.kind ≠ .cancel) (rest : List TransitionEvent) :
    (transitions (Standing.initial.settle earlier) rest).map (·.event) =
      heededAfter earlier rest := by
  induction rest generalizing earlier with
  | nil => rfl
  | cons e rest ih =>
    have settled : Standing.initial.settle (earlier ++ [e]) =
        (((Standing.initial.settle earlier).after? e.kind).getD (.settle .initial earlier)) :=
      Standing.settle_append _ _ _
    have ignored := after?_eq_none_iff open_ e
    unfold heededAfter
    by_cases cancels : e.kind = .cancel
    · have heeded : ¬e.isIgnored earlier = true := by
        rw [← ignored, cancels]
        nofun
      have cancelled : ∃ f ∈ earlier ++ [e], f.kind = .cancel :=
        ⟨e, List.mem_append_right _ List.mem_cons_self, cancels⟩
      rw [transitions_cons_cancel cancels, if_neg heeded, heededAfter_of_cancelled cancelled]
      rfl
    · have later := @ih (earlier ++ [e]) fun f hf => by
        rcases List.mem_append.1 hf with hf | hf
        · exact open_ f hf
        · rwa [List.mem_singleton.1 hf]
      rw [settled] at later
      cases step : (Standing.initial.settle earlier).after? e.kind with
      | none =>
        rw [step] at later
        rw [transitions_cons_none step, if_pos (ignored.1 step)]
        exact later
      | some next =>
        have heeded : ¬e.isIgnored earlier = true := by
          rw [← ignored, step]
          nofun
        rw [step] at later
        rw [transitions_cons_some step cancels, if_neg heeded, List.map_cons, ← later]
        rfl

theorem heededAfter_ignoredAfter (earlier rest : List TransitionEvent) :
    (heededAfter earlier rest ++ ignoredAfter earlier rest).Perm rest := by
  induction rest generalizing earlier with
  | nil => exact .refl []
  | cons e rest ih =>
    unfold heededAfter ignoredAfter
    by_cases ignored : e.isIgnored earlier = true
    · rw [if_pos ignored, if_pos ignored]
      exact List.perm_middle.trans ((ih _).cons e)
    · rw [if_neg ignored, if_neg ignored]
      exact (ih _).cons e

/-- the steps of a timeline and the events that it ignores are all of its events -/
theorem transitions_ignoredAfter {earlier : List TransitionEvent}
    (open_ : ∀ e ∈ earlier, e.kind ≠ .cancel) (rest : List TransitionEvent) :
    ((transitions (Standing.initial.settle earlier) rest).map (·.event) ++
      ignoredAfter earlier rest).Perm rest := by
  rw [transitions_heededAfter open_]
  exact heededAfter_ignoredAfter earlier rest

namespace Subscription

/-- the events of a subscription that its timeline ignores -/
def ignored (s : Subscription) : List TransitionEvent := ignoredAfter [] s.events

theorem transitions_ignored (r : SubscriptionRecord) (extra : List TransitionEvent) (now : Instant) :
    ((rebuild r extra now).transitions.map (·.event) ++ (rebuild r extra now).ignored).Perm
      (rebuild r extra now).events :=
  @transitions_ignoredAfter [] (fun _ h => nomatch h) _

end Subscription

end SubscriptionBundles
