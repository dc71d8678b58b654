import SubscriptionBundles.Proofs.ActiveStates

/-!
# Timelines that do not end

Of the events that establish no plan, the phase of the plan in force is set by the last one that
names a phase of it.

* `TransitionEvent.phaseOf?`   the phase that an event sets on a plan;
* `Standing.settle_established`  what events that establish nothing leave;
* `exists_cut`                 a timeline cut at an event;
* `exists_last_set`            the event that sets it.
-/

namespace SubscriptionBundles

/-! ## the phase of the plan in force -/

/-- the phase of a plan that an event sets -/
def TransitionEvent.phaseOf? (name : String) (e : TransitionEvent) : Option PhaseType :=
  match e.kind with
  | .phase plan phase => if plan = name then some phase else none
  | _ => none

theorem TransitionEvent.phaseOf?_eq_some {name : String} {e : TransitionEvent} {phase : PhaseType} :
    e.phaseOf? name = some phase ↔ e.kind = .phase name phase := by
  unfold phaseOf?
  cases e.kind with
  | phase plan other =>
    show (if plan = name then some other else none) = _ ↔ _
    by_cases same : plan = name
    · simp [same]
    · simp [same]
  | create _ _ _ | change _ _ _ | cancel | billCycleDayChange _ => simp

namespace Standing
variable {s : Standing} {name : String} {e : TransitionEvent}

theorem after?_established (on : s.plan? = some name) (kind : e.kind.establishes = false)
    (open_ : e.kind ≠ .cancel) :
    ((s.after? e.kind).getD s).state? = s.state? ∧ ((s.after? e.kind).getD s).plan? = s.plan? ∧
      ((s.after? e.kind).getD s).phase? = (e.phaseOf? name).or s.phase? := by
  unfold TransitionEvent.phaseOf?
  cases given : e.kind with
  | create _ _ _ | change _ _ _ =>
    rw [given] at kind
    cases kind
  | cancel => exact absurd given open_
  | billCycleDayChange _ => exact ⟨rfl, rfl, rfl⟩
  | phase plan phase =>
    show _ ∧ _ ∧ _ = (if plan = name then some phase else none).or s.phase?
    by_cases same : plan = name
    · have step : s.after? (.phase plan phase) = some { s with phase? := some phase } := by
        rw [same]
        exact Standing.after?_phase_eq_some.2 ⟨on, rfl⟩
      rw [step, if_pos same]
      exact ⟨rfl, rfl, rfl⟩
    · have step : s.after? (.phase plan phase) = none := by
        refine if_neg fun named => same ?_
        rw [on] at named
        exact (Option.some.inj named).symm
      rw [step, if_neg same]
      exact ⟨rfl, rfl, rfl⟩

/-- events that establish nothing leave the plan, and the last phase of it that they name -/
theorem settle_established {events : List TransitionEvent} (on : s.plan? = some name)
    (kinds : ∀ e ∈ events, e.kind.establishes = false ∧ e.kind ≠ .cancel) :
    (s.settle events).state? = s.state? ∧ (s.settle events).plan? = s.plan? ∧
      (s.settle events).phase? =
        (events.filterMap (TransitionEvent.phaseOf? name)).getLast?.or s.phase? := by
  induction events generalizing s with
  | nil => exact ⟨rfl, rfl, rfl⟩
  | cons e rest ih =>
    obtain ⟨kind, open_⟩ := kinds e List.mem_cons_self
    obtain ⟨state, plan, phase⟩ := after?_established on kind open_
    obtain ⟨state', plan', phase'⟩ := ih (plan.trans on) fun f hf =>
      kinds f (List.mem_cons_of_mem e hf)
    rw [settle_cons]
    refine ⟨state'.trans state, plan'.trans plan, ?_⟩
    rw [phase', phase]
    cases read : e.phaseOf? name with
    | none => rw [List.filterMap_cons_none read, Option.none_or]
    | some here =>
      rw [List.filterMap_cons_some read, List.getLast?_cons]
      cases (rest.filterMap (TransitionEvent.phaseOf? name)).getLast? with
      | none => rfl
      | some last => rfl

end Standing

/-! ## cut at an event -/

/-- in timeline order, what stands before an event precedes it, and it precedes what stands after -/
theorem exists_cut {events : List TransitionEvent} {change : TransitionEvent}
    (sorted : events.Pairwise (TransitionEvent.precedes · · = true)) (distinct : events.Nodup)
    (here : change ∈ events) :
    ∃ before after, events = before ++ change :: after ∧
      after.Pairwise (TransitionEvent.precedes · · = true) ∧
      (∀ e ∈ before, e.precedes change = true) ∧
      ∀ e ∈ after, change.precedes e = true ∧ e ≠ change := by
  obtain ⟨before, after, rfl⟩ := List.append_of_mem here
  obtain ⟨_, sorted, across⟩ := List.pairwise_append.1 sorted
  obtain ⟨first, sorted⟩ := List.pairwise_cons.1 sorted
  have once := (List.nodup_cons.1 (List.nodup_append.1 distinct).2.1).1
  refine ⟨before, after, rfl, sorted, fun e he => across e he change List.mem_cons_self, ?_⟩
  intro e he
  refine ⟨first e he, ?_⟩
  rintro rfl
  exact once he

/-! ## the last entry that is read -/

theorem exists_last_of_filterMap {α β : Type} {f : α → Option β} {l : List α} {b : β}
    (h : (l.filterMap f).getLast? = some b) :
    ∃ l₁ a l₂, l = l₁ ++ a :: l₂ ∧ f a = some b ∧ ∀ x ∈ l₂, f x = none := by
  induction l with
  | nil => cases h
  | cons a l ih =>
    cases rest : (l.filterMap f).getLast? with
    | some other =>
      have same : other = b := by
        cases read : f a with
        | none =>
          rw [List.filterMap_cons_none read, rest] at h
          exact Option.some.inj h
        | some here =>
          rw [List.filterMap_cons_some read, List.getLast?_cons, rest] at h
          exact Option.some.inj h
      rw [same] at rest
      obtain ⟨l₁, c, l₂, eq, read, after⟩ := ih rest
      exact ⟨a :: l₁, c, l₂, by rw [eq]; rfl, read, after⟩
    | none =>
      have unread := List.getLast?_eq_none_iff.1 rest
      refine ⟨[], a, l, rfl, ?_, List.filterMap_eq_nil_iff.1 unread⟩
      cases read : f a with
      | none =>
        rw [List.filterMap_cons_none read, unread] at h
        cases h
      | some here =>
        rw [List.filterMap_cons_some read, unread] at h
        exact h

/-- in timeline order, the last event that sets a phase of a plan comes after all that do -/
theorem exists_last_set {name : String} {phase : PhaseType} {events : List TransitionEvent}
    (sorted : events.Pairwise (TransitionEvent.precedes · · = true))
    (h : (events.filterMap (TransitionEvent.phaseOf? name)).getLast? = some phase) :
    ∃ e ∈ events, e.phaseOf? name = some phase ∧
      ∀ f ∈ events, (f.phaseOf? name).isSome = true → f.precedes e = true := by
  obtain ⟨l₁, e, l₂, rfl, read, unread⟩ := exists_last_of_filterMap h
  refine ⟨e, List.mem_append_right _ List.mem_cons_self, read, ?_⟩
  intro f hf sets
  rcases List.mem_append.1 hf with hf | hf
  · exact (List.pairwise_append.1 sorted).2.2 f hf e List.mem_cons_self
  · rcases List.mem_cons.1 hf with rfl | hf
    · exact (TransitionEvent.precedes_total f f).elim id id
    · rw [unread f hf] at sets
      cases sets

end SubscriptionBundles
