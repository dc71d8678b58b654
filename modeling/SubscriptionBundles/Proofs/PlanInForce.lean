import SubscriptionBundles.Proofs.Lifetime

/-!
# The plan in force

A stored subscription keeps the plan it was created on: its first event creates it, and none of
the later ones names another plan.

* `transitions_append`                a timeline cut before its cancellation;
* `transitions_forall`, `standingAt_forall`  what every step keeps holds of all that is in force;
* `SubscriptionRecord.Follows`        the record of a subscription on a plan;
* `Follows.startDate_eq`              it starts on its alignment date;
* `Follows.planName?_eq`              it names its plan at every instant;
* `Follows.grown`                     it stays so when events that fit are added.
-/

namespace SubscriptionBundles

/-! ## cutting timelines -/

/-- the standing after all events, none of them a cancellation -/
def Standing.settle (s : Standing) (events : List TransitionEvent) : Standing :=
  events.foldl (fun s e => (s.after? e.kind).getD s) s

theorem Standing.settle_cons (s : Standing) (e : TransitionEvent) (rest : List TransitionEvent) :
    s.settle (e :: rest) = ((s.after? e.kind).getD s).settle rest := rfl

theorem Standing.settle_append (s : Standing) (a b : List TransitionEvent) :
    s.settle (a ++ b) = (s.settle a).settle b := List.foldl_append

theorem transitions_append (s : Standing) {a : List TransitionEvent}
    (open_ : ∀ e ∈ a, e.kind ≠ .cancel) (b : List TransitionEvent) :
    transitions s (a ++ b) = transitions s a ++ transitions (s.settle a) b := by
  induction a generalizing s with
  | nil => rfl
  | cons e a ih =>
    have hc := open_ e List.mem_cons_self
    have ih := fun s => ih s fun f hf => open_ f (List.mem_cons_of_mem _ hf)
    unfold Standing.settle
    rw [List.cons_append, List.foldl_cons]
    cases step : s.after? e.kind with
    | none =>
      rw [transitions_cons_none step, transitions_cons_none step]
      exact ih s
    | some next =>
      rw [transitions_cons_some step hc, transitions_cons_some step hc, List.cons_append]
      congr 1
      exact ih next

/-- an entry that may precede all of a kind is put before all of that kind -/
theorem insertBy_split {α : Type} (le : α → α → Bool) (a : α) {kind : α → Prop} {l : List α}
    (h : ∀ b ∈ l, kind b → le a b = true) :
    ∃ l₁ l₂, insertBy le a l = l₁ ++ a :: l₂ ∧ ∀ b ∈ l₁, b ∈ l ∧ ¬kind b := by
  induction l with
  | nil => exact ⟨[], [], rfl, by simp⟩
  | cons b l ih =>
    rw [insertBy_cons]
    by_cases hab : le a b = true
    · rw [if_pos hab]
      exact ⟨[], b :: l, rfl, by simp⟩
    · rw [if_neg hab]
      obtain ⟨l₁, l₂, eq, before⟩ := ih fun c hc => h c (List.mem_cons_of_mem _ hc)
      refine ⟨b :: l₁, l₂, by rw [eq]; rfl, ?_⟩
      intro c hc
      rcases List.mem_cons.1 hc with rfl | hc
      · exact ⟨List.mem_cons_self, fun hk => hab (h c List.mem_cons_self hk)⟩
      · exact ⟨List.mem_cons_of_mem _ (before c hc).1, (before c hc).2⟩

/-! ## what every step keeps -/

section
variable {P : Standing → Prop} {s : Standing} (h : P s)
include h

theorem transitions_forall {events : List TransitionEvent}
    (keeps : ∀ e ∈ events, ∀ s next, P s → s.after? e.kind = some next → P next) :
    ∀ t ∈ transitions s events, P t.next := by
  induction events generalizing s with
  | nil =>
    intro t ht
    cases ht
  | cons e rest ih =>
    have later := fun f hf => keeps f (List.mem_cons_of_mem e hf)
    unfold transitions
    cases step : s.after? e.kind with
    | none => exact ih h later
    | some next =>
      have hn := keeps e List.mem_cons_self s next h step
      intro t ht
      rcases List.mem_cons.1 ht with rfl | ht
      · exact hn
      · split at ht
        · cases ht
        · exact ih hn later t ht

theorem standingAt_forall {steps : List Transition} (all : ∀ t ∈ steps, P t.next) (now : Instant) :
    P (standingAt now s steps) := by
  induction steps generalizing s with
  | nil => exact h
  | cons t rest ih =>
    have later := fun u hu => all u (List.mem_cons_of_mem t hu)
    show P (standingAt now (if t.event.effectiveDate ≤ now then t.next else s) rest)
    split
    · exact ih (all t List.mem_cons_self) later
    · exact ih h later

end

/-! ## one plan -/

/-- no other plan is in force -/
def Standing.Only (name : String) (s : Standing) : Prop := ∀ p, s.plan? = some p → p = name

/-- what may happen to a subscription on a plan once it is created -/
def EventKind.fits (name : String) : EventKind → Bool
  | .phase plan _ => plan == name
  | .cancel | .billCycleDayChange _ => true
  | _ => false

section
variable {name : String}

theorem Standing.Only.after? {s next : Standing} {k : EventKind} (h : s.Only name)
    (named : k.fits name = true ∨ ∃ phase priceList, k = .create name phase priceList)
    (step : s.after? k = some next) : next.Only name := by
  rcases named with fits | ⟨phase, priceList, rfl⟩
  · cases k with
    | create _ _ _ | change _ _ _ => cases fits
    | phase plan phase =>
      obtain ⟨_, rfl⟩ := Standing.after?_phase_eq_some.1 step
      exact h
    | cancel | billCycleDayChange _ =>
      cases step
      exact h
  · cases step
    intro p hp
    cases hp
    rfl

theorem startOf?_append (a b : List Transition) :
    startOf? (a ++ b) = (startOf? a).or (startOf? b) := by
  unfold startOf?
  rw [List.findSome?_append]

theorem startOf?_eq_none {steps : List Transition}
    (h : ∀ t ∈ steps, t.event.kind.fits name = true) : startOf? steps = none := by
  unfold startOf?
  rw [List.findSome?_eq_none_iff]
  intro t ht
  have := h t ht
  cases hk : t.event.kind with
  | create _ _ _ =>
    rw [hk] at this
    cases this
  | _ => rfl

end

/-! ## records on a plan -/

/-- created on the plan at the alignment date; whatever came later fits, and no cancellation is
effective before the start -/
def SubscriptionRecord.Follows (r : SubscriptionRecord) (name : String) : Prop :=
  ∃ phase priceList later,
    r.events = ⟨r.id, 0, r.alignStartDate, r.createdUtc, .create name phase priceList⟩ :: later ∧
      ∀ e ∈ later, e.subscriptionId = r.id ∧ e.kind.fits name = true ∧
        (e.kind = .cancel → r.alignStartDate ≤ e.effectiveDate)

namespace SubscriptionRecord.Follows
variable {r : SubscriptionRecord} {name : String} (h : r.Follows name)
include h

/-- the creation stands in the timeline with no cancellation before it -/
theorem exists_transitions (now : Instant) :
    ∃ earlier later s next created, (Subscription.rebuild r [] now).transitions =
        earlier ++ ⟨created, s, next⟩ :: later ∧
      (∃ phase priceList, created.kind = .create name phase priceList) ∧
      created.effectiveDate = r.alignStartDate ∧ next.plan? = some name ∧
      ∀ t ∈ earlier, t.event.kind.fits name = true := by
  obtain ⟨phase, priceList, later, events, fit⟩ := h
  let created : TransitionEvent :=
    ⟨r.id, 0, r.alignStartDate, r.createdUtc, .create name phase priceList⟩
  have first : ∀ e ∈ timeline later, e.kind = .cancel → created.precedes e = true := by
    intro e he hc
    have := (fit e (mem_timeline.1 he)).2.2 hc
    rw [Instant.le_def] at this
    rw [TransitionEvent.precedes_iff]
    show r.alignStartDate.place < _ ∨ r.alignStartDate.place = _ ∧ 0 ≤ _
    omega
  obtain ⟨l₁, l₂, eq, before⟩ := insertBy_split TransitionEvent.precedes created first
  have steps : (Subscription.rebuild r [] now).transitions =
      transitions .initial (l₁ ++ created :: l₂) := by
    show transitions .initial (timeline (r.events ++ _)) = _
    rw [List.filter_nil, List.append_nil, events]
    exact congrArg _ eq
  rw [steps, transitions_append _ fun e he => (before e he).2]
  have step : (Standing.initial.settle l₁).after? created.kind = some
      { Standing.initial.settle l₁ with
        state? := some .active, plan? := some name, phase? := some phase
        priceList? := some priceList } := rfl
  rw [transitions_cons_some step (by simp [created])]
  refine ⟨_, _, _, _, created, rfl, ⟨phase, priceList, rfl⟩, rfl, rfl, ?_⟩
  intro t ht
  have mem := (transitions_sublist .initial l₁).subset (List.mem_map.2 ⟨t, ht, rfl⟩)
  exact (fit _ (mem_timeline.1 (before _ mem).1)).2.1

theorem startDate_eq (now : Instant) :
    (Subscription.rebuild r [] now).startDate = r.alignStartDate := by
  obtain ⟨earlier, later, s, next, created, steps, ⟨phase, priceList, kind⟩, date, _, fit⟩ :=
    h.exists_transitions now
  show (startOf? (Subscription.rebuild r [] now).transitions).getD _ = _
  rw [steps, startOf?_append, startOf?_eq_none fit]
  unfold startOf?
  simp [kind, date]

theorem planName?_eq (now : Instant) : (Subscription.rebuild r [] now).planName? = some name := by
  obtain ⟨earlier, later, s, next, created, steps, _, _, named, _⟩ := h.exists_transitions now
  obtain ⟨phase, priceList, rest, events, fit⟩ := h
  have start : Standing.initial.Only name := by
    intro p hp
    cases hp
  have all : ∀ t ∈ (Subscription.rebuild r [] now).transitions, t.next.Only name := by
    refine transitions_forall start ?_
    intro e he _ _ only
    refine only.after? ?_
    rw [mem_timeline, List.filter_nil, List.append_nil, events] at he
    rcases List.mem_cons.1 he with rfl | he
    · exact .inr ⟨phase, priceList, rfl⟩
    · exact .inl (fit e he).2.1
  have current : (Subscription.rebuild r [] now).current.Only name := standingAt_forall start all now
  unfold Subscription.planName?
  cases now? : (Subscription.rebuild r [] now).current.plan? with
  | some p => rw [current p now?, Option.some_or]
  | none =>
    rw [Option.none_or]
    cases found : (Subscription.rebuild r [] now).transitions.findSome? (·.next.plan?) with
    | some p =>
      obtain ⟨t, ht, hp⟩ := List.exists_of_findSome?_eq_some found
      rw [all t ht p hp]
    | none =>
      -- the creation itself names the plan
      rw [List.findSome?_eq_none_iff] at found
      have := found ⟨created, s, next⟩ (by rw [steps]; simp)
      rw [named] at this
      cases this

theorem own : ∀ e ∈ r.events, e.subscriptionId = r.id := by
  obtain ⟨_, _, later, events, fit⟩ := h
  intro e he
  rw [events] at he
  rcases List.mem_cons.1 he with rfl | he
  · rfl
  · exact (fit e he).1

/-- events that fit are added, and what else changes is not the creation -/
theorem grown {r' : SubscriptionRecord} (same : r'.id = r.id ∧ r'.alignStartDate = r.alignStartDate ∧
      r'.createdUtc = r.createdUtc) {more : List TransitionEvent}
    (events : r'.events = r.events ++ more)
    (fit : ∀ e ∈ more, e.subscriptionId = r.id ∧ e.kind.fits name = true ∧
      (e.kind = .cancel → r.alignStartDate ≤ e.effectiveDate)) : r'.Follows name := by
  obtain ⟨phase, priceList, later, start, before⟩ := h
  obtain ⟨hid, align, created⟩ := same
  refine ⟨phase, priceList, later ++ more, ?_, ?_⟩
  · rw [events, start, hid, align, created]
    rfl
  · intro e he
    rw [hid, align]
    rcases List.mem_append.1 he with he | he
    · exact before e he
    · exact fit e he

end SubscriptionRecord.Follows

end SubscriptionBundles
