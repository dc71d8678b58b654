import SubscriptionBundles.Proofs.NumberedEvents
import SubscriptionBundles.Proofs.SettledTimelines

/-!
# Changes of plan

A change puts a plan in force and writes down the phases of it that are to come.  Phase events that
were stored before name a plan, and one that names the new plan still counts.

* `PlanChange`                        a plan, the phase it is entered at, and when;
* `PlanChange.Moves`                  the events of a change, beside those of a stored record;
* `PlanChange.Moves.split`            what is effective after the change;
* `PlanChange.Moves.current_eq`       the standing after the change;
* `PlanChange.DisturbedBy`            a stored event that sets a phase the plan does not have in force;
* `PlanChange.not_disturbedBy_of_ne`  there is none if the plan is another one;
* `PlanChange.Moves.kept_iff`         the plan's own phases are in force if and only if there is none.
-/

namespace SubscriptionBundles

/-! ## changes -/

/-- a plan that is entered at the phase of a place, its phases laid out from `start` -/
structure PlanChange where
  plan : Plan
  place : Nat
  start : Instant
  effective : Instant

namespace PlanChange
variable (m : PlanChange)

/-- the phase that the plan has in force -/
def phaseAt? (t : Instant) : Option PhaseType := m.plan.phaseInForce? m.place m.start t

/-- the phases that start after the change -/
def toCome : List (PhaseType × Instant) :=
  upcoming (phaseSchedule m.start (m.plan.phases.drop m.place)) m.effective

/-- the events of a change, numbered after those of the record -/
structure Moves (r : SubscriptionRecord) (change : TransitionEvent) (later : List TransitionEvent) :
    Prop where
  follows : ∃ name, r.Follows name
  lasting : r.neverEnds = true
  late : r.alignStartDate ≤ m.effective
  numbered : Numbered (r.events ++ change :: later)
  changes : ∃ number processed current, m.phaseAt? m.effective = some current ∧
    change = ⟨r.id, number, m.effective, processed, .change m.plan.name current m.plan.priceListName⟩
  phases : ∃ number processed, number.toNat + m.toCome.length ≤ 2 ^ 32 ∧
    later = phaseEvents r.id m.plan.name processed number m.toCome

/-- a stored event that sets another phase of the plan than is in force, on a date on which no phase
of the plan starts, and the last one on that date -/
structure DisturbedBy (r : SubscriptionRecord) (e : TransitionEvent) : Prop where
  stored : e ∈ r.events
  after : m.effective < e.effectiveDate
  unplanned : ∀ i, m.plan.phaseStart? m.place m.start i ≠ some e.effectiveDate
  last : ∀ f ∈ r.events, f.effectiveDate = e.effectiveDate →
    (f.phaseOf? m.plan.name).isSome = true → f.sequence.toNat ≤ e.sequence.toNat
  wrong : ∃ phase, e.kind = .phase m.plan.name phase ∧ m.phaseAt? e.effectiveDate ≠ some phase

/-- another plan than the one that the subscription is on is not disturbed -/
theorem not_disturbedBy_of_ne {r : SubscriptionRecord} {name : String} (follows : r.Follows name)
    (other : m.plan.name ≠ name) (e : TransitionEvent) : ¬m.DisturbedBy r e := by
  intro disturbed
  obtain ⟨phase, kind, _⟩ := disturbed.wrong
  obtain ⟨_, _, later, events, fit⟩ := follows
  have stored := disturbed.stored
  rw [events] at stored
  rcases List.mem_cons.1 stored with rfl | stored
  · cases kind
  · have fits := (fit e stored).2.1
    rw [kind] at fits
    exact other (eq_of_beq fits)

end PlanChange

namespace PlanChange.Moves
variable {m : PlanChange} {r : SubscriptionRecord} {change : TransitionEvent}
  {later : List TransitionEvent} (h : m.Moves r change later)
include h

/-! ## the events -/

theorem change_effective : change.effectiveDate = m.effective := by
  obtain ⟨_, _, _, _, made⟩ := h.changes
  rw [made]

theorem change_number : change.sequence.toNat = r.events.length := by
  refine h.numbered r.events.length change ?_
  rw [List.getElem?_append_right (Nat.le_refl _), Nat.sub_self, List.getElem?_cons_zero]

theorem later_number {e : TransitionEvent} (he : e ∈ later) :
    r.events.length < e.sequence.toNat := by
  obtain ⟨i, here⟩ := List.getElem?_of_mem he
  have number := h.numbered (r.events.length + (i + 1)) e (by
    rw [List.getElem?_append_right (Nat.le_add_right _ _), Nat.add_sub_cancel_left,
      List.getElem?_cons_succ]
    exact here)
  omega

theorem stored_number {e : TransitionEvent} (he : e ∈ r.events) :
    e.sequence.toNat < r.events.length := by
  obtain ⟨i, here⟩ := List.getElem?_of_mem he
  obtain ⟨inside, _⟩ := List.getElem?_eq_some_iff.1 here
  have number := h.numbered i e (by
    rw [List.getElem?_append_left inside]
    exact here)
  omega

theorem later_effective {e : TransitionEvent} (he : e ∈ later) : m.effective < e.effectiveDate := by
  obtain ⟨_, _, _, rfl⟩ := h.phases
  exact lt_of_mem_upcoming he

theorem later_sorted : later.Pairwise (TransitionEvent.precedes · · = true) := by
  obtain ⟨_, _, fits, rfl⟩ := h.phases
  exact phaseEvents_sorted (upcoming_sorted _ _ _ _) fits _ _ _

theorem later_kind {e : TransitionEvent} (he : e ∈ later) :
    ∃ phase, e.phaseOf? m.plan.name = some phase := by
  obtain ⟨_, _, _, rfl⟩ := h.phases
  obtain ⟨_, phase, kind⟩ := phaseEvents_fit e he
  exact ⟨phase, TransitionEvent.phaseOf?_eq_some.2 kind⟩

/-- the events to come are on the dates on which phases start -/
theorem exists_later_iff {date : Instant} (after : m.effective < date) :
    (∃ e ∈ later, e.effectiveDate = date) ↔
      ∃ i, m.plan.phaseStart? m.place m.start i = some date := by
  obtain ⟨_, _, _, rfl⟩ := h.phases
  constructor
  · intro given
    obtain ⟨e, he, rfl⟩ := given
    obtain ⟨_, q, entry, rfl⟩ := mem_phaseEvents.1 he
    obtain ⟨i, here⟩ := List.getElem?_of_mem (List.mem_filter.1 (List.mem_of_getElem? entry)).1
    refine ⟨i, ?_⟩
    rw [← Plan.schedule_dates, here]
    rfl
  · intro given
    obtain ⟨i, starts⟩ := given
    rw [← Plan.schedule_dates] at starts
    obtain ⟨q, here, rfl⟩ := Option.map_eq_some_iff.1 starts
    have coming : q ∈ m.toCome :=
      List.mem_filter.2 ⟨List.mem_of_getElem? here, decide_eq_true after⟩
    obtain ⟨j, entry⟩ := List.getElem?_of_mem coming
    exact ⟨_, mem_phaseEvents.2 ⟨j, q, entry, rfl⟩, rfl⟩

theorem runs : ∀ e ∈ r.events ++ change :: later, e.kind ≠ .cancel := by
  intro e he
  rcases List.mem_append.1 he with he | he
  · simpa using List.all_eq_true.1 h.lasting e he
  · rcases List.mem_cons.1 he with rfl | he
    · obtain ⟨_, _, _, _, rfl⟩ := h.changes
      nofun
    · obtain ⟨phase, sets⟩ := h.later_kind he
      rw [TransitionEvent.phaseOf?_eq_some.1 sets]
      nofun

/-- what is effective after the change establishes nothing: the creation comes before -/
theorem establishes_of_after {e : TransitionEvent} (he : e ∈ r.events ∨ e ∈ later)
    (after : m.effective < e.effectiveDate) : e.kind.establishes = false := by
  rcases he with he | he
  · obtain ⟨name, phase, priceList, rest, events, fit⟩ := h.follows
    rw [events] at he
    rcases List.mem_cons.1 he with rfl | he
    · have early : r.alignStartDate ≤ m.effective := h.late
      rw [Instant.le_def] at early
      rw [Instant.lt_def] at after
      change m.effective.place < r.alignStartDate.place at after
      omega
    · exact EventKind.establishes_of_fits (fit e he).2.1
  · obtain ⟨phase, sets⟩ := h.later_kind he
    rw [TransitionEvent.phaseOf?_eq_some.1 sets]
    rfl

/-! ## the timeline -/

/-- the timeline of a record and a change, as far as it is effective -/
theorem split {t : Instant} (due : m.effective ≤ t) :
    ∃ before after, ((timeline (r.events ++ change :: later)).filter
        fun e => decide (e.effectiveDate ≤ t)) = before ++ change :: after ∧
      after.Pairwise (TransitionEvent.precedes · · = true) ∧
      ∀ e, e ∈ after ↔ (e ∈ r.events ∨ e ∈ later) ∧ m.effective < e.effectiveDate ∧
        e.effectiveDate ≤ t := by
  have member : ∀ {e}, e ∈ (timeline (r.events ++ change :: later)).filter
      (fun e => decide (e.effectiveDate ≤ t)) ↔
        (e ∈ r.events ∨ e = change ∨ e ∈ later) ∧ e.effectiveDate ≤ t := by
    intro e
    rw [List.mem_filter, mem_timeline, List.mem_append, List.mem_cons, decide_eq_true_eq]
  have sorted := (timeline_sorted (r.events ++ change :: later)).filter
    fun e => decide (e.effectiveDate ≤ t)
  have distinct : ((timeline (r.events ++ change :: later)).filter
      fun e => decide (e.effectiveDate ≤ t)).Nodup :=
    ((timeline_perm _).nodup_iff.2 h.numbered.nodup).filter _
  have dated := h.change_effective
  have here := member.2 ⟨.inr (.inl rfl), by rw [dated]; exact due⟩
  obtain ⟨before, after, eq, sorted, earlier, following⟩ := exists_cut sorted distinct here
  rw [eq] at member
  have upTo : ∀ e ∈ before, e.effectiveDate ≤ m.effective := by
    intro e he
    have := TransitionEvent.precedes_iff.1 (earlier e he)
    rw [Instant.le_def, ← dated]
    omega
  refine ⟨before, after, eq, sorted, ?_⟩
  intro e
  constructor
  · intro he
    obtain ⟨where_, reached⟩ :=
      member.1 (List.mem_append_right _ (List.mem_cons_of_mem change he))
    rcases where_ with stored | rfl | new
    · refine ⟨.inl stored, ?_, reached⟩
      have order := TransitionEvent.precedes_iff.1 (following e he).1
      have old := h.stored_number stored
      have number := h.change_number
      rw [dated] at order
      rw [Instant.lt_def]
      omega
    · exact absurd rfl (following e he).2
    · exact ⟨.inr new, h.later_effective new, reached⟩
  · intro given
    obtain ⟨where_, passed, reached⟩ := given
    have inside := member.2 ⟨where_.imp_right .inr, reached⟩
    rcases List.mem_append.1 inside with he | he
    · have := upTo e he
      rw [Instant.le_def] at this
      rw [Instant.lt_def] at passed
      omega
    · refine (List.mem_cons.1 he).resolve_left ?_
      rintro rfl
      rw [dated, Instant.lt_def] at passed
      omega

/-! ## the standing after the change -/

theorem own : (change :: later).filter (·.subscriptionId = r.id) = change :: later := by
  rw [List.filter_eq_self]
  intro e he
  rw [decide_eq_true_eq]
  rcases List.mem_cons.1 he with rfl | he
  · obtain ⟨_, _, _, _, rfl⟩ := h.changes
    rfl
  · obtain ⟨_, _, _, rfl⟩ := h.phases
    exact (phaseEvents_fit e he).1

/-- the plan is in force, in the last phase of it that is set after the change -/
theorem current_eq {t : Instant} {before after : List TransitionEvent}
    (eq : ((timeline (r.events ++ change :: later)).filter
      fun e => decide (e.effectiveDate ≤ t)) = before ++ change :: after)
    (coming : ∀ e, e ∈ after ↔ (e ∈ r.events ∨ e ∈ later) ∧ m.effective < e.effectiveDate ∧
      e.effectiveDate ≤ t) :
    (Subscription.rebuild r (change :: later) t).current.state? = some .active ∧
      (Subscription.rebuild r (change :: later) t).current.plan? = some m.plan.name ∧
      (Subscription.rebuild r (change :: later) t).current.phase? =
        (after.filterMap (TransitionEvent.phaseOf? m.plan.name)).getLast?.or
          (m.phaseAt? m.effective) := by
  have current : (Subscription.rebuild r (change :: later) t).current =
      (((Standing.initial.settle before).after? change.kind).getD
        (Standing.initial.settle before)).settle after := by
    show standingAt t .initial (transitions .initial (timeline (r.events ++ _))) = _
    rw [h.own, standingAt_eq_settle
      (fun e he ends => absurd ends (h.runs e (mem_timeline.1 he))) (timeline_dates _)]
    refine (congrArg (Standing.settle _) eq).trans ?_
    rw [Standing.settle_append, Standing.settle_cons]
  have kinds : ∀ e ∈ after, e.kind.establishes = false ∧ e.kind ≠ .cancel := by
    intro e he
    obtain ⟨where_, passed, _⟩ := (coming e).1 he
    refine ⟨h.establishes_of_after where_ passed, h.runs e ?_⟩
    exact List.mem_append.2 (where_.imp_right (List.mem_cons_of_mem change))
  obtain ⟨_, _, phase, force, made⟩ := h.changes
  rw [current, made, force]
  exact Standing.settle_established rfl kinds

/-- of the plan's own phases, the last one that is set is in force -/
theorem phaseAt?_eq {t : Instant} (due : m.effective ≤ t) :
    m.phaseAt? t = ((later.filter fun e => decide (e.effectiveDate ≤ t)).filterMap
      (TransitionEvent.phaseOf? m.plan.name)).getLast?.or (m.phaseAt? m.effective) := by
  obtain ⟨number, processed, _, events⟩ := h.phases
  let entered : Standing :=
    { Standing.initial with plan? := some m.plan.name, phase? := m.phaseAt? m.effective }
  have laid := standingAt_upcoming m.plan m.place m.start due (s := entered) rfl rfl r.id processed
    number
  change standingAt t entered (transitions entered (phaseEvents _ _ _ _ m.toCome)) = _ at laid
  rw [← events, standingAt_eq_settle] at laid
  · have phase := congrArg Standing.phase? laid
    rw [(Standing.settle_established rfl ?_).2.2] at phase
    · exact phase.symm
    · intro e he
      have he := (List.mem_filter.1 he).1
      exact ⟨h.establishes_of_after (.inr he) (h.later_effective he), h.runs e (by simp [he])⟩
  · intro e he ends
    exact absurd ends (h.runs e (by simp [he]))
  · refine h.later_sorted.imp ?_
    intro a b first
    have := TransitionEvent.precedes_iff.1 first
    rw [Instant.le_def]
    omega

/-! ## disturbances -/

theorem eq_of_precedes {e f : TransitionEvent} (he : e ∈ r.events ∨ e ∈ later)
    (hf : f ∈ r.events ∨ f ∈ later) (first : e.precedes f = true) (last : f.precedes e = true) :
    e = f := by
  have here : ∀ {g}, g ∈ r.events ∨ g ∈ later → g ∈ r.events ++ change :: later := by
    intro g hg
    exact List.mem_append.2 (hg.imp_right (List.mem_cons_of_mem change))
  rw [TransitionEvent.precedes_iff] at first last
  exact h.numbered.eq_of_sequence (here he) (here hf) (by omega)

/-- where the last phase that is set is a new one, it is the plan's own -/
theorem kept_of_new {t : Instant} (due : m.effective ≤ t) {e : TransitionEvent} (new : e ∈ later)
    (reached : e.effectiveDate ≤ t)
    (last : ∀ f ∈ later, f.effectiveDate ≤ t → f.precedes e = true) :
    m.phaseAt? t = e.phaseOf? m.plan.name := by
  have inside : e ∈ later.filter fun e => decide (e.effectiveDate ≤ t) :=
    List.mem_filter.2 ⟨new, decide_eq_true reached⟩
  obtain ⟨phase, sets⟩ := h.later_kind new
  rw [h.phaseAt?_eq due]
  cases set : ((later.filter fun e => decide (e.effectiveDate ≤ t)).filterMap
      (TransitionEvent.phaseOf? m.plan.name)).getLast? with
  | none =>
    rw [List.getLast?_eq_none_iff, List.filterMap_eq_nil_iff] at set
    rw [set e inside] at sets
    cases sets
  | some other =>
    obtain ⟨f, hf, sets', after⟩ := exists_last_set (h.later_sorted.filter _) set
    obtain ⟨new', reached'⟩ := List.mem_filter.1 hf
    have first := last f new' (of_decide_eq_true reached')
    have second := after e inside (by rw [sets]; rfl)
    rw [← h.eq_of_precedes (.inr new') (.inr new) first second, sets']
    rfl

/-- where no phase starts in between, the same one is in force -/
theorem phaseAt?_of_none {date t : Instant} (after : m.effective ≤ date) (due : date ≤ t)
    (idle : ∀ e ∈ later, e.effectiveDate ≤ t → e.effectiveDate ≤ date) :
    m.phaseAt? t = m.phaseAt? date := by
  have later_ : m.effective ≤ t := by
    rw [Instant.le_def] at *
    omega
  have same : (later.filter fun e => decide (e.effectiveDate ≤ t)) =
      later.filter fun e => decide (e.effectiveDate ≤ date) := by
    refine List.filter_congr ?_
    intro e he
    rw [decide_eq_decide]
    refine ⟨idle e he, fun reached => ?_⟩
    rw [Instant.le_def] at *
    omega
  rw [h.phaseAt?_eq after, h.phaseAt?_eq later_, same]

theorem kept_of_undisturbed {t : Instant} (due : m.effective ≤ t)
    (free : ∀ e, ¬m.DisturbedBy r e) :
    (Subscription.rebuild r (change :: later) t).current.phase? = m.phaseAt? t := by
  obtain ⟨before, after, eq, sorted, coming⟩ := h.split due
  rw [(h.current_eq eq coming).2.2]
  have inside : ∀ f ∈ later, f.effectiveDate ≤ t → f ∈ after := by
    intro f hf reached
    exact (coming f).2 ⟨.inr hf, h.later_effective hf, reached⟩
  cases set : (after.filterMap (TransitionEvent.phaseOf? m.plan.name)).getLast? with
  | none =>
    rw [List.getLast?_eq_none_iff, List.filterMap_eq_nil_iff] at set
    rw [Option.none_or]
    refine (h.phaseAt?_of_none (Instant.le_refl _) due ?_).symm
    intro f hf reached
    obtain ⟨phase, sets⟩ := h.later_kind hf
    rw [set f (inside f hf reached)] at sets
    cases sets
  | some phase =>
    obtain ⟨e, he, sets, last⟩ := exists_last_set sorted set
    obtain ⟨where_, passed, reached⟩ := (coming e).1 he
    have lastNew : ∀ f ∈ later, f.effectiveDate ≤ t → f.precedes e = true := by
      intro f hf due
      obtain ⟨other, named⟩ := h.later_kind hf
      exact last f (inside f hf due) (by rw [named]; rfl)
    rw [Option.some_or]
    rcases where_ with stored | new
    · have idle : ∀ f ∈ later, f.effectiveDate ≤ t → f.effectiveDate ≤ e.effectiveDate := by
        intro f hf due
        have := TransitionEvent.precedes_iff.1 (lastNew f hf due)
        rw [Instant.le_def]
        omega
      have passed' : m.effective ≤ e.effectiveDate := Int.le_of_lt passed
      rw [h.phaseAt?_of_none passed' reached idle]
      by_contra wrong
      refine free e ⟨stored, passed, ?_, ?_, phase, TransitionEvent.phaseOf?_eq_some.1 sets,
        Ne.symm wrong⟩
      · intro i starts
        obtain ⟨f, hf, same⟩ := (h.exists_later_iff passed).2 ⟨i, starts⟩
        have order := TransitionEvent.precedes_iff.1 (lastNew f hf (by rw [same]; exact reached))
        have := h.later_number hf
        have := h.stored_number stored
        rw [same] at order
        omega
      · intro f hf same named
        have here := (coming f).2 ⟨.inl hf, by rw [same]; exact passed, by rw [same]; exact reached⟩
        have order := TransitionEvent.precedes_iff.1 (last f here named)
        rw [same] at order
        omega
    · rw [h.kept_of_new due new reached lastNew, sets]

theorem not_kept_of_disturbed {e : TransitionEvent} (disturbed : m.DisturbedBy r e) :
    (Subscription.rebuild r (change :: later) e.effectiveDate).current.phase? ≠
      m.phaseAt? e.effectiveDate := by
  obtain ⟨stored, passed, unplanned, final, phase, kind, wrong⟩ := disturbed
  have due : m.effective ≤ e.effectiveDate := Int.le_of_lt passed
  have sets := TransitionEvent.phaseOf?_eq_some.2 kind
  obtain ⟨before, after, eq, sorted, coming⟩ := h.split due
  have inside : e ∈ after := (coming e).2 ⟨.inl stored, passed, Instant.le_refl _⟩
  rw [(h.current_eq eq coming).2.2]
  cases set : (after.filterMap (TransitionEvent.phaseOf? m.plan.name)).getLast? with
  | none =>
    rw [List.getLast?_eq_none_iff, List.filterMap_eq_nil_iff] at set
    rw [set e inside] at sets
    cases sets
  | some other =>
    obtain ⟨f, hf, sets', last⟩ := exists_last_set sorted set
    obtain ⟨where_, passed', reached⟩ := (coming f).1 hf
    have order := TransitionEvent.precedes_iff.1 (last e inside (by rw [sets]; rfl))
    have same : f.effectiveDate = e.effectiveDate := by
      rw [← Instant.place_inj]
      rw [Instant.le_def] at reached
      omega
    rcases where_ with stored' | new
    · -- the one that is set last is the event itself
      have least := final f stored' same (by rw [sets']; rfl)
      have one : f = e := by
        refine h.eq_of_precedes (.inl stored') (.inl stored) ?_ ?_
        · rw [TransitionEvent.precedes_iff, same]
          exact .inr ⟨rfl, least⟩
        · exact TransitionEvent.precedes_iff.2 order
      rw [one, sets] at sets'
      rw [Option.some_or, ← sets']
      exact Ne.symm wrong
    · obtain ⟨i, starts⟩ := (h.exists_later_iff passed').1 ⟨f, new, rfl⟩
      rw [same] at starts
      exact absurd starts (unplanned i)

/-- after a change the plan is in its own phases, unless a stored event disturbs it -/
theorem kept_iff :
    (∀ t, m.effective ≤ t →
        (Subscription.rebuild r (change :: later) t).current.state? = some .active ∧
          (Subscription.rebuild r (change :: later) t).current.plan? = some m.plan.name ∧
          (Subscription.rebuild r (change :: later) t).current.phase? = m.phaseAt? t) ↔
      ∀ e, ¬m.DisturbedBy r e := by
  constructor
  · intro kept e disturbed
    exact h.not_kept_of_disturbed disturbed
      (kept e.effectiveDate (Int.le_of_lt disturbed.after)).2.2
  · intro free t due
    obtain ⟨before, after, eq, _, coming⟩ := h.split due
    obtain ⟨state, plan, _⟩ := h.current_eq eq coming
    exact ⟨state, plan, h.kept_of_undisturbed due free⟩

end PlanChange.Moves

end SubscriptionBundles
