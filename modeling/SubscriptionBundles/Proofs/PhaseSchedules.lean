import SubscriptionBundles.Proofs.ActiveStates
import SubscriptionBundles.Proofs.PhaseLengths
import SubscriptionBundles.Proofs.Runs

/-!
# Phases in force

The phases of a plan follow one another from an alignment date on.  The events of a new
subscription write them down, and the subscription rebuilt from those events is in the phase that
the plan has in force.

* `Plan.phaseStart?`            when a phase starts;
* `Plan.phaseInForce?`          the type of the last phase that has started;
* `Plan.phaseAt?_schedule`      the schedule of a plan finds the phase in force;
* `phaseAt?_later`              the phase in force later is the last one that starts until then;
* `standingAt_phaseEvents`      the events of phases set one phase after another;
* `record_in_phase`             a new subscription is in the phase that its plan has in force.
-/

namespace SubscriptionBundles

/-! ## starts of phases -/

/-- when the phase `i` places after the `k`-th starts if the `k`-th starts on `start` -/
def Plan.phaseStart? (p : Plan) (k : Nat) (start : Instant) : Nat → Option Instant
  | 0 => p.phases[k]?.map fun _ => start
  | i + 1 => do
    let here ← p.phaseStart? k start i
    let phase ← p.phases[k + i]?
    let next ← phase.duration.addTo? here
    p.phases[k + (i + 1)]?.map fun _ => next

/-- the last of those places whose phase has started by `t` -/
def Plan.lastBegun? (p : Plan) (k : Nat) (start t : Instant) : Option Nat :=
  ((List.range p.phases.length).filter fun i => (p.phaseStart? k start i).any (· ≤ t)).getLast?

/-- the type of the last phase that has started by `t`, or of the `k`-th if none has -/
def Plan.phaseInForce? (p : Plan) (k : Nat) (start t : Instant) : Option PhaseType :=
  p.phases[k + (p.lastBegun? k start t).getD 0]?.map (·.phaseType)

/-- the later phases are laid out from the end of the first -/
theorem Plan.phaseStart?_succ (p : Plan) (k : Nat) (start : Instant) (i : Nat) :
    p.phaseStart? k start (i + 1) = p.phases[k]?.bind fun phase =>
      (phase.duration.addTo? start).bind fun next => p.phaseStart? (k + 1) next i := by
  induction i with
  | zero =>
    show ((p.phases[k]?.map fun _ => start).bind fun here => p.phases[k + 0]?.bind fun phase =>
      (phase.duration.addTo? here).bind fun next => p.phases[k + (0 + 1)]?.map fun _ => next) = _
    cases here : p.phases[k]? with
    | none => rfl
    | some phase => rfl
  | succ i ih =>
    show ((p.phaseStart? k start (i + 1)).bind _) = _
    rw [ih, Option.bind_assoc]
    congr 1
    funext phase
    rw [Option.bind_assoc]
    congr 1
    funext next
    have place : k + (i + 1) = k + 1 + i := by omega
    rw [place]
    show _ = ((p.phaseStart? (k + 1) next i).bind _)
    have place : k + (i + 1 + 1) = k + 1 + (i + 1) := by omega
    rw [place]

/-! ## schedules -/

theorem phaseSchedule_cons (start : Instant) (phase : PlanPhase) (rest : List PlanPhase) :
    phaseSchedule start (phase :: rest) = (phase.phaseType, start) ::
      ((phase.duration.addTo? start).map fun next => phaseSchedule next rest).getD [] := by
  rw [phaseSchedule]
  cases phase.duration.addTo? start with
  | none => rfl
  | some next => rfl

theorem phaseSchedule_ge {start : Instant} {phases : List PlanPhase} :
    ∀ q ∈ phaseSchedule start phases, start ≤ q.2 := by
  induction phases generalizing start with
  | nil =>
    intro q hq
    cases hq
  | cons phase rest ih =>
    intro q hq
    rw [phaseSchedule_cons] at hq
    rcases List.mem_cons.1 hq with rfl | hq
    · exact Instant.le_refl start
    · cases ends : phase.duration.addTo? start with
      | none =>
        rw [ends] at hq
        cases hq
      | some next =>
        rw [ends] at hq
        have first := PhaseDuration.le_of_addTo? ends
        have later := ih q hq
        rw [Instant.le_def] at *
        omega

theorem phaseSchedule_sorted (start : Instant) (phases : List PlanPhase) :
    (phaseSchedule start phases).Pairwise fun a b => a.2 ≤ b.2 := by
  induction phases generalizing start with
  | nil => exact .nil
  | cons phase rest ih =>
    rw [phaseSchedule_cons]
    cases ends : phase.duration.addTo? start with
    | none => exact List.pairwise_singleton _ _
    | some next =>
      refine List.pairwise_cons.2 ⟨?_, ih next⟩
      intro q hq
      have first := PhaseDuration.le_of_addTo? ends
      have later := phaseSchedule_ge q hq
      rw [Instant.le_def] at *
      show start.place ≤ q.2.place
      omega

theorem Plan.schedule_getElem? (p : Plan) (k : Nat) (start : Instant) (i : Nat) :
    (phaseSchedule start (p.phases.drop k))[i]? = p.phases[k + i]?.bind fun phase =>
      (p.phaseStart? k start i).map fun date => (phase.phaseType, date) := by
  induction i generalizing k start with
  | zero =>
    rw [Nat.add_zero, ← List.head?_eq_getElem?]
    unfold phaseStart?
    cases here : p.phases[k]? with
    | none =>
      rw [List.drop_eq_nil_of_le (List.getElem?_eq_none_iff.1 here)]
      rfl
    | some phase =>
      obtain ⟨inside, rfl⟩ := List.getElem?_eq_some_iff.1 here
      rw [List.drop_eq_getElem_cons inside, phaseSchedule_cons]
      rfl
  | succ i ih =>
    rw [phaseStart?_succ]
    cases here : p.phases[k]? with
    | none =>
      have outside := List.getElem?_eq_none_iff.1 here
      rw [List.drop_eq_nil_of_le outside, List.getElem?_eq_none (by omega : _ ≤ k + (i + 1))]
      rfl
    | some phase =>
      obtain ⟨inside, rfl⟩ := List.getElem?_eq_some_iff.1 here
      rw [List.drop_eq_getElem_cons inside, phaseSchedule_cons, List.getElem?_cons_succ]
      have place : k + (i + 1) = k + 1 + i := by omega
      rw [Option.bind_some, place]
      cases ends : p.phases[k].duration.addTo? start with
      | none =>
        rw [Option.bind_none, Option.map_none]
        cases p.phases[k + 1 + i]? with
        | none => rfl
        | some next => rfl
      | some next => exact ih (k + 1) next

/-! ## the phase in force -/

section
variable {schedule : List (PhaseType × Instant)} (sorted : schedule.Pairwise fun a b => a.2 ≤ b.2)
include sorted

/-- in order, what has started is what comes first -/
theorem takeWhile_started (date : Instant) :
    schedule.takeWhile (fun q => decide (q.2 ≤ date)) =
      schedule.filter fun q => decide (q.2 ≤ date) := by
  induction schedule with
  | nil => rfl
  | cons q rest ih =>
    obtain ⟨after, sorted⟩ := List.pairwise_cons.1 sorted
    by_cases due : q.2 ≤ date
    · rw [List.takeWhile_cons_of_pos (by simpa using due), ih sorted,
        List.filter_cons_of_pos (by simpa using due)]
    · rw [List.takeWhile_cons_of_neg (by simpa using due),
        List.filter_cons_of_neg (by simpa using due), eq_comm, List.filter_eq_nil_iff]
      intro other ho
      have := after other ho
      rw [Instant.le_def] at *
      rw [decide_eq_true_eq, Instant.le_def]
      omega

theorem filter_started {date t : Instant} (h : date ≤ t) :
    (schedule.filter fun q => decide (q.2 ≤ t)) =
      (schedule.filter fun q => decide (q.2 ≤ date)) ++
        (upcoming schedule date).filter fun q => decide (q.2 ≤ t) := by
  unfold upcoming
  induction schedule with
  | nil => rfl
  | cons q rest ih =>
    obtain ⟨after, sorted⟩ := List.pairwise_cons.1 sorted
    have ih := ih sorted
    by_cases due : q.2 ≤ date
    · have started : q.2 ≤ t := by
        rw [Instant.le_def] at *
        omega
      have passed : ¬date < q.2 := by
        rw [Instant.le_def] at due
        rw [Instant.lt_def]
        omega
      simp only [List.filter_cons, due, started, passed, decide_true, decide_false, if_true]
      exact congrArg _ ih
    · -- the rest is to come as well
      have later : ∀ other ∈ q :: rest, date < other.2 := by
        intro other ho
        rw [Instant.le_def] at due
        rw [Instant.lt_def]
        rcases List.mem_cons.1 ho with rfl | ho
        · omega
        · have := after other ho
          rw [Instant.le_def] at this
          omega
      have none_started : (q :: rest).filter (fun q => decide (q.2 ≤ date)) = [] := by
        rw [List.filter_eq_nil_iff]
        intro other ho
        have := later other ho
        rw [Instant.lt_def] at this
        rw [decide_eq_true_eq, Instant.le_def]
        omega
      have all_upcoming : (q :: rest).filter (fun q => decide (date < q.2)) = q :: rest := by
        rw [List.filter_eq_self]
        intro other ho
        exact decide_eq_true (later other ho)
      rw [none_started, all_upcoming]
      rfl

theorem phaseAt?_eq (date : Instant) :
    phaseAt? schedule date =
      (((schedule.filter fun q => decide (q.2 ≤ date)).getLast?).or schedule.head?).map (·.1) := by
  unfold phaseAt?
  rw [takeWhile_started sorted]

/-- the phase in force later is the last one that starts until then -/
theorem phaseAt?_later {date t : Instant} (h : date ≤ t) :
    phaseAt? schedule t =
      ((((upcoming schedule date).filter fun q => decide (q.2 ≤ t)).getLast?).map (·.1)).or
        (phaseAt? schedule date) := by
  rw [phaseAt?_eq sorted, phaseAt?_eq sorted, filter_started sorted h, List.getLast?_append,
    Option.or_assoc, Option.map_or]

end

/-- a phase that starts is one of the plan -/
theorem Plan.exists_of_phaseStart? {p : Plan} {k i : Nat} {start date : Instant}
    (h : p.phaseStart? k start i = some date) : ∃ phase, p.phases[k + i]? = some phase := by
  cases i with
  | zero =>
    obtain ⟨phase, here, _⟩ := Option.map_eq_some_iff.1 h
    exact ⟨phase, here⟩
  | succ i =>
    obtain ⟨_, _, h⟩ := Option.bind_eq_some_iff.1 h
    obtain ⟨_, _, h⟩ := Option.bind_eq_some_iff.1 h
    obtain ⟨_, _, h⟩ := Option.bind_eq_some_iff.1 h
    obtain ⟨phase, here, _⟩ := Option.map_eq_some_iff.1 h
    exact ⟨phase, here⟩

theorem Plan.schedule_dates (p : Plan) (k : Nat) (start : Instant) (i : Nat) :
    ((phaseSchedule start (p.phases.drop k))[i]?).map (·.2) = p.phaseStart? k start i := by
  rw [schedule_getElem?]
  cases starts : p.phaseStart? k start i with
  | none =>
    cases p.phases[k + i]? with
    | none => rfl
    | some phase => rfl
  | some date =>
    obtain ⟨phase, here⟩ := exists_of_phaseStart? starts
    rw [here]
    rfl

theorem phaseSchedule_length (start : Instant) (phases : List PlanPhase) :
    (phaseSchedule start phases).length ≤ phases.length := by
  induction phases generalizing start with
  | nil => exact Nat.le_refl _
  | cons phase rest ih =>
    rw [phaseSchedule_cons, List.length_cons, List.length_cons]
    cases phase.duration.addTo? start with
    | none => exact Nat.succ_le_succ (Nat.zero_le _)
    | some next => exact Nat.succ_le_succ (ih next)

/-- the entries that satisfy a test, told by their places; no place from `n` on is taken -/
theorem filter_eq_places {α : Type} (l : List α) (test : α → Bool) {n : Nat} (h : l.length ≤ n) :
    (l.filter test).map some =
      ((List.range n).filter fun i => l[i]?.any test).map fun i => l[i]? := by
  induction l generalizing n with
  | nil =>
    have none_taken : (List.range n).filter (fun i => ([] : List α)[i]?.any test) = [] := by
      rw [List.filter_eq_nil_iff]
      intro i _
      rw [List.getElem?_nil]
      exact Bool.false_ne_true
    rw [none_taken]
    rfl
  | cons a l ih =>
    cases n with
    | zero => cases h
    | succ n =>
      have ih := ih (Nat.le_of_succ_le_succ h)
      have shifted : ((List.range n).map Nat.succ).filter (fun i => (a :: l)[i]?.any test) =
          ((List.range n).filter fun i => l[i]?.any test).map Nat.succ := List.filter_map
      have rest : ((((List.range n).filter fun i => l[i]?.any test).map Nat.succ).map
          fun i => (a :: l)[i]?) = (l.filter test).map some := by
        rw [ih, List.map_map]
        rfl
      rw [List.range_succ_eq_map, List.filter_cons, List.filter_cons, shifted,
        List.getElem?_cons_zero, Option.any_some]
      by_cases taken : test a = true
      · rw [if_pos taken, if_pos taken, List.map_cons, List.map_cons, rest]
        rfl
      · rw [if_neg taken, if_neg taken, rest]

theorem Plan.phaseAt?_schedule (p : Plan) (k : Nat) (start date : Instant) :
    phaseAt? (phaseSchedule start (p.phases.drop k)) date = p.phaseInForce? k start date := by
  have starts : ∀ i, ((phaseSchedule start (p.phases.drop k))[i]?).any (fun q => decide (q.2 ≤ date))
      = (p.phaseStart? k start i).any (· ≤ date) := by
    intro i
    rw [← schedule_dates, Option.any_map]
  have types : ∀ i, (p.phaseStart? k start i).isSome = true →
      ((phaseSchedule start (p.phases.drop k))[i]?).map (·.1) =
        p.phases[k + i]?.map (·.phaseType) := by
    intro i begun
    obtain ⟨date, starts⟩ := Option.isSome_iff_exists.1 begun
    rw [schedule_getElem?, starts]
    cases p.phases[k + i]? with
    | none => rfl
    | some phase => rfl
  have short : (phaseSchedule start (p.phases.drop k)).length ≤ p.phases.length := by
    have := phaseSchedule_length start (p.phases.drop k)
    rw [List.length_drop] at this
    omega
  have last := congrArg List.getLast?
    (filter_eq_places (phaseSchedule start (p.phases.drop k)) (fun q => decide (q.2 ≤ date)) short)
  simp only [starts, List.getLast?_map] at last
  rw [phaseAt?_eq (phaseSchedule_sorted start _)]
  unfold phaseInForce?
  cases begun : p.lastBegun? k start date with
  | none =>
    unfold lastBegun? at begun
    rw [begun] at last
    rw [Option.map_eq_none_iff.1 last, Option.none_or, List.head?_eq_getElem?, schedule_getElem?,
      Option.getD_none]
    unfold phaseStart?
    rw [Nat.add_zero]
    cases p.phases[k]? with
    | none => rfl
    | some phase => rfl
  | some i =>
    unfold lastBegun? at begun
    rw [begun] at last
    obtain ⟨q, found, entry⟩ := Option.map_eq_some_iff.1 last
    have started := (List.mem_filter.1 (List.mem_of_getLast? begun)).2
    obtain ⟨date, starts, _⟩ := (Option.any_eq_true _ _).1 started
    rw [found, Option.some_or, entry]
    exact types i (by rw [starts]; rfl)

/-! ## events of phases -/

theorem phaseEvents_getElem? (id : Uuid) (plan : String) (processed : Instant) (sequence : UInt32)
    (later : List (PhaseType × Instant)) (i : Nat) :
    (phaseEvents id plan processed sequence later)[i]? = later[i]?.map fun q =>
      ⟨id, sequence + UInt32.ofNat i, q.2, processed, .phase plan q.1⟩ := by
  induction later generalizing sequence i with
  | nil => rfl
  | cons q later ih =>
    cases i with
    | zero =>
      have first : sequence + UInt32.ofNat 0 = sequence := UInt32.add_zero sequence
      rw [List.getElem?_cons_zero, Option.map_some, first]
      rfl
    | succ i =>
      have next : sequence + 1 + UInt32.ofNat i = sequence + UInt32.ofNat (i + 1) := by
        rw [UInt32.ofNat_add, UInt32.add_comm (UInt32.ofNat i), UInt32.add_assoc]
        rfl
      rw [← next]
      exact ih (sequence + 1) i

@[simp] theorem phaseEvents_length (id : Uuid) (plan : String) (processed : Instant)
    (sequence : UInt32) (later : List (PhaseType × Instant)) :
    (phaseEvents id plan processed sequence later).length = later.length := by
  induction later generalizing sequence with
  | nil => rfl
  | cons q later ih => exact congrArg Nat.succ (ih _)

/-- the events of phases set one phase after another -/
theorem standingAt_phaseEvents {id : Uuid} {plan : String} {processed : Instant} {s : Standing}
    (on : s.plan? = some plan) (sequence : UInt32) (later : List (PhaseType × Instant))
    (now : Instant) (current : Standing) :
    standingAt now current (transitions s (phaseEvents id plan processed sequence later)) =
      match (later.filter fun q => decide (q.2 ≤ now)).getLast? with
      | none => current
      | some q => { s with phase? := some q.1 } := by
  induction later generalizing s sequence current with
  | nil => rfl
  | cons q later ih =>
    have step : s.after? (.phase plan q.1) = some { s with phase? := some q.1 } :=
      Standing.after?_phase_eq_some.2 ⟨on, rfl⟩
    show standingAt now current (transitions s (⟨id, sequence, q.2, processed, .phase plan q.1⟩ ::
      phaseEvents id plan processed (sequence + 1) later)) = _
    rw [transitions_cons_some step (by simp)]
    show standingAt now (if q.2 ≤ now then { s with phase? := some q.1 } else current) _ = _
    rw [ih (s := { s with phase? := some q.1 }) on]
    by_cases due : q.2 ≤ now
    · rw [if_pos due, List.filter_cons_of_pos (by simpa using due), List.getLast?_cons]
      cases (later.filter fun q => decide (q.2 ≤ now)).getLast? with
      | none => rfl
      | some last => rfl
    · rw [if_neg due, List.filter_cons_of_neg (by simpa using due)]

/-- so many numbers on, as long as the numbers last -/
theorem toNat_add_ofNat {sequence : UInt32} {i : Nat} (fits : sequence.toNat + i < 2 ^ 32) :
    (sequence + UInt32.ofNat i).toNat = sequence.toNat + i := by
  rw [UInt32.toNat_add, UInt32.toNat_ofNat']
  omega

theorem mem_phaseEvents {id : Uuid} {plan : String} {processed : Instant} {sequence : UInt32}
    {later : List (PhaseType × Instant)} {e : TransitionEvent} :
    e ∈ phaseEvents id plan processed sequence later ↔ ∃ i q, later[i]? = some q ∧
      e = ⟨id, sequence + UInt32.ofNat i, q.2, processed, .phase plan q.1⟩ := by
  rw [List.mem_iff_getElem?]
  simp only [phaseEvents_getElem?, Option.map_eq_some_iff]
  exact exists_congr fun i => exists_congr fun q => and_congr_right fun _ => eq_comm

theorem lt_of_mem_upcoming {id : Uuid} {plan : String} {processed : Instant} {sequence : UInt32}
    {schedule : List (PhaseType × Instant)} {date : Instant} {e : TransitionEvent}
    (h : e ∈ phaseEvents id plan processed sequence (upcoming schedule date)) :
    date < e.effectiveDate := by
  obtain ⟨i, q, entry, rfl⟩ := mem_phaseEvents.1 h
  exact of_decide_eq_true (List.mem_filter.1 (List.mem_of_getElem? entry)).2

theorem phaseEvents_sorted {later : List (PhaseType × Instant)}
    (sorted : later.Pairwise fun a b => a.2 ≤ b.2) {sequence : UInt32}
    (fits : sequence.toNat + later.length ≤ 2 ^ 32) (id : Uuid) (plan : String)
    (processed : Instant) :
    (phaseEvents id plan processed sequence later).Pairwise
      (TransitionEvent.precedes · · = true) := by
  induction later generalizing sequence with
  | nil => exact .nil
  | cons q later ih =>
    obtain ⟨after, sorted⟩ := List.pairwise_cons.1 sorted
    rw [List.length_cons] at fits
    refine List.pairwise_cons.2 ⟨?_, ?_⟩
    · intro e he
      have inside : e ∈ phaseEvents id plan processed sequence (q :: later) :=
        List.mem_cons_of_mem _ he
      obtain ⟨i, other, entry, rfl⟩ := mem_phaseEvents.1 inside
      have no_earlier : q.2 ≤ other.2 := by
        rcases List.mem_cons.1 (List.mem_of_getElem? entry) with rfl | later
        · exact Instant.le_refl _
        · exact after other later
      obtain ⟨short, _⟩ := List.getElem?_eq_some_iff.1 entry
      rw [List.length_cons] at short
      have number : (sequence + UInt32.ofNat i).toNat = sequence.toNat + i :=
        toNat_add_ofNat (by omega)
      rw [Instant.le_def] at no_earlier
      rw [TransitionEvent.precedes_iff]
      show q.2.place < other.2.place ∨ q.2.place = other.2.place ∧
        sequence.toNat ≤ (sequence + UInt32.ofNat i).toNat
      omega
    · cases later with
      | nil => exact .nil
      | cons other later =>
        have next : (sequence + 1).toNat = sequence.toNat + 1 := by
          rw [List.length_cons] at fits
          exact toNat_add_ofNat (i := 1) (by omega)
        exact ih sorted (by omega)

/-! ## splitting a schedule -/

theorem Plan.lt_of_phaseIndex? {p : Plan} {phase : Option PhaseType} {k : Nat}
    (h : p.phaseIndex? phase = some k) : k < p.phases.length := by
  unfold phaseIndex? at h
  cases phase with
  | some t => exact (List.findIdx?_eq_some_iff_getElem.1 h).1
  | none =>
    cases given : p.phases with
    | nil =>
      rw [given] at h
      cases h
    | cons first rest =>
      rw [given] at h
      cases h
      exact Nat.succ_pos _

/-- from a phase of the plan on, there is always one in force -/
theorem Plan.exists_phaseInForce? {p : Plan} {k : Nat} (h : k < p.phases.length)
    (start date : Instant) : ∃ phase, p.phaseInForce? k start date = some phase := by
  rw [← phaseAt?_schedule, List.drop_eq_getElem_cons h, phaseSchedule_cons]
  unfold phaseAt?
  rw [List.head?_cons, Option.or_some]
  exact ⟨_, rfl⟩

theorem Plan.splitSchedule_none {p : Plan} {phase : Option PhaseType}
    (h : p.phaseIndex? phase = none) (start date : Instant) :
    p.splitSchedule phase start date = .error (.catalog (.noInitialPhase p.name)) := by
  unfold splitSchedule scheduleFrom?
  rw [h]
  rfl

theorem Plan.splitSchedule_some {p : Plan} {phase : Option PhaseType} {k : Nat}
    (h : p.phaseIndex? phase = some k) (start date : Instant) :
    ∃ current, p.phaseInForce? k start date = some current ∧
      p.splitSchedule phase start date =
        .ok (current, upcoming (phaseSchedule start (p.phases.drop k)) date) := by
  obtain ⟨current, force⟩ := exists_phaseInForce? (lt_of_phaseIndex? h) start date
  refine ⟨current, force, ?_⟩
  rw [← phaseAt?_schedule] at force
  unfold splitSchedule scheduleFrom?
  rw [h, Option.map_some]
  simp only [force]

theorem upcoming_sorted (p : Plan) (k : Nat) (start date : Instant) :
    (upcoming (phaseSchedule start (p.phases.drop k)) date).Pairwise fun a b => a.2 ≤ b.2 :=
  (phaseSchedule_sorted start _).sublist List.filter_sublist

/-- in force on a date, a plan keeps its own phases through the events of those to come -/
theorem standingAt_upcoming (p : Plan) (k : Nat) (start : Instant) {date now : Instant}
    (h : date ≤ now) {s : Standing} (on : s.plan? = some p.name)
    (phased : s.phase? = p.phaseInForce? k start date) (id : Uuid) (processed : Instant)
    (sequence : UInt32) :
    standingAt now s (transitions s (phaseEvents id p.name processed sequence
        (upcoming (phaseSchedule start (p.phases.drop k)) date))) =
      { s with phase? := p.phaseInForce? k start now } := by
  rw [standingAt_phaseEvents on, ← Plan.phaseAt?_schedule,
    phaseAt?_later (phaseSchedule_sorted start _) h]
  cases ((upcoming (phaseSchedule start (p.phases.drop k)) date).filter
      fun q => decide (q.2 ≤ now)).getLast? with
  | none =>
    rw [Option.map_none, Option.none_or, Plan.phaseAt?_schedule, ← phased]
  | some q => rfl

/-! ## new subscriptions -/

namespace NewSubscription
variable {c : Catalog} {n : NewSubscription} {r : SubscriptionRecord}

/-- the events of a new record are written in timeline order -/
theorem record_timeline (h : n.record c = .ok r) (fits : r.events.length < 2 ^ 32) :
    timeline r.events = r.events := by
  obtain ⟨current, later, split, rfl⟩ := record_eq_ok h
  rw [List.length_cons, phaseEvents_length] at fits
  have room : (1 : UInt32).toNat + later.length ≤ 2 ^ 32 := by
    show 1 + later.length ≤ 2 ^ 32
    omega
  cases index : n.plan.phaseIndex? n.initialPhase with
  | none =>
    rw [Plan.splitSchedule_none index] at split
    cases split
  | some k =>
    obtain ⟨_, _, whole⟩ := Plan.splitSchedule_some index (n.alignedOn c.planAlignment)
      n.effectiveDate
    rw [whole] at split
    cases split
    refine stableSort_eq_self (List.pairwise_cons.2 ⟨?_, ?_⟩)
    · intro e he
      rw [TransitionEvent.precedes_iff]
      exact .inl (lt_of_mem_upcoming he)
    · exact phaseEvents_sorted (upcoming_sorted n.plan k _ _) room _ _ _

theorem record_in_phase (c : Catalog) (n : NewSubscription) :
    match n.plan.phaseIndex? n.initialPhase with
    | none => n.record c = .error (.catalog (.noInitialPhase n.plan.name))
    | some k => ∃ r, n.record c = .ok r ∧ (r.events.length < 2 ^ 32 → ∀ t,
        (t < n.effectiveDate → (Subscription.rebuild r [] t).state = .pending ∧
          (Subscription.rebuild r [] t).current.plan? = none) ∧
        (n.effectiveDate ≤ t → (Subscription.rebuild r [] t).current =
          { state? := some .active
            plan? := some n.plan.name
            phase? := n.plan.phaseInForce? k (n.alignedOn c.planAlignment) t
            priceList? := some n.plan.priceListName
            billCycleDay? := none })) := by
  cases index : n.plan.phaseIndex? n.initialPhase with
  | none =>
    unfold record creationEvents
    rw [Plan.splitSchedule_none index]
    rfl
  | some k =>
    obtain ⟨current, force, split⟩ := Plan.splitSchedule_some index (n.alignedOn c.planAlignment)
      n.effectiveDate
    obtain ⟨r, made⟩ : ∃ r, n.record c = .ok r := by
      unfold record creationEvents
      rw [split]
      exact ⟨_, rfl⟩
    refine ⟨r, made, ?_⟩
    intro fits t
    have order := record_timeline made fits
    have now : (Subscription.rebuild r [] t).current =
        standingAt t .initial (transitions .initial r.events) := by
      show standingAt t .initial (transitions .initial (timeline (r.events ++ _))) = _
      rw [List.filter_nil, List.append_nil, order]
    obtain ⟨_, _, same, rfl⟩ := record_eq_ok made
    rw [split] at same
    cases same
    refine ⟨?_, ?_⟩
    · intro early
      rw [Subscription.state, now, standingAt_of_later ?_ .initial]
      · exact ⟨rfl, rfl⟩
      · -- the creation comes first, and every phase to come is later still
        intro e he
        rcases List.mem_cons.1 he with rfl | he
        · exact early
        · have after := lt_of_mem_upcoming he
          rw [Instant.lt_def] at *
          omega
    · intro due
      rw [now, transitions_cons_some rfl (by simp)]
      show standingAt t (if n.effectiveDate ≤ t then _ else Standing.initial) _ = _
      rw [if_pos due]
      exact standingAt_upcoming n.plan k _ due rfl force.symm _ _ _

end NewSubscription

/-- a pistol that is tried and then sold at a discount for a month each -/
def Shop.tried : Plan :=
  { pistol with
    name := "pistol-trial"
    phases := [⟨.trial, .days 30⟩, ⟨.discount, .days 30⟩, ⟨.evergreen, .unlimited⟩] }

/-- taken on the tenth day of a bundle -/
def Shop.takenLate : NewSubscription where
  id := .ofNat 2000
  bundleId := .ofNat 1000
  bundleExternalKey := none
  plan := tried
  initialPhase := none
  bundleStartDate := midnight 20000
  alignStartDate := midnight 20010
  effectiveDate := midnight 20010
  processedDate := midnight 20010
  migrated := false

theorem record_in_phase_takenLate :
    ∃ r, Shop.takenLate.record Shop.catalog = .ok r ∧ r.events.length < 2 ^ 32 ∧
      (Subscription.rebuild r [] (Shop.midnight 20009)).state = .pending ∧
      (Subscription.rebuild r [] (Shop.midnight 20059)).current.phase? = some .discount := by
  obtain ⟨r, made, phased⟩ := NewSubscription.record_in_phase Shop.catalog Shop.takenLate
  have few : (Shop.takenLate.record Shop.catalog).toOption.map (·.events.length) = some 3 := by
    decide +kernel
  rw [made] at few
  have fits : r.events.length < 2 ^ 32 := by
    have : r.events.length = 3 := Option.some.inj few
    omega
  refine ⟨r, made, fits, ((phased fits (Shop.midnight 20009)).1 (by decide +kernel)).1, ?_⟩
  rw [(phased fits (Shop.midnight 20059)).2 (by decide +kernel)]
  decide +kernel

end SubscriptionBundles
