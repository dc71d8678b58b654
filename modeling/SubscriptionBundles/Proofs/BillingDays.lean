import SubscriptionBundles.Proofs.AnsweredCancellations
import SubscriptionBundles.Proofs.BillingDates

/-!
# Billing days

The billing day of a stored subscription is a day that months have: callers can give no other, and
without one it is the day of a date.  On such a day a term has begun by every date but those in the
first month of the calendar.

* `EventKind.Bills`               what gives no other billing day;
* `ownBillCycleDay_isBillingDay`  a subscription of such events brings along a billing day;
* `Service.turn_bills`            no turn adds an event of another kind;
* `Service.run_bills`             so no run does;
* `exists_ownEnd`                 and who can be ended beside another can be ended alone.
-/

namespace SubscriptionBundles

open Service (Turn)

/-! ## timelines -/

def EventKind.Bills (k : EventKind) : Prop := ∀ day, k = .billCycleDayChange day → IsBillingDay day

def Standing.Billed (s : Standing) : Prop := ∀ day, s.billCycleDay? = some day → IsBillingDay day

theorem Standing.Billed.after? {s next : Standing} {k : EventKind} (h : s.Billed) (bills : k.Bills)
    (step : s.after? k = some next) : next.Billed := by
  cases k with
  | create _ _ _ | change _ _ _ | cancel =>
    cases step
    exact h
  | phase plan phase =>
    obtain ⟨_, rfl⟩ := Standing.after?_phase_eq_some.1 step
    exact h
  | billCycleDayChange day =>
    cases step
    intro other same
    cases same
    exact bills day rfl

theorem ownBillCycleDay_isBillingDay {r : SubscriptionRecord} (bills : ∀ e ∈ r.events, e.kind.Bills)
    (ctx : Context) (now : Instant) : IsBillingDay (ownBillCycleDay ctx (.rebuild r [] now)) := by
  have start : Standing.initial.Billed := nofun
  have all : ∀ t ∈ (Subscription.rebuild r [] now).transitions, t.next.Billed := by
    refine transitions_forall start ?_
    intro e he _ _ billed
    refine billed.after? (bills e ?_)
    rw [mem_timeline, List.filter_nil, List.append_nil] at he
    exact he
  have current : (Subscription.rebuild r [] now).current.Billed := standingAt_forall start all now
  unfold ownBillCycleDay
  cases given : (Subscription.rebuild r [] now).current.billCycleDay? with
  | none => exact isBillingDay_ofDate _
  | some day => exact current day given

/-! ## every run -/

/-- every billing day that is stored is a day that some month has -/
def Store.Bills (s : Store) : Prop := ∀ r ∈ s.records, ∀ e ∈ r.events, e.kind.Bills

theorem Store.Bills.append {s : Store} (h : s.Bills) {events : List TransitionEvent}
    (bills : ∀ e ∈ events, e.kind.Bills) : (s.append events).Bills := by
  intro r' hr' e he
  obtain ⟨r, hr, rfl⟩ := List.mem_map.1 hr'
  rcases List.mem_append.1 he with old | new
  · exact h r hr e old
  · exact bills e (List.mem_filter.1 new).1

theorem NewSubscription.record_bills {c : Catalog} {n : NewSubscription} {r : SubscriptionRecord}
    (h : n.record c = .ok r) : ∀ e ∈ r.events, e.kind.Bills := by
  obtain ⟨current, later, _, rfl⟩ := record_eq_ok h
  intro e he
  rcases List.mem_cons.1 he with rfl | he
  · exact nofun
  · obtain ⟨_, phase, kind⟩ := phaseEvents_fit e he
    rw [kind]
    exact nofun

namespace Service
variable {s : Service} {c : Catalog} {max : Nat} {t : Turn}

theorem turn_bills (h : s.Serves c max) (sound : s.store.Sound) (fresh : s.store.Fresh t.drawn)
    (bills : s.store.Bills) : (s.turn t).2.store.Bills := by
  have step := (handle_step h sound t fresh).1
  change Step s c t (s.turn t).1 (s.turn t).2.store at step
  generalize answer : (s.turn t).1 = a at step
  generalize left : (s.turn t).2.store = store at step
  cases step with
  | refused | read | rekeyed => exact bills
  | bundleCreated =>
    intro r hr
    rcases List.mem_append.1 hr with hr | hr
    · exact bills r hr
    · cases hr
  | charged =>
    intro r' hr'
    obtain ⟨r, hr, rfl⟩ := List.mem_map.1 hr'
    dsimp only
    split <;> exact bills r hr
  | created request planned takes =>
    intro r hr
    rcases List.mem_append.1 hr with hr | hr
    · exact bills r hr
    · obtain ⟨b, hb, hr⟩ := List.mem_flatMap.1 hr
      obtain ⟨_, _, _, _, here⟩ := planned.of_mem b hb
      obtain ⟨_, _, _, _, made⟩ := BatchChecks.plannedRecords_of_mem here.records r hr
      exact NewSubscription.record_bills made
  | continued _ request =>
    obtain ⟨ctx, draws, _⟩ := t
    rcases request with ⟨ids, terms, rfl⟩ | ⟨id, day, start, rfl⟩
    · obtain ⟨w, swept, ends⟩ := cancel_of_ok h sound answer
      have reflects := (Sweep.Reflects.start s.store ctx c terms).sweep h.inOrder sound swept
      rw [left.symm.trans ends]
      refine bills.append ?_
      intro e he
      obtain ⟨_, _, _, _, _, rfl⟩ := (reflects.events e).1 he
      exact nofun
    · obtain ⟨_, _, _, ends⟩ := updateBillCycleDay_of_ok h sound answer
      obtain ⟨_, decided⟩ := exists_decision answer
      obtain ⟨_, _, decided⟩ := bind_eq_ok.1 decided
      obtain ⟨_, found, _⟩ := bind_eq_ok.1 decided
      rw [left.symm.trans ends]
      refine bills.append ?_
      intro e he
      rw [List.mem_singleton] at he
      rw [he]
      intro other same
      cases same
      exact isBillingDay_of_next found

variable (c max) (cached : Bool) {turns : List Turn}

theorem run_bills (distinct : DistinctIds turns) :
    ((new c max cached).after turns).store.Bills := by
  refine after_induction (P := fun _ s => s.store.Bills) ?_ ?_
  · intro r hr
    cases hr
  · intro earlier t part bills
    obtain ⟨serves, sound, fresh⟩ := reached c max cached distinct part
    exact turn_bills serves sound fresh bills

end Service

/-! ## ends -/

section
variable {s : Store} {c : Catalog} {ctx : Context} {terms : CancelTerms} {b r : SubscriptionRecord}
  (bills : s.Bills) (hr : r ∈ s.records)
include bills hr

/-- only a day that the account is billed on can be none, and that is shared -/
theorem first_billedOn (b : SubscriptionRecord) (first : 1 ≤ (s.billedOn ctx c terms b).toNat) :
    1 ≤ (s.billedOn ctx c terms r).toNat := by
  have own {q : SubscriptionRecord} (hq : q ∈ s.records) :=
    (ownBillCycleDay_isBillingDay (bills q hq) ctx ctx.now).1
  unfold Store.billedOn billCycleDayUnder at *
  cases aligned : c.billingAlignment with
  | account =>
    cases given : terms.accountDay with
    | none => exact own hr
    | some day =>
      rw [aligned, given] at first
      exact first
  | bundle =>
    dsimp only
    rw [Snapshot.base?_take]
    cases base : s.baseRecord? r.bundleId with
    | none => exact own hr
    | some q => exact own (mem_of_baseRecord? base).1
  | subscription => exact own hr

/-- whom terms can end beside another, they can end alone -/
theorem exists_ownEnd (on : s.OnPlans c) (hb : b ∈ s.records)
    (inside : terms.policy = .startOfTerm →
      (ctx.localDate (presentFor ctx (.rebuild r [] ctx.now))).hasMonthBefore = true)
    (ends : ∃ date, s.ownEnd ctx c terms b = .ok date) :
    ∃ date, s.ownEnd ctx c terms r = .ok date := by
  cases policy : terms.policy with
  | immediate => exact ownEnd_of_plain on hr ctx (.inl policy)
  | endOfTerm => exact ownEnd_of_plain on hr ctx (.inr policy)
  | illegal => exact absurd ends (ownEnd_of_illegal on hb ctx policy)
  | startOfTerm =>
    obtain ⟨d, begun⟩ := (ownEnd_of_startOfTerm on hb ctx policy).1 ends
    have first := first_billedOn bills hr b (day_of_termStart? begun)
    exact (ownEnd_of_startOfTerm on hr ctx policy).2 (exists_termStart? first (inside policy))

end

end SubscriptionBundles
