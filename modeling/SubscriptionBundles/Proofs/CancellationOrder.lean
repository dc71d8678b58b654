import SubscriptionBundles.Proofs.BillingDays

/-!
# The order of a cancellation

The first listed id that reaches a subscription decides when it ends.  Most are reached by one id
only; an add-on that is listed beside its base is reached by both, and ends with the base or by terms
of its own, whichever comes first in the list.

* `Store.ReachedAlike`                 the same id reaches a subscription first in two lists;
* `Store.alike_or_twice`               who is not is an add-on that two listed ids reach;
* `Sweep.Reflects.endDate_append_iff`  a sweep leaves the ends that it reflects;
* `Sweep.Reflects.endDate_eq_iff`      when two sweeps leave the same end;
* `Service.cancel_answered_of_perm`    whether a call is answered;
* `Service.cancel_order`               what a call comes to under any order of its list.
-/

namespace SubscriptionBundles

open Service (Turn)

/-! ## who is reached alike -/

/-- of both lists, the same id reaches the subscription first -/
def Store.ReachedAlike (s : Store) (ids ids' : List Uuid) (r : SubscriptionRecord) : Prop :=
  ids.find? (s.reaches r) = ids'.find? (s.reaches r)

/-- a listed base takes it along, and some other listed id reaches it as well -/
def Store.ReachedTwice (s : Store) (ids : List Uuid) (r : SubscriptionRecord) : Prop :=
  ∃ b ∈ s.records, b.id ∈ ids ∧ b.takesAlong r = true ∧
    ∃ id ∈ ids, id ≠ b.id ∧ s.reaches r id = true

section
variable {s : Store} {ids ids' : List Uuid} {r : SubscriptionRecord}

theorem Store.reachedTwice_of {id id' : Uuid} (listed : id ∈ ids) (listed' : id' ∈ ids)
    (reaches : s.reaches r id = true) (reaches' : s.reaches r id' = true) (other : id ≠ id') :
    s.ReachedTwice ids r := by
  rcases reaches_iff.1 reaches with rfl | ⟨b, hb, rfl, takes⟩
  · rcases reaches_iff.1 reaches' with rfl | ⟨b, hb, rfl, takes⟩
    · exact absurd rfl other
    · exact ⟨b, hb, listed', takes, r.id, listed, other, reaches⟩
  · exact ⟨b, hb, listed, takes, id', listed', other.symm, reaches'⟩

theorem Store.alike_or_twice (perm : ids.Perm ids') (r : SubscriptionRecord) :
    s.ReachedAlike ids ids' r ∨ s.ReachedTwice ids r := by
  unfold ReachedAlike
  cases first : ids.find? (s.reaches r) with
  | none =>
    refine .inl (Eq.symm (List.find?_eq_none.2 ?_))
    intro id listed
    exact List.find?_eq_none.1 first id (perm.mem_iff.2 listed)
  | some id =>
    have listed := List.mem_of_find?_eq_some first
    have reaches := List.find?_some first
    cases first' : ids'.find? (s.reaches r) with
    | none => exact absurd reaches (List.find?_eq_none.1 first' id (perm.mem_iff.1 listed))
    | some id' =>
      by_cases same : id = id'
      · exact .inl (congrArg some same)
      · exact .inr (reachedTwice_of listed (perm.mem_iff.2 (List.mem_of_find?_eq_some first')) reaches
          (List.find?_some first') same)

end

/-! ## the ends that a sweep leaves -/

theorem SubscriptionRecord.exists_cancel {r : SubscriptionRecord} {now date : Instant}
    (ended : (Subscription.rebuild r [] now).endDate = some date) :
    ∃ e ∈ r.events, e.kind = .cancel ∧ e.effectiveDate = date := by
  rw [Subscription.endDate_rebuild, Option.map_eq_some_iff] at ended
  obtain ⟨e, first, rfl⟩ := ended
  exact ⟨e, mem_events_rebuild.1 (List.mem_of_find?_eq_some first),
    by simpa using List.find?_some first, rfl⟩

/-- the end date of a stored subscription -/
def Store.endDate? (s : Store) (id : Uuid) (now : Instant) : Option Instant :=
  (s.record? id).bind fun r => (Subscription.rebuild r [] now).endDate

section
variable {s : Store} {ctx : Context} {c : Catalog} {terms : CancelTerms} {w : Sweep} {ids : List Uuid}
  {r : SubscriptionRecord} (sound : s.Sound) (hr : r ∈ s.records) (h : w.Reflects s ctx c terms ids)
include sound hr

theorem Store.endDate?_append (events : List TransitionEvent) (now : Instant) :
    (s.append events).endDate? r.id now =
      (Subscription.rebuild (r.withEvents events) [] now).endDate := by
  have stored : r.withEvents events ∈ (s.append events).records := List.mem_map_of_mem hr
  have found : (s.append events).record? r.id = some (r.withEvents events) :=
    (sound.append events).record?_eq stored
  unfold endDate?
  rw [found, Option.bind_some]

include h

/-- who had an end keeps it -/
theorem Sweep.Reflects.endDate_append_of_ended (ended : r.neverEnds = false) (now : Instant) :
    (s.append w.events).endDate? r.id now = (Subscription.rebuild r [] now).endDate := by
  have none : r.withEvents w.events = r := by
    refine withEvents_of_other ?_
    intro e he own
    have lasting := (h.of_own sound hr he own).1
    rw [ended] at lasting
    cases lasting
  rw [Store.endDate?_append sound hr, none]

/-- who had none has the end that the list gives it, if any -/
theorem Sweep.Reflects.endDate_append_iff (lasting : r.neverEnds = true)
    (now date : Instant) : (s.append w.events).endDate? r.id now = some date ↔
      s.Ends ctx c terms ids r date := by
  rw [Store.endDate?_append sound hr]
  have left (d : Instant) (ended : (Subscription.rebuild (r.withEvents w.events) [] now).endDate =
      some d) : s.Ends ctx c terms ids r d := by
    obtain ⟨e, he, cancel, rfl⟩ := SubscriptionRecord.exists_cancel ended
    rcases List.mem_append.1 he with old | new
    · have kept := List.all_eq_true.1 lasting e old
      rw [cancel] at kept
      cases kept
    · obtain ⟨he, own⟩ := List.mem_filter.1 new
      obtain ⟨_, date, ends, rfl⟩ := h.of_own sound hr he (eq_of_beq own)
      exact ends
  refine ⟨left date, ?_⟩
  intro ends
  have mem := (h.events _).2 ⟨r, hr, lasting, date, ends, rfl⟩
  have within : (Subscription.rebuild r [] ctx.now).cancelEvent date ctx.now ∈
      (r.withEvents w.events).events :=
    List.mem_append_right _ (List.mem_filter.2 ⟨mem, beq_self_eq_true r.id⟩)
  cases ended : (Subscription.rebuild (r.withEvents w.events) [] now).endDate with
  | none =>
    have never := (r.withEvents w.events).endDate_isNone_eq now
    rw [ended] at never
    cases List.all_eq_true.1 never.symm _ within
  | some d => rw [(left d ended).unique sound hr ends]

/-- two sweeps leave a subscription with one end if it had one, or is reached alike, or both give it
the same -/
theorem Sweep.Reflects.endDate_eq_iff {w' : Sweep} {ids' : List Uuid}
    (h' : w'.Reflects s ctx c terms ids') (now : Instant) :
    (s.append w.events).endDate? r.id now = (s.append w'.events).endDate? r.id now ↔
      (r.neverEnds = true → s.ReachedAlike ids ids' r ∨
        ∃ date, s.Ends ctx c terms ids r date ∧ s.Ends ctx c terms ids' r date) := by
  cases lasting : r.neverEnds with
  | false =>
    rw [h.endDate_append_of_ended sound hr lasting, h'.endDate_append_of_ended sound hr lasting]
    exact iff_of_true rfl nofun
  | true =>
    have iff := h.endDate_append_iff sound hr lasting now
    have iff' := h'.endDate_append_iff sound hr lasting now
    constructor
    · intro same _
      cases ended : (s.append w.events).endDate? r.id now with
      | some date => exact .inr ⟨date, (iff date).1 ended, (iff' date).1 (same.symm.trans ended)⟩
      | none =>
        -- without an end it is reached by no id
        have unreached {w : Sweep} {ids : List Uuid} (h : w.Reflects s ctx c terms ids)
            (none : (s.append w.events).endDate? r.id now = none) :
            ids.find? (s.reaches r) = Option.none := by
          by_contra first
          obtain ⟨date, ends⟩ := h.dated r hr lasting first
          rw [(h.endDate_append_iff sound hr lasting now date).2 ends] at none
          cases none
        exact .inl ((unreached h ended).trans (unreached h' (same.symm.trans ended)).symm)
    · intro given
      rcases given rfl with alike | ⟨date, ends, ends'⟩
      · refine Option.ext fun date => ?_
        rw [iff date, iff' date]
        exact ⟨fun ends => ends.congr alike.symm, fun ends => ends.congr alike⟩
      · rw [(iff date).2 ends, (iff' date).2 ends']

end

/-! ## a call -/

namespace Service
variable {s : Service} {c : Catalog} {max : Nat} {ctx : Context} {ids ids' : List Uuid}
  {terms : CancelTerms}

/-- who is reached otherwise than in an answered call has a date by its own terms, as the base has
that takes it along -/
theorem cancel_answered_of_perm (h : s.Serves c max) (sound : s.store.Sound) (on : s.store.OnPlans c)
    (bills : s.store.Bills) (perm : ids.Perm ids') (stored : ∀ id ∈ ids, id ∈ s.store.recordIds)
    (inside : terms.policy = .startOfTerm → ∀ r ∈ s.store.records,
      s.store.ReachedAlike ids ids' r ∨
        (ctx.localDate (presentFor ctx (.rebuild r [] ctx.now))).hasMonthBefore = true)
    (answered : ∃ shown, (s.cancel ctx ids terms).1 = .ok shown) :
    ∃ shown, (s.cancel ctx ids' terms).1 = .ok shown := by
  have ended := (cancel_answered_iff h sound stored).1 answered
  refine (cancel_answered_iff h sound fun id hid => stored id (perm.mem_iff.2 hid)).2 ?_
  intro r hr lasting first
  by_cases alike : s.store.ReachedAlike ids ids' r
  · exact ended r hr lasting (alike.trans first)
  · obtain ⟨b, hb, listed, takes, _⟩ := (Store.alike_or_twice perm r).resolve_left alike
    obtain ⟨base, lastingBase, _⟩ := SubscriptionRecord.takesAlong_iff.1 takes
    have endedBase := ended b hb lastingBase (Store.find?_reaches_base base listed)
    exact exists_ownEnd bills hr on hb (fun policy => (inside policy r hr).resolve_left alike)
      endedBase

variable (c max) (cached : Bool) {turns : List Turn}

/-- Under another order of the list a subscription is reached first by the same id, or it is an
add-on that a listed base takes along and another listed id reaches.  Both calls are answered or both
are refused, unless a term of such an add-on would have to begin before the calendar does.  What both
leave ends at the same time, unless it is such an add-on and its two ends differ. -/
theorem cancel_order (distinct : DistinctIds turns) (perm : ids.Perm ids') (ctx : Context)
    (terms : CancelTerms) :
    let s := (new c max cached).after turns
    let o := s.cancel ctx ids terms
    let o' := s.cancel ctx ids' terms
    (∀ id ∈ ids, id ∈ s.store.recordIds) →
      (∀ r, s.store.ReachedAlike ids ids' r ∨ s.store.ReachedTwice ids r) ∧
      ((terms.policy = .startOfTerm → ∀ r ∈ s.store.records, s.store.ReachedAlike ids ids' r ∨
          (ctx.localDate (presentFor ctx (.rebuild r [] ctx.now))).hasMonthBefore = true) →
        ((∃ shown, o.1 = .ok shown) ↔ ∃ shown, o'.1 = .ok shown)) ∧
      ∀ shown shown', o.1 = .ok shown → o'.1 = .ok shown' → ∀ r ∈ s.store.records, ∀ now,
        (o.2.store.endDate? r.id now = o'.2.store.endDate? r.id now ↔
          (r.neverEnds = true → s.store.ReachedAlike ids ids' r ∨
            ∃ date, s.store.Ends ctx c terms ids r date ∧ s.store.Ends ctx c terms ids' r date)) := by
  intro s o o' stored
  obtain ⟨serves, sound, _⟩ := run_sound c max cached distinct
  have on := run_onPlans c max cached distinct
  have bills := run_bills c max cached distinct
  refine ⟨Store.alike_or_twice perm, ?_, ?_⟩
  · intro inside
    have stored' : ∀ id ∈ ids', id ∈ s.store.recordIds :=
      fun id hid => stored id (perm.mem_iff.2 hid)
    have inside' := fun policy r hr => (inside policy r hr).imp_left Eq.symm
    exact ⟨cancel_answered_of_perm serves sound on bills perm stored inside,
      cancel_answered_of_perm serves sound on bills perm.symm stored' inside'⟩
  · intro shown shown' answered answered' r hr now
    obtain ⟨w, reflects, left⟩ := cancel_reflects serves sound answered
    obtain ⟨w', reflects', left'⟩ := cancel_reflects serves sound answered'
    rw [left, left']
    exact reflects.endDate_eq_iff sound hr reflects' now

end Service

/-! ## a pistol with its laser, listed either way -/

namespace Shop

def baseFirst : List Uuid := [.ofNat 1001, .ofNat 1002]

def addOnFirst : List Uuid := [.ofNat 1002, .ofNat 1001]

/-- each subscription is billed on a day of its own -/
def billedApart : Catalog := { catalog with billingAlignment := .subscription }

/-- an hour of 19 January in the first year of the calendar -/
def early (hour : Nat) : Instant :=
  let firstDay := daysBeforeYear Date.firstYear - epochDays
  (Instant.mk (firstDay + 18) (midnight 0).time).addMinutes (60 * hour)

/-- the pistol is billed on the 19th, the laser on the 20th, which has come already further east -/
def earlyPair : List Turn :=
  [⟨.ofNow owner (early 20), fun n => .ofNat (1000 + n), .create [pair] false⟩,
    ⟨⟨owner, early 20, early 20, ⟨18000, by decide⟩⟩, fun _ => .ofNat 0,
      .updateBillCycleDay (.ofNat 1002) 20 none⟩]

end Shop

theorem cancel_order_paidPair :
    let s := (Service.new Shop.catalog 255 true).after Shop.paidPair
    let ctx := Context.ofNow Shop.owner (Shop.midnight 20004)
    let terms := CancelTerms.mk .endOfTerm none
    let o := s.cancel ctx Shop.baseFirst terms
    let o' := s.cancel ctx Shop.addOnFirst terms
    DistinctIds Shop.paidPair ∧ Shop.baseFirst.Perm Shop.addOnFirst ∧
      o.1.isOk = true ∧ o'.1.isOk = true ∧
      ∀ r ∈ s.store.records, ∀ now,
        (o.2.store.endDate? r.id now = o'.2.store.endDate? r.id now ↔
          (r.neverEnds = true → s.store.ReachedAlike Shop.baseFirst Shop.addOnFirst r ∨
            ∃ date, s.store.Ends ctx Shop.catalog terms Shop.baseFirst r date ∧
              s.store.Ends ctx Shop.catalog terms Shop.addOnFirst r date)) := by
  have distinct : DistinctIds Shop.paidPair := by decide
  have perm : Shop.baseFirst.Perm Shop.addOnFirst := .swap _ _ _
  have run : let s := (Service.new Shop.catalog 255 true).after Shop.paidPair
      let ctx := Context.ofNow Shop.owner (Shop.midnight 20004)
      (∀ id ∈ Shop.baseFirst, id ∈ s.store.recordIds) ∧
        (s.cancel ctx Shop.baseFirst ⟨.endOfTerm, none⟩).1.isOk = true ∧
        (s.cancel ctx Shop.addOnFirst ⟨.endOfTerm, none⟩).1.isOk = true := by decide +kernel
  obtain ⟨stored, answered, answered'⟩ := run
  obtain ⟨_, shown⟩ := exists_of_isOk answered
  obtain ⟨_, shown'⟩ := exists_of_isOk answered'
  obtain ⟨_, _, ends⟩ := Service.cancel_order Shop.catalog 255 true distinct perm
    (.ofNow Shop.owner (Shop.midnight 20004)) ⟨.endOfTerm, none⟩ stored
  exact ⟨distinct, perm, answered, answered', ends _ _ shown shown'⟩

/-- listed first, a laser ends by its own terms and not with its pistol, and in the first month of
the calendar it may have no end of its own -/
theorem cancel_order_counts :
    (let s := (Service.new Shop.catalog 255 true).after Shop.paidPair
      let ctx := Context.ofNow Shop.owner (Shop.midnight 20004)
      let o := s.cancel ctx Shop.baseFirst ⟨.endOfTerm, none⟩
      let o' := s.cancel ctx Shop.addOnFirst ⟨.endOfTerm, none⟩
      DistinctIds Shop.paidPair ∧ o.1.isOk = true ∧ o'.1.isOk = true ∧
        o.2.store.endDate? (.ofNat 1002) ctx.now = some (Shop.midnight 20030) ∧
        o'.2.store.endDate? (.ofNat 1002) ctx.now = some (Shop.midnight 20004)) ∧
      let s := (Service.new Shop.billedApart 255 true).after Shop.earlyPair
      let ctx := Context.ofNow Shop.owner (Shop.early 21)
      DistinctIds Shop.earlyPair ∧
        (s.cancel ctx Shop.baseFirst ⟨.startOfTerm, none⟩).1.isOk = true ∧
        (s.cancel ctx Shop.addOnFirst ⟨.startOfTerm, none⟩).1.isOk = false := by
  decide +kernel

end SubscriptionBundles
