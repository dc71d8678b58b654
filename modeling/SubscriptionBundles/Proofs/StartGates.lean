import SubscriptionBundles.Proofs.AnchoredAddOns
import SubscriptionBundles.Proofs.ListedBases

/-!
# When a subscription may start in a bundle

A new base or standalone needs a bundle in which none is active or pending, whichever of them was
created last.  An add-on needs a base, and of several bases the one created last alone decides.

* `latestBy_eq_some_iff`           the latest entry, by what stands before and after it;
* `latestBy_filter_eq_some_iff`    the same among the entries that qualify;
* `Snapshot.anchorFor?_live_iff`   a live anchor is found wherever there is one;
* `Snapshot.base?_take_iff`        the base of a snapshot, by its records;
* `takesAddOn_iff`                 what a base has to be to take an add-on;
* `bundleStartDate_exact`          when a plan may start, and on which date its bundle does.
-/

namespace SubscriptionBundles

/-! ## the latest entry of a list -/

section
variable {α : Type} {key : α → Instant} {l : List α} {a : α}

/-- of entries that tie, the last is the latest -/
theorem latestBy_eq_some_iff : latestBy key l = some a ↔
    ∃ before after, l = before ++ a :: after ∧ (∀ b ∈ before, key b ≤ key a) ∧
      ∀ b ∈ after, key b < key a := by
  constructor
  · intro found
    induction l generalizing a with
    | nil => cases found
    | cons b l ih =>
      unfold latestBy at found
      cases rest : latestBy key l with
      | none =>
        rw [rest] at found
        cases found
        rw [latestBy_eq_none_iff] at rest
        exact ⟨[], [], by rw [rest]; rfl, List.forall_mem_nil _, List.forall_mem_nil _⟩
      | some m =>
        rw [rest] at found
        obtain ⟨before, after, split, earlier, later⟩ := ih rest
        change (if key b ≤ key m then some m else some b) = some a at found
        split at found
        · next below =>
          cases found
          exact ⟨b :: before, after, by rw [split]; rfl, List.forall_mem_cons.2 ⟨below, earlier⟩,
            later⟩
        · next above =>
          cases found
          refine ⟨[], l, rfl, List.forall_mem_nil _, fun x hx => ?_⟩
          -- whatever follows is at most `m`
          have most : key x ≤ key m := by
            rw [split] at hx
            rcases List.mem_append.1 hx with hx | hx
            · exact earlier x hx
            · rcases List.mem_cons.1 hx with rfl | hx
              · exact Instant.le_refl _
              · have less := later x hx
                rw [Instant.lt_def] at less
                rw [Instant.le_def]
                omega
          rw [Instant.le_def] at above most
          rw [Instant.lt_def]
          omega
  · intro given
    obtain ⟨before, after, rfl, earlier, later⟩ := given
    induction before with
    | nil =>
      rw [List.nil_append]
      unfold latestBy
      cases rest : latestBy key after with
      | none => rfl
      | some m =>
        have less := later m (mem_of_latestBy _ rest)
        refine if_neg ?_
        rw [Instant.lt_def] at less
        rw [Instant.le_def]
        omega
    | cons b before ih =>
      obtain ⟨below, earlier⟩ := List.forall_mem_cons.1 earlier
      rw [List.cons_append]
      unfold latestBy
      rw [ih earlier]
      exact if_pos below

theorem latestBy_filter_eq_some_iff {qualifies : α → Bool} :
    latestBy key (l.filter qualifies) = some a ↔
      ∃ before after, l = before ++ a :: after ∧ qualifies a = true ∧
        (∀ b ∈ before, qualifies b = true → key b ≤ key a) ∧
          ∀ b ∈ after, qualifies b = true → key b < key a := by
  rw [latestBy_eq_some_iff]
  constructor
  · intro given
    obtain ⟨some', rest', split, earlier, later⟩ := given
    obtain ⟨l₁, l₂, rfl, rfl, tail⟩ := List.filter_eq_append_iff.1 split
    obtain ⟨l₃, l₄, rfl, dropped, own, rfl⟩ := List.filter_eq_cons_iff.1 tail
    refine ⟨l₁ ++ l₃, l₄, by rw [List.append_assoc], own, ?_, ?_⟩
    · intro b hb qualified
      rcases List.mem_append.1 hb with hb | hb
      · exact earlier b (List.mem_filter.2 ⟨hb, qualified⟩)
      · exact absurd qualified (dropped b hb)
    · intro b hb qualified
      exact later b (List.mem_filter.2 ⟨hb, qualified⟩)
  · intro given
    obtain ⟨before, after, rfl, own, earlier, later⟩ := given
    refine ⟨before.filter qualifies, after.filter qualifies, ?_, ?_, ?_⟩
    · rw [List.filter_append, List.filter_cons_of_pos own]
    · intro b hb
      obtain ⟨mem, qualified⟩ := List.mem_filter.1 hb
      exact earlier b mem qualified
    · intro b hb
      obtain ⟨mem, qualified⟩ := List.mem_filter.1 hb
      exact later b mem qualified

end

/-! ## the anchors of a snapshot -/

/-- a base or standalone that is active or still to start -/
def SubscriptionRecord.HoldsBundle (r : SubscriptionRecord) (now : Instant) : Prop :=
  r.category ≠ .addOn ∧ ((Subscription.rebuild r [] now).state = .active ∨
    (Subscription.rebuild r [] now).state = .pending)

instance (r : SubscriptionRecord) (now : Instant) : Decidable (r.HoldsBundle now) :=
  inferInstanceAs (Decidable (_ ∧ _))

/-- of the bases among records the one created last, the later one in the list if two tie -/
def LastBase (records : List SubscriptionRecord) (b : SubscriptionRecord) : Prop :=
  ∃ before after, records = before ++ b :: after ∧ b.category = .base ∧
    (∀ r ∈ before, r.category = .base → r.createdUtc ≤ b.createdUtc) ∧
      ∀ r ∈ after, r.category = .base → r.createdUtc < b.createdUtc

theorem Subscription.isActiveOrPending_iff {s : Subscription} :
    s.isActiveOrPending = true ↔ s.state = .active ∨ s.state = .pending := by
  unfold isActiveOrPending
  cases s.state <;> decide

namespace Snapshot
variable (id : Uuid) (key : Option String) (records : List SubscriptionRecord) (now : Instant)

theorem anchorFor?_live_iff {category : ProductCategory} (kind : category ≠ .addOn) :
    ((take id key records now).anchorFor? category).any (·.isActiveOrPending) = true ↔
      ∃ r ∈ records, r.HoldsBundle now := by
  have anchoring : category.anchorsBundle = true := bne_iff_ne.2 kind
  constructor
  · intro live
    rw [anchorFor?_of_anchors _ anchoring, Option.any_eq_true] at live
    obtain ⟨s, anchor, state⟩ := live
    -- both lists that the anchor may come from are of bases and standalones
    have found : ∃ m ∈ (take id key records now).members,
        m.record.category ≠ .addOn ∧ m.subscription = s := by
      rcases Option.or_eq_some_iff.1 anchor with latest | ⟨_, base⟩
      · obtain ⟨m, hm, qualified, rfl⟩ := mem_of_latest? latest
        exact ⟨m, hm, bne_iff_ne.1 (Bool.and_eq_true_iff.1 qualified).1, rfl⟩
      · obtain ⟨m, hm, qualified, rfl⟩ := mem_of_latest? base
        refine ⟨m, hm, ?_, rfl⟩
        rw [beq_iff_eq.1 qualified]
        decide
    obtain ⟨m, hm, anchors, rfl⟩ := found
    obtain ⟨r, hr, rfl⟩ := List.mem_map.1 hm
    exact ⟨r, hr, anchors, Subscription.isActiveOrPending_iff.1 state⟩
  · intro held
    obtain ⟨r, hr, anchors, state⟩ := held
    by_contra dead
    rw [Bool.not_eq_true] at dead
    have ended := anchorFor?_not_live anchoring dead ⟨r, .rebuild r [] now⟩
      (List.mem_map_of_mem hr) (bne_iff_ne.2 anchors)
    exact absurd (Subscription.isActiveOrPending_iff.2 state) (ne_true_of_eq_false ended)

theorem base?_take_iff {s : Subscription} : (take id key records now).base? = some s ↔
    ∃ b, LastBase records b ∧ s = .rebuild b [] now := by
  have latest : (take id key records now).base? =
      (latestBy (·.createdUtc) (records.filter (·.category == .base))).map (.rebuild · [] now) :=
    latest?_take id key records now _
  rw [latest, Option.map_eq_some_iff]
  refine exists_congr fun b => and_congr ?_ eq_comm
  rw [latestBy_filter_eq_some_iff]
  simp only [beq_iff_eq]
  rfl

end Snapshot

/-! ## what takes an add-on -/

/-- a base that an add-on may start on at a date -/
structure Subscription.TakesAddOn (base : Subscription) (c : Catalog) (addOn : Plan)
    (date : Instant) : Prop where
  running : base.state ≠ .cancelled
  started : base.startDate ≤ date
  lasting : ∀ ending, base.endDate = some ending → date < ending
  suits : ∃ name plan, base.planName? = some name ∧ c.findPlan name = .ok plan ∧
    c.offers plan.product.name addOn = true ∧ c.includes plan.product.name addOn = false

section
variable {c : Catalog} {plan : Plan} {requested : Instant}

theorem checkAddOnOnBase_eq_ok {base : Subscription} {addOn : Plan} {date : Instant} :
    checkAddOnOnBase c base addOn date = .ok () ↔
      base.state ≠ .cancelled ∧ (∀ ending, base.endDate = some ending → date < ending) ∧
        ∃ name plan, base.planName? = some name ∧ c.findPlan name = .ok plan ∧
          c.offers plan.product.name addOn = true ∧ c.includes plan.product.name addOn = false := by
  have open_ : ¬(base.state = .cancelled ∨ base.endDate.any (· ≤ date) = true) ↔
      base.state ≠ .cancelled ∧ ∀ ending, base.endDate = some ending → date < ending := by
    rw [not_or]
    refine and_congr_right fun _ => ?_
    cases base.endDate with
    | none => simp
    | some ending => simp [Instant.le_def, Instant.lt_def]
  unfold checkAddOnOnBase
  show (if _ then Except.error _ else _) = _ ↔ _
  rw [refuse_eq_ok, open_, and_assoc]
  refine and_congr_right fun _ => and_congr_right fun _ => ?_
  cases base.planName? with
  | none => simp
  | some name =>
    show (liftM (c.findPlan name) >>= _) = _ ↔ _
    rw [bind_eq_ok]
    constructor
    · intro given
      obtain ⟨plan, found, suits⟩ := given
      exact ⟨name, plan, rfl, liftM_eq_ok.1 found, checkAddOnForProduct_eq_ok.1 suits⟩
    · intro given
      obtain ⟨_, plan, same, found, suits⟩ := given
      cases same
      exact ⟨plan, liftM_eq_ok.2 found, checkAddOnForProduct_eq_ok.2 suits⟩

theorem takesAddOn_iff {base : Subscription} {addOn : Plan} {date : Instant} :
    base.TakesAddOn c addOn date ↔
      ¬date < base.startDate ∧ checkAddOnOnBase c base addOn date = .ok () := by
  have prompt : ¬date < base.startDate ↔ base.startDate ≤ date := by
    rw [Instant.lt_def, Instant.le_def]
    omega
  rw [prompt, checkAddOnOnBase_eq_ok]
  constructor
  · intro takes
    exact ⟨takes.started, takes.running, takes.lasting, takes.suits⟩
  · intro given
    obtain ⟨started, running, lasting, suits⟩ := given
    exact ⟨running, started, lasting, suits⟩

/-! ## the gates -/

theorem bundleStartDate_anchors_iff (kind : plan.category ≠ .addOn) (label : String) (id : Uuid)
    (key : Option String) (records : List SubscriptionRecord) (now : Instant) :
    let answer := bundleStartDate c plan label
      ((Snapshot.take id key records now).anchorFor? plan.category) requested
    (answer = .error (.baseAlreadyExists label) ↔ ∃ r ∈ records, r.HoldsBundle now) ∧
      ((¬∃ r ∈ records, r.HoldsBundle now) → answer = .ok requested) := by
  intro answer
  have live := Snapshot.anchorFor?_live_iff id key records now kind
  have whole : answer = _ := bundleStartDate_of_ne_addOn kind label
  rw [whole, ← live]
  constructor
  · split
    · next held => exact iff_of_true rfl held
    · next free => exact iff_of_false nofun free
  · intro free
    exact if_neg free

theorem bundleStartDate_base_iff (kind : plan.category = .addOn) (label : String) (id : Uuid)
    (key : Option String) (records : List SubscriptionRecord) (now started : Instant) :
    bundleStartDate c plan label ((Snapshot.take id key records now).anchorFor? plan.category)
        requested = .ok started ↔
      ∃ b, LastBase records b ∧ (Subscription.rebuild b [] now).TakesAddOn c plan requested ∧
        started = (Subscription.rebuild b [] now).startDate := by
  have base : (Snapshot.take id key records now).anchorFor? plan.category =
      (Snapshot.take id key records now).base? := by
    rw [kind]
    rfl
  rw [bundleStartDate_addOn_iff kind, base]
  constructor
  · intro given
    obtain ⟨s, found, late, suits, same⟩ := given
    obtain ⟨b, last, rfl⟩ := (Snapshot.base?_take_iff id key records now).1 found
    exact ⟨b, last, takesAddOn_iff.2 ⟨late, suits⟩, same⟩
  · intro given
    obtain ⟨b, last, takes, same⟩ := given
    obtain ⟨late, suits⟩ := takesAddOn_iff.1 takes
    exact ⟨_, (Snapshot.base?_take_iff id key records now).2 ⟨b, last, rfl⟩, late, suits, same⟩

/-- A base or standalone starts on the requested date unless some base or standalone of the bundle
is active or pending.  An add-on starts with the base created last, if that one takes it. -/
theorem bundleStartDate_exact (c : Catalog) (plan : Plan) (label : String) (id : Uuid)
    (key : Option String) (records : List SubscriptionRecord) (now requested : Instant) :
    let answer := bundleStartDate c plan label
      ((Snapshot.take id key records now).anchorFor? plan.category) requested
    (plan.category ≠ .addOn →
      (answer = .error (.baseAlreadyExists label) ↔ ∃ r ∈ records, r.HoldsBundle now) ∧
      ((¬∃ r ∈ records, r.HoldsBundle now) → answer = .ok requested)) ∧
    (plan.category = .addOn → ∀ started, answer = .ok started ↔
      ∃ b, LastBase records b ∧ (Subscription.rebuild b [] now).TakesAddOn c plan requested ∧
        started = (Subscription.rebuild b [] now).startDate) := by
  intro answer
  constructor
  · intro kind
    exact bundleStartDate_anchors_iff kind label id key records now
  · intro kind started
    exact bundleStartDate_base_iff kind label id key records now started

end

/-! ## beside a pistol that replaced another -/

theorem bundleStartDate_exact_replaced :
    let s := (Service.new Shop.catalog 255 true).after Shop.replaced
    let records := s.store.recordsForBundle (.ofNat 1000)
    let start (plan : Plan) := bundleStartDate Shop.catalog plan "home"
      ((Snapshot.take (.ofNat 1000) none records (Shop.midnight 20004)).anchorFor? plan.category)
      (Shop.midnight 20004)
    start Shop.pistol = .error (.baseAlreadyExists "home") ∧
      (∃ r ∈ records, r.HoldsBundle (Shop.midnight 20004)) ∧
      start Shop.laser = .ok (Shop.midnight 20003) ∧
      ∃ b, LastBase records b ∧ (Subscription.rebuild b [] (Shop.midnight 20004)).TakesAddOn
        Shop.catalog Shop.laser (Shop.midnight 20004) ∧
          Shop.midnight 20003 = (Subscription.rebuild b [] (Shop.midnight 20004)).startDate := by
  intro s records start
  obtain ⟨holds, _⟩ := bundleStartDate_exact Shop.catalog Shop.pistol "home" (.ofNat 1000) none
    records (Shop.midnight 20004) (Shop.midnight 20004)
  obtain ⟨_, takes⟩ := bundleStartDate_exact Shop.catalog Shop.laser "home" (.ofNat 1000) none
    records (Shop.midnight 20004) (Shop.midnight 20004)
  have held : ∃ r ∈ records, r.HoldsBundle (Shop.midnight 20004) := by decide +kernel
  have accepted : start Shop.laser = .ok (Shop.midnight 20003) := by decide +kernel
  exact ⟨(holds (by decide)).1.2 held, held, accepted, (takes rfl _).1 accepted⟩

end SubscriptionBundles
