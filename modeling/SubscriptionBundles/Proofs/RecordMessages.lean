import SubscriptionBundles.Proofs.ReadBack
import SubscriptionBundles.Proofs.Runs
import SubscriptionBundles.Wire.Bundle

/-!
# Records, plans and requests in messages

What is stored and what is asked for survives being written as a message and read.  Only dates and
instants have to be representable for it, and those that come out of a message are.

* `plan_readsBack`, `eventKind_readsBack`  plans and kinds of events, all of them;
* `SubscriptionRecord.IsRepresentable`     a record whose instants are representable;
* `record_readsBack`, `bundleSpecifier_readsBack`, `dryRunArguments_readsBack`  what has dates;
* `SurvivesMessages`, `messages_survived`  written and read once or again, the value is the same.
-/

namespace SubscriptionBundles

/-! ## words -/

theorem category_readsBack : ReadsBack fun _ : ProductCategory => True :=
  .word (fun _ => rfl) (fun _ => rfl) fun c => by cases c <;> decide

theorem phaseType_readsBack : ReadsBack fun _ : PhaseType => True :=
  .word (fun _ => rfl) (fun _ => rfl) fun t => by cases t <;> decide

theorem billingPeriod_readsBack : ReadsBack fun _ : BillingPeriod => True :=
  .word (fun _ => rfl) (fun _ => rfl) fun p => by cases p <;> decide

theorem billingPolicy_readsBack : ReadsBack fun _ : BillingPolicy => True :=
  .word (fun _ => rfl) (fun _ => rfl) fun p => by cases p <;> decide

theorem dryRunAction_readsBack : ReadsBack fun _ : DryRunAction => True :=
  .word (fun _ => rfl) (fun _ => rfl) fun a => by cases a <;> decide

/-! ## plans -/

theorem unit?_withUnit (unit : String) (n : UInt32) : unit? (withUnit unit n) = some (unit, n) := by
  show ((ofValue? (toValue n)).map fun n => (unit, n)) = _
  rw [number_readsBack.back trivial]
  rfl

theorem word?_withUnit (unit : String) (n : UInt32) : word? (withUnit unit n) = none := rfl

theorem bundleLimit_readsBack : ReadsBack fun _ : BundleLimit => True := by
  refine .always fun limit => ?_
  unfold instToValueBundleLimit instOfValueBundleLimit
  cases limit with
  | unlimited => simp [word?]
  | atMost n => simp [word?_withUnit, unit?_withUnit]

theorem phaseDuration_readsBack : ReadsBack fun _ : PhaseDuration => True := by
  refine .always fun duration => ?_
  unfold instToValuePhaseDuration instOfValuePhaseDuration
  cases duration with
  | unlimited => simp [word?]
  | days n => simp [word?_withUnit, unit?_withUnit]
  | months n => simp [word?_withUnit, unit?_withUnit]
  | years n => simp [word?_withUnit, unit?_withUnit]

theorem product_readsBack : ReadsBack fun _ : Product => True := by
  refine .always fun p => ?_
  unfold instToValueProduct instOfValueProduct
  simp [string_readsBack.back trivial, category_readsBack.back trivial]

theorem planPhase_readsBack : ReadsBack fun _ : PlanPhase => True := by
  refine .always fun p => ?_
  unfold instToValuePlanPhase instOfValuePlanPhase
  simp [phaseType_readsBack.back trivial, phaseDuration_readsBack.back trivial]

theorem plan_readsBack : ReadsBack fun _ : Plan => True := by
  refine .always fun p => ?_
  unfold instToValuePlan instOfValuePlan
  simp [string_readsBack.back trivial, product_readsBack.back trivial,
    billingPeriod_readsBack.back trivial, planPhase_readsBack.list_always.back trivial,
    bundleLimit_readsBack.back trivial]

/-! ## specifiers -/

theorem optionalText_readsBack : ReadsBack fun _ : Option String => True :=
  string_readsBack.option_always fun _ => rfl

theorem optionalUuid_readsBack : ReadsBack fun _ : Option Uuid => True :=
  uuid_readsBack.option_always fun _ => rfl

theorem planSpecifier_readsBack : ReadsBack fun _ : PlanSpecifier => True := by
  refine .always fun s => ?_
  have period := (billingPeriod_readsBack.option_always fun _ => rfl).back (a := s.billingPeriod) trivial
  have phase := (phaseType_readsBack.option_always fun _ => rfl).back (a := s.phaseType) trivial
  unfold instToValuePlanSpecifier instOfValuePlanSpecifier
  simp [optionalText_readsBack.back trivial, period, phase]

theorem optionalPlan_readsBack : ReadsBack fun _ : Option PlanSpecifier => True :=
  planSpecifier_readsBack.option_always fun _ => rfl

theorem priceOverride_readsBack : ReadsBack fun _ : PriceOverride => True := by
  refine .always fun o => ?_
  unfold instToValuePriceOverride instOfValuePriceOverride
  simp [phaseType_readsBack.back trivial, string_readsBack.back trivial,
    optionalText_readsBack.back trivial]

theorem entitlement_readsBack : ReadsBack fun _ : EntitlementSpecifier => True := by
  refine .always fun s => ?_
  unfold instToValueEntitlementSpecifier instOfValueEntitlementSpecifier
  simp [optionalPlan_readsBack.back trivial, priceOverride_readsBack.list_always.back trivial]

/-- what is billed from a date is billed from a representable one -/
def BundleSpecifier.IsRepresentable (s : BundleSpecifier) : Prop :=
  ∀ d ∈ s.billingEffectiveDate, d.isRepresentable = true

/-- the date asked for, if there is one, is representable -/
def DryRunArguments.IsRepresentable (a : DryRunArguments) : Prop :=
  ∀ d ∈ a.effectiveDate, d.isRepresentable = true

theorem optionalDate_readsBack :
    ReadsBack fun o : Option Date => ∀ d ∈ o, d.isRepresentable = true :=
  date_readsBack.option fun _ => rfl

theorem bundleSpecifier_readsBack : ReadsBack BundleSpecifier.IsRepresentable where
  back {s} dated := by
    unfold instToValueBundleSpecifier instOfValueBundleSpecifier
    simp [optionalUuid_readsBack.back trivial, optionalText_readsBack.back trivial,
      entitlement_readsBack.list_always.back trivial, optionalDate_readsBack.back dated,
      bool_readsBack.back trivial]
  fitting {v s} read := by
    unfold instOfValueBundleSpecifier at read
    simp only [Option.bind_eq_bind, Option.bind_eq_some_iff, Option.pure_def] at read
    obtain ⟨f, _, _, _, _, _, _, _, date, dated, _, _, read⟩ := read
    cases read
    exact Fields.optional_fits optionalDate_readsBack (by rintro _ ⟨⟩) dated

theorem dryRunArguments_readsBack : ReadsBack DryRunArguments.IsRepresentable where
  back {a} dated := by
    have policy := (billingPolicy_readsBack.option_always fun _ => rfl).back (a := a.policy) trivial
    unfold instToValueDryRunArguments instOfValueDryRunArguments
    simp [dryRunAction_readsBack.back trivial, optionalPlan_readsBack.back trivial,
      priceOverride_readsBack.list_always.back trivial, optionalUuid_readsBack.back trivial,
      optionalDate_readsBack.back dated, policy]
  fitting {v a} read := by
    unfold instOfValueDryRunArguments at read
    simp only [Option.bind_eq_bind, Option.bind_eq_some_iff, Option.pure_def] at read
    obtain ⟨f, _, _, _, _, _, _, _, _, _, date, dated, _, _, read⟩ := read
    cases read
    exact Fields.optional_fits optionalDate_readsBack (by rintro _ ⟨⟩) dated

/-! ## events -/

theorem eventPhase?_eq {f : Fields} {t : PhaseType}
    (found : f.lookup "phase_type" = some (toValue t)) : eventPhase? f = some t := by
  unfold eventPhase?
  rw [found]
  exact phaseType_readsBack.back trivial

theorem eventKind_readsBack : ReadsBack fun _ : EventKind => True := by
  refine .always fun kind => ?_
  have word (s : String) : ofValue? (Value.text s) = some s := rfl
  unfold instToValueEventKind instOfValueEventKind
  cases kind with
  | create plan phase priceList =>
    simp [Value.fields?, word, eventKindOf?, string_readsBack.back trivial, List.lookup_cons,
      eventPhase?_eq (t := phase)]
  | phase plan phase =>
    simp [Value.fields?, word, eventKindOf?, string_readsBack.back trivial, List.lookup_cons,
      eventPhase?_eq (t := phase)]
  | change plan phase priceList =>
    simp [Value.fields?, word, eventKindOf?, string_readsBack.back trivial, List.lookup_cons,
      eventPhase?_eq (t := phase)]
  | cancel => simp [Value.fields?, word, eventKindOf?]
  | billCycleDayChange day =>
    simp [Value.fields?, word, eventKindOf?, number_readsBack.back trivial]

/-- its dates are representable -/
structure TransitionEvent.IsRepresentable (e : TransitionEvent) : Prop where
  effective : e.effectiveDate.isRepresentable = true
  processed : e.processedDate.isRepresentable = true

theorem transitionEvent_readsBack : ReadsBack TransitionEvent.IsRepresentable where
  back {e} dated := by
    unfold instToValueTransitionEvent instOfValueTransitionEvent
    simp [uuid_readsBack.back trivial, number_readsBack.back trivial,
      instant_readsBack.back dated.effective, instant_readsBack.back dated.processed,
      eventKind_readsBack.back trivial]
  fitting {v e} read := by
    unfold instOfValueTransitionEvent at read
    simp only [Option.bind_eq_bind, Option.bind_eq_some_iff, Option.pure_def] at read
    obtain ⟨f, _, _, _, _, _, effective, dated, processed, dated', _, _, read⟩ := read
    cases read
    exact ⟨Fields.required_fits instant_readsBack dated,
      Fields.required_fits instant_readsBack dated'⟩

/-! ## records -/

/-- its dates and those of its events are representable -/
structure SubscriptionRecord.IsRepresentable (r : SubscriptionRecord) : Prop where
  bundleStart : r.bundleStartDate.isRepresentable = true
  alignStart : r.alignStartDate.isRepresentable = true
  chargedThrough : ∀ i ∈ r.chargedThroughDate, i.isRepresentable = true
  created : r.createdUtc.isRepresentable = true
  events : ∀ e ∈ r.events, e.IsRepresentable

theorem optionalInstant_readsBack :
    ReadsBack fun o : Option Instant => ∀ i ∈ o, i.isRepresentable = true :=
  instant_readsBack.option fun _ => rfl

theorem record_readsBack : ReadsBack SubscriptionRecord.IsRepresentable where
  back {r} dated := by
    unfold instToValueSubscriptionRecord instOfValueSubscriptionRecord
    simp [uuid_readsBack.back trivial, optionalText_readsBack.back trivial,
      category_readsBack.back trivial, bool_readsBack.back trivial,
      instant_readsBack.back dated.bundleStart, instant_readsBack.back dated.alignStart,
      optionalInstant_readsBack.back dated.chargedThrough, instant_readsBack.back dated.created,
      transitionEvent_readsBack.list.back dated.events]
  fitting {v r} read := by
    unfold instOfValueSubscriptionRecord at read
    simp only [Option.bind_eq_bind, Option.bind_eq_some_iff, Option.pure_def] at read
    obtain ⟨f, _, _, _, _, _, _, _, _, _, _, bundleStart, _, alignStart, _, charged, _, _, _, created,
      _, events, read⟩ := read
    cases read
    exact {
      bundleStart := Fields.required_fits instant_readsBack bundleStart
      alignStart := Fields.required_fits instant_readsBack alignStart
      chargedThrough := Fields.optional_fits optionalInstant_readsBack (by rintro _ ⟨⟩) charged
      created := Fields.required_fits instant_readsBack created
      events := Fields.required_fits transitionEvent_readsBack.list events }

/-! ## what survives -/

/-- values that fit are read back from their messages, and what was read from any message is read
again from its own one, which stays the same -/
structure SurvivesMessages {α : Type} [ToValue α] [OfValue α] (fits : α → Prop) : Prop where
  read_back : ∀ a : α, fits a → ofValue? (toValue a) = some a
  read_again : ∀ (v : Value) (a : α), ofValue? v = some a → ofValue? (toValue a) = some a
  written_again : ∀ (v : Value) (a b : α), ofValue? v = some a → ofValue? (toValue a) = some b →
    toValue b = toValue a

theorem ReadsBack.survives {α : Type} [ToValue α] [OfValue α] {fits : α → Prop}
    (h : ReadsBack fits) : SurvivesMessages fits where
  read_back _ := h.back
  read_again _ _ := h.again
  written_again v a b read again := by
    cases (h.again read).symm.trans again
    rfl

/-- Records, plans, kinds of events and both kinds of requests survive messages, as far as their dates
are representable. -/
theorem messages_survived :
    SurvivesMessages SubscriptionRecord.IsRepresentable ∧
      SurvivesMessages (fun _ : Plan => True) ∧ SurvivesMessages (fun _ : EventKind => True) ∧
      SurvivesMessages BundleSpecifier.IsRepresentable ∧
      SurvivesMessages DryRunArguments.IsRepresentable :=
  ⟨record_readsBack.survives, plan_readsBack.survives, eventKind_readsBack.survives,
    bundleSpecifier_readsBack.survives, dryRunArguments_readsBack.survives⟩

/-- a subscription in a bundle of the leap second before the year 10000, paid for a month and then
cancelled -/
def Shop.endOfYears : SubscriptionRecord where
  id := .ofNat 2
  bundleId := .ofNat 1
  bundleExternalKey := some "car"
  category := .base
  bundleStartDate := ⟨2932896, 86399, 500000000, true, by decide, by decide, by decide⟩
  alignStartDate := Shop.midnight 2932897
  chargedThroughDate := some (Shop.midnight 2932928)
  migrated := false
  createdUtc := Shop.midnight 20553
  events := [
    ⟨.ofNat 2, 0, Shop.midnight 2932897, Shop.midnight 20553,
      .create "pistol-monthly" .evergreen "DEFAULT"⟩,
    ⟨.ofNat 2, 1, Shop.midnight 2932928, Shop.midnight 20554, .cancel⟩]

theorem messages_survived_endOfYears :
    let kind := EventKind.phase "pistol-monthly" .trial
    Shop.endOfYears.IsRepresentable ∧ ofValue? (toValue Shop.endOfYears) = some Shop.endOfYears ∧
      ofValue? (.list [.text "phase", .text "pistol-monthly", .text "trial"]) = some kind ∧
      ofValue? (toValue kind) = some kind := by
  intro kind
  have dated : Shop.endOfYears.IsRepresentable := by
    refine ⟨by decide, by decide, ?_, by decide, ?_⟩
    · rintro _ ⟨⟩
      decide
    · intro e he
      rcases List.mem_pair.1 he with rfl | rfl
      · exact ⟨by decide, by decide⟩
      · exact ⟨by decide, by decide⟩
  have listed : ofValue? (.list [.text "phase", .text "pistol-monthly", .text "trial"]) =
      some kind := rfl
  obtain ⟨records, _, kinds, _⟩ := messages_survived
  exact ⟨dated, records.read_back _ dated, listed, kinds.read_again _ _ listed⟩

end SubscriptionBundles
