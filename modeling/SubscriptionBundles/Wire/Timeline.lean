import SubscriptionBundles.Timeline.Projection
import SubscriptionBundles.Wire.Catalog

/-!
# Subscriptions in messages

An event's kind is an object whose field `type` says which kind it is, or the list of that word and
the values of the other fields.  A transition shows the standing before and after it side by side.
-/

namespace SubscriptionBundles

instance : ToValue EntitlementState := ⟨fun s => .text s.label⟩
instance : OfValue EntitlementState := ⟨ofLabel? EntitlementState.label EntitlementState.all⟩

/-! ## events -/

instance : ToValue EventKind := ⟨fun
  | .create plan phase priceList =>
    .object [("type", .text "create"), ("plan_name", toValue plan), ("phase_type", toValue phase),
      ("price_list_name", toValue priceList)]
  | .phase plan phase =>
    .object [("type", .text "phase"), ("plan_name", toValue plan), ("phase_type", toValue phase)]
  | .change plan phase priceList =>
    .object [("type", .text "change"), ("plan_name", toValue plan), ("phase_type", toValue phase),
      ("price_list_name", toValue priceList)]
  | .cancel => .object [("type", .text "cancel")]
  | .billCycleDayChange day =>
    .object [("type", .text "bill_cycle_day_change"), ("bill_cycle_day_local", toValue day)]⟩

/-- the fields of a kind besides `type` -/
def eventFields : String → List String
  | "create" => ["plan_name", "phase_type", "price_list_name"]
  | "phase" => ["plan_name", "phase_type"]
  | "change" => ["plan_name", "phase_type", "price_list_name"]
  | "bill_cycle_day_change" => ["bill_cycle_day_local"]
  | _ => []

/-- the phase of an event, whose word may also be the one field of an object with an empty object in
it -/
def eventPhase? (f : Fields) : Option PhaseType :=
  (f.lookup "phase_type").bind fun
    | .object [(word, .object [])] => ofValue? (.text word)
    | v => ofValue? v

def eventKindOf? (f : Fields) (type : String) : Option EventKind :=
  match type with
  | "create" => do
    return .create (← f.required "plan_name") (← eventPhase? f) (← f.required "price_list_name")
  | "phase" => do return .phase (← f.required "plan_name") (← eventPhase? f)
  | "change" => do
    return .change (← f.required "plan_name") (← eventPhase? f) (← f.required "price_list_name")
  | "cancel" => some .cancel
  | "bill_cycle_day_change" => do return .billCycleDayChange (← f.required "bill_cycle_day_local")
  | _ => none

instance : OfValue EventKind := ⟨fun
  | .list (.text type :: items) => do
    eventKindOf? (← Value.fieldsNamed? (eventFields type) [] (.list items)) type
  | v => do
    let f ← v.fields?
    eventKindOf? f (← f.required "type")⟩

instance : ToValue TransitionEvent := ⟨fun e =>
  .object [
    ("subscription_id", toValue e.subscriptionId),
    ("sequence", toValue e.sequence),
    ("effective_date", toValue e.effectiveDate),
    ("processed_date", toValue e.processedDate),
    ("kind", toValue e.kind)]⟩

instance : OfValue TransitionEvent := ⟨fun v => do
  let f ← v.fieldsNamed? ["subscription_id", "sequence", "effective_date", "processed_date",
    "kind"] []
  return {
    subscriptionId := ← f.required "subscription_id"
    sequence := ← f.required "sequence"
    effectiveDate := ← f.required "effective_date"
    processedDate := ← f.required "processed_date"
    kind := ← f.required "kind" }⟩

/-! ## records -/

instance : ToValue SubscriptionRecord := ⟨fun r =>
  .object [
    ("subscription_id", toValue r.id),
    ("bundle_id", toValue r.bundleId),
    ("bundle_external_key", toValue r.bundleExternalKey),
    ("category", toValue r.category),
    ("bundle_start_date", toValue r.bundleStartDate),
    ("align_start_date", toValue r.alignStartDate),
    ("charged_through_date", toValue r.chargedThroughDate),
    ("migrated", toValue r.migrated),
    ("created_utc", toValue r.createdUtc),
    ("events", toValue r.events)]⟩

instance : OfValue SubscriptionRecord := ⟨fun v => do
  let f ← v.fieldsNamed? ["subscription_id", "bundle_id", "bundle_external_key", "category",
    "bundle_start_date", "align_start_date", "charged_through_date", "migrated", "created_utc",
    "events"] []
  return {
    id := ← f.required "subscription_id"
    bundleId := ← f.required "bundle_id"
    bundleExternalKey := ← f.optional "bundle_external_key"
    category := ← f.required "category"
    bundleStartDate := ← f.required "bundle_start_date"
    alignStartDate := ← f.required "align_start_date"
    chargedThroughDate := ← f.optional "charged_through_date"
    migrated := ← f.required "migrated"
    createdUtc := ← f.required "created_utc"
    events := ← f.required "events" }⟩

/-! ## what callers see -/

/-- the standing before and after a step -/
def stepFields (previous next : Standing) : Fields := [
  ("previous_state", toValue previous.state?),
  ("next_state", toValue next.state),
  ("previous_plan_name", toValue previous.plan?),
  ("next_plan_name", toValue next.plan?),
  ("previous_phase", toValue previous.phase?),
  ("next_phase", toValue next.phase?),
  ("previous_price_list", toValue previous.priceList?),
  ("next_price_list", toValue next.priceList?),
  ("next_bill_cycle_day_local", toValue next.billCycleDay?)]

/-- a transition of a subscription -/
def transitionValue (s : Subscription) (t : Transition) : Value :=
  .object ([
    ("subscription_id", toValue s.id),
    ("bundle_id", toValue s.bundleId),
    ("event", toValue t.event.kind),
    ("effective_date", toValue t.event.effectiveDate),
    ("processed_date", toValue t.event.processedDate)] ++ stepFields t.previous t.next)

instance : ToValue Subscription := ⟨fun s =>
  .object [
    ("subscription_id", toValue s.id),
    ("bundle_id", toValue s.bundleId),
    ("bundle_external_key", toValue s.bundleExternalKey),
    ("category", toValue s.category),
    ("bundle_start_date", toValue s.bundleStartDate),
    ("align_start_date", toValue s.alignStartDate),
    ("start_date", toValue s.startDate),
    ("end_date", toValue s.endDate),
    ("charged_through_date", toValue s.chargedThroughDate),
    ("migrated", toValue s.migrated),
    ("state", toValue s.state),
    ("current_plan_name", toValue s.current.plan?),
    ("current_phase", toValue s.current.phase?),
    ("current_price_list", toValue s.current.priceList?),
    ("bill_cycle_day_local", toValue s.current.billCycleDay?),
    ("transitions", .list (s.transitions.map (transitionValue s))),
    ("events", toValue s.events)]⟩

instance : ToValue ProjectedEvent := ⟨fun e =>
  .object ([
    ("subscription_id", toValue e.subscriptionId),
    ("bundle_id", toValue e.bundleId),
    ("event_type", toValue e.eventType),
    ("effective_date", toValue e.effectiveDate),
    ("processed_date", toValue e.processedDate),
    ("alignment_start_date", toValue e.alignmentStartDate)] ++ stepFields e.previous e.next)⟩

end SubscriptionBundles
