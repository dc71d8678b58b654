import SubscriptionBundles.Proofs.NewRecords

/-!
# Other identifiers

The identifiers of a new subscription only name it: a record made under other ones is the same
record with these in their place.

* `Uuid.replace`                       one identifier in the place of another;
* `SubscriptionRecord.relabel`         a record whose bundle and subscription are named otherwise;
* `NewSubscription.record_relabel`     a new subscription makes the relabelled record;
* `NewSubscription.record_of_migrated` it makes one whether it is migrated or not.
-/

namespace SubscriptionBundles

def Uuid.replace (old new id : Uuid) : Uuid := if id = old then new else id

@[simp] theorem Uuid.replace_self (old new : Uuid) : old.replace new old = new := if_pos rfl

def TransitionEvent.relabel (subscription : Uuid → Uuid) (e : TransitionEvent) : TransitionEvent :=
  { e with subscriptionId := subscription e.subscriptionId }

/-- the record of a bundle and a subscription that are named otherwise -/
def SubscriptionRecord.relabel (bundle subscription : Uuid → Uuid) (r : SubscriptionRecord) :
    SubscriptionRecord :=
  { r with
    id := subscription r.id
    bundleId := bundle r.bundleId
    events := r.events.map (.relabel subscription) }

theorem phaseEvents_relabel (subscription : Uuid → Uuid) (id : Uuid) (plan : String)
    (processed : Instant) (sequence : UInt32) (later : List (PhaseType × Instant)) :
    phaseEvents (subscription id) plan processed sequence later =
      (phaseEvents id plan processed sequence later).map (.relabel subscription) := by
  induction later generalizing sequence with
  | nil => rfl
  | cons p later ih =>
    unfold phaseEvents
    rw [ih, List.map_cons]
    rfl

namespace NewSubscription

def relabel (bundle subscription : Uuid → Uuid) (n : NewSubscription) : NewSubscription :=
  { n with id := subscription n.id, bundleId := bundle n.bundleId }

variable {c : Catalog} {n : NewSubscription}

theorem record_relabel (c : Catalog) (n : NewSubscription) (bundle subscription : Uuid → Uuid) :
    (n.relabel bundle subscription).record c =
      (n.record c).map (.relabel bundle subscription) := by
  have split : (n.relabel bundle subscription).plan.splitSchedule
      (n.relabel bundle subscription).initialPhase
      ((n.relabel bundle subscription).alignedOn c.planAlignment)
      (n.relabel bundle subscription).effectiveDate =
        n.plan.splitSchedule n.initialPhase (n.alignedOn c.planAlignment) n.effectiveDate := by
    unfold alignedOn
    rfl
  unfold record creationEvents
  rw [split]
  cases n.plan.splitSchedule n.initialPhase (n.alignedOn c.planAlignment) n.effectiveDate with
  | error e => rfl
  | ok parts =>
    show Except.ok _ = Except.ok _
    congr 2
    show _ :: phaseEvents (subscription n.id) _ _ _ _ = _
    rw [phaseEvents_relabel]
    rfl

theorem record_of_migrated {r : SubscriptionRecord} (h : n.record c = .ok r) (migrated : Bool) :
    { n with migrated := migrated }.record c = .ok { r with migrated := migrated } := by
  obtain ⟨phase, later, split, rfl⟩ := record_eq_ok h
  have same : ({ n with migrated := migrated } : NewSubscription).alignedOn c.planAlignment =
      n.alignedOn c.planAlignment := by
    unfold alignedOn
    rfl
  unfold record creationEvents
  rw [same, split]
  rfl

end NewSubscription

end SubscriptionBundles
