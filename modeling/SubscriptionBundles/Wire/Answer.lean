import SubscriptionBundles.Service.Request
import SubscriptionBundles.Wire.Bundle

/-!
# Answers in messages

What a service answers, and the errors it refuses requests with.
-/

namespace SubscriptionBundles

instance : ToValue ChangeReason := ⟨fun r => .text r.label⟩

instance : ToValue AddOnStatus := ⟨fun s =>
  .object [
    ("subscription_id", toValue s.subscriptionId),
    ("product_name", toValue s.productName),
    ("plan_name", toValue s.planName),
    ("reason", toValue s.reason)]⟩

instance : ToValue SimulatedSubscription := ⟨fun s =>
  .object [("synthetic", toValue s.isSynthetic), ("subscription", toValue s.subscription)]⟩

instance : ToValue DryRunBundle := ⟨fun b =>
  .object [
    ("bundle", toValue b.bundle),
    ("subscriptions", toValue b.subscriptions),
    ("simulated_events", toValue b.simulatedEvents)]⟩

/-- the subscriptions of one bundle of an account -/
def groupValue (g : Uuid × List Subscription) : Value :=
  .object [("bundle_id", toValue g.1), ("subscriptions", toValue g.2)]

instance : ToValue Answer := ⟨fun
  | .done => .null
  | .id id => toValue id
  | .ids ids => toValue ids
  | .instant i => toValue i
  | .bundle b => toValue b
  | .maybeBundle b => toValue b
  | .bundles bs => toValue bs
  | .page p => .object [("page", toValue p), ("next_offset", toValue p.nextOffset?)]
  | .created bs => toValue bs
  | .subscription s => toValue s
  | .subscriptions ss => toValue ss
  | .subscriptionsByBundle gs => .list (gs.map groupValue)
  | .projected es => toValue es
  | .dryRun b => toValue b
  | .addOnStatuses ss => toValue ss⟩

/-! ## errors -/

instance : ToValue ServiceError := ⟨fun e =>
  .object [
    ("type", toValue e.label),
    ("client", toValue e.isClientError),
    ("message", toValue e.message)]⟩

instance : ToValue SubscriptionError := ⟨fun e =>
  .object [
    ("error", toValue e.label),
    ("message", toValue e.message),
    ("app", toValue e.toServiceError)]⟩

end SubscriptionBundles
