import SubscriptionBundles.Bundle.Basic
import SubscriptionBundles.Bundle.Batch
import SubscriptionBundles.DryRun.Arguments
import SubscriptionBundles.Wire.Timeline

/-!
# Bundles and requests in messages

Bundles, pages of them, and what callers ask to be created or simulated.
-/

namespace SubscriptionBundles

/-! ## bundles -/

instance : ToValue Bundle := ⟨fun b =>
  .object [
    ("bundle_id", toValue b.id),
    ("account_id", toValue b.accountId),
    ("external_key", toValue b.externalKey),
    ("created_utc", toValue b.createdUtc),
    ("updated_utc", toValue b.updatedUtc)]⟩

instance : ToValue SubscriptionBundle := ⟨fun b =>
  .object [("bundle", toValue b.bundle), ("subscriptions", toValue b.subscriptions)]⟩

section
variable {α : Type}

instance [ToValue α] : ToValue (Page α) := ⟨fun p =>
  .object [
    ("items", toValue p.items),
    ("offset", toValue p.offset),
    ("total_count", toValue p.totalCount)]⟩

instance [OfValue α] : OfValue (Page α) := ⟨fun v => do
  let f ← v.fieldsNamed? ["items", "offset", "total_count"] []
  return {
    items := ← f.required "items"
    offset := ← f.required "offset"
    totalCount := ← f.required "total_count" }⟩

end

/-! ## what is to be created -/

instance : ToValue EntitlementSpecifier := ⟨fun s =>
  .object [("plan", toValue s.plan), ("overrides", toValue s.overrides)]⟩

instance : OfValue EntitlementSpecifier := ⟨fun v => do
  let f ← v.fieldsNamed? ["plan"] ["overrides"]
  return ⟨← f.optional "plan", ← f.defaulted "overrides" []⟩⟩

instance : ToValue BundleSpecifier := ⟨fun s =>
  .object [
    ("bundle_id", toValue s.bundleId),
    ("bundle_external_key", toValue s.bundleExternalKey),
    ("entitlements", toValue s.entitlements),
    ("billing_effective_date", toValue s.billingEffectiveDate),
    ("migrated", toValue s.migrated)]⟩

instance : OfValue BundleSpecifier := ⟨fun v => do
  let f ← v.fieldsNamed? ["bundle_id", "bundle_external_key", "entitlements",
    "billing_effective_date"] ["migrated"]
  return {
    bundleId := ← f.optional "bundle_id"
    bundleExternalKey := ← f.optional "bundle_external_key"
    entitlements := ← f.required "entitlements"
    billingEffectiveDate := ← f.optional "billing_effective_date"
    migrated := ← f.defaulted "migrated" false }⟩

/-! ## what is to be simulated -/

instance : ToValue DryRunAction := ⟨fun a => .text a.label⟩
instance : OfValue DryRunAction := ⟨ofLabel? DryRunAction.label DryRunAction.all⟩

instance : ToValue DryRunArguments := ⟨fun a =>
  .object [
    ("action", toValue a.action),
    ("plan", toValue a.plan),
    ("overrides", toValue a.overrides),
    ("subscription_id", toValue a.subscriptionId),
    ("effective_date", toValue a.effectiveDate),
    ("policy", toValue a.policy)]⟩

instance : OfValue DryRunArguments := ⟨fun v => do
  let f ← v.fieldsNamed? ["action", "plan", "overrides", "subscription_id", "effective_date",
    "policy"] []
  return {
    action := ← f.required "action"
    plan := ← f.optional "plan"
    overrides := ← f.defaulted "overrides" []
    subscriptionId := ← f.optional "subscription_id"
    effectiveDate := ← f.optional "effective_date"
    policy := ← f.optional "policy" }⟩

end SubscriptionBundles
