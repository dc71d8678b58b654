import SubscriptionBundles.Context
import SubscriptionBundles.Wire.Value

/-!
# Contexts in messages

A message may leave parts of a context out, and another message may fill them in.

* `ContextParts`              the parts that are given;
* `ContextParts.completedBy`  the parts that are given, and other parts for the rest;
* `ContextParts.context?`     the context they make: the present is needed, and an offset of less
                              than a day.
-/

namespace SubscriptionBundles

structure ContextParts where
  accountId : Option Uuid
  now : Option Instant
  referenceTime : Option Instant
  offset : Option Int
deriving DecidableEq

namespace ContextParts

def empty : ContextParts := ⟨none, none, none, none⟩

/-- the parts that are given, and `others` for the rest -/
def completedBy (parts others : ContextParts) : ContextParts where
  accountId := parts.accountId.or others.accountId
  now := parts.now.or others.now
  referenceTime := parts.referenceTime.or others.referenceTime
  offset := parts.offset.or others.offset

/-- without an account it is nobody's, without a reference time the present stands in for it -/
def context? (parts : ContextParts) : Option Context := do
  let now ← parts.now
  let offset ← UtcOffset.ofSeconds? (parts.offset.getD 0)
  return ⟨parts.accountId.getD .nil, now, parts.referenceTime.getD now, offset⟩

end ContextParts

instance : OfValue ContextParts := ⟨fun v => do
  let f ← v.fieldsNamed? ["account", "now", "reference_time", "offset"] []
  return {
    accountId := ← f.optional "account"
    now := ← f.optional "now"
    referenceTime := ← f.optional "reference_time"
    offset := ← f.optional "offset" }⟩

/-! ## small laws -/

namespace ContextParts

@[simp] theorem empty_completedBy (parts : ContextParts) : empty.completedBy parts = parts := by
  simp [completedBy, empty]

@[simp] theorem completedBy_empty (parts : ContextParts) : parts.completedBy empty = parts := by
  simp [completedBy, empty]

theorem completedBy_assoc (a b c : ContextParts) :
    (a.completedBy b).completedBy c = a.completedBy (b.completedBy c) := by
  simp [completedBy, Option.or_assoc]

end ContextParts

end SubscriptionBundles
