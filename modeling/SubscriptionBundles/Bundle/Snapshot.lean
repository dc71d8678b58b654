import SubscriptionBundles.Bundle.Basic

/-!
# Snapshots

The subscriptions of one bundle as of an instant, each beside its record.

* `Snapshot.take`       the snapshot of a bundle's records;
* `Snapshot.base?`      the base subscription created last;
* `Snapshot.anchorFor?` the subscription that a new one is checked against;
* `Snapshot.find?`      a subscription by its id.
-/

namespace SubscriptionBundles

structure Member where
  record : SubscriptionRecord
  subscription : Subscription
deriving DecidableEq

structure Snapshot where
  bundleId : Uuid
  bundleExternalKey : Option String
  members : List Member
deriving DecidableEq

namespace Snapshot

def take (bundleId : Uuid) (bundleExternalKey : Option String) (records : List SubscriptionRecord)
    (now : Instant) : Snapshot :=
  ⟨bundleId, bundleExternalKey, records.map fun r => ⟨r, .rebuild r [] now⟩⟩

def records (s : Snapshot) : List SubscriptionRecord := s.members.map (·.record)

def subscriptions (s : Snapshot) : List Subscription := s.members.map (·.subscription)

/-- of the members that qualify, the one created last -/
def latest? (s : Snapshot) (qualifies : Member → Bool) : Option Subscription :=
  (latestBy (·.record.createdUtc) (s.members.filter qualifies)).map (·.subscription)

def base? (s : Snapshot) : Option Subscription := s.latest? fun m => m.record.category == .base

/-- Add-ons attach to the base.  A new base or standalone collides with any live one of either, so
it sees the latest of those first. -/
def anchorFor? (s : Snapshot) : ProductCategory → Option Subscription
  | .addOn => s.base?
  | _ =>
    (s.latest? fun m => m.record.category != .addOn && m.subscription.isActiveOrPending).or s.base?

def find? (s : Snapshot) (id : Uuid) : Option Subscription :=
  s.subscriptions.find? fun m => m.id == id

@[simp] theorem records_take (bundleId : Uuid) (key : Option String)
    (records : List SubscriptionRecord) (now : Instant) :
    (take bundleId key records now).records = records := by
  simp [take, Snapshot.records, Function.comp_def]

@[simp] theorem subscriptions_take (bundleId : Uuid) (key : Option String)
    (records : List SubscriptionRecord) (now : Instant) :
    (take bundleId key records now).subscriptions =
      records.map fun r => Subscription.rebuild r [] now := by
  simp [take, Snapshot.subscriptions, Function.comp_def]

end Snapshot

end SubscriptionBundles
