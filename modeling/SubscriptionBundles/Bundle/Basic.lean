import SubscriptionBundles.Timeline.Subscription

/-!
# Bundles and pages

* `Bundle`                the group of subscriptions around one base or standalone plan;
* `maxExternalKeyLength`  the longest external key that any configuration allows;
* `Page`                  one page of a listing, `Page.nextOffset?` where the next one starts.
-/

namespace SubscriptionBundles

structure Bundle where
  id : Uuid
  accountId : Uuid
  externalKey : Option String
  createdUtc : Instant
  updatedUtc : Instant
deriving DecidableEq

/-- a bundle as it is when it is created -/
def Bundle.new (id accountId : Uuid) (externalKey : Option String) (createdUtc : Instant) : Bundle :=
  ⟨id, accountId, externalKey, createdUtc, createdUtc⟩

def maxExternalKeyLength : Nat := 255

/-- a bundle with its subscriptions in listing order -/
structure SubscriptionBundle where
  bundle : Bundle
  subscriptions : List Subscription
deriving DecidableEq

structure Page (α : Type) where
  items : List α
  offset : Nat
  totalCount : Nat
deriving DecidableEq

namespace Page

variable {α : Type}

/-- `limit` entries of a list from `offset` on -/
def ofList (l : List α) (offset limit : Nat) : Page α :=
  ⟨(l.drop offset).take limit, offset, l.length⟩

def nextOffset? (p : Page α) : Option Nat :=
  let next := p.offset + p.items.length
  if next < p.totalCount then some next else none

theorem items_ofList_length_le (l : List α) (offset limit : Nat) :
    (ofList l offset limit).items.length ≤ limit :=
  List.length_take_le limit _

end Page

end SubscriptionBundles
