import SubscriptionBundles.Proofs.CachedIdentities
import SubscriptionBundles.Proofs.Runs

/-!
# Listings

A bundle is listed in one order: its bases before all others, in each of the two groups the earlier
aligned first, and subscriptions that tie as they are stored.  An account is listed bundle by bundle,
each of them as it is listed alone.

* `Subscription.Listed`          the listing of records as of an instant;
* `Subscription.listing_listed`  the sort by `listedBefore` gives it;
* `mem_groupByBundle`            the groups of records, one for each bundle that has any;
* `Service.listings_agree`       every bundle is listed so, alone and with its account.
-/

namespace SubscriptionBundles

open Service (Turn)

/-! ## one bundle -/

namespace Subscription

/-- what the order of a listing goes by -/
def rank (s : Subscription) : Bool × Instant := (s.category == .base, s.alignStartDate)

structure Listed (records : List SubscriptionRecord) (now : Instant) (listed : List Subscription) :
    Prop where
  complete : listed.Perm (records.map (.rebuild · [] now))
  basesFirst : listed.Pairwise fun a b => b.category = .base → a.category = .base
  byDate : listed.Pairwise fun a b =>
    (a.category = .base ↔ b.category = .base) → a.alignStartDate ≤ b.alignStartDate
  /-- those of one rank are listed as they are stored -/
  stable : ∀ k, listed.filter (·.rank == k) =
    (records.map (.rebuild · [] now)).filter (·.rank == k)

theorem listedBefore_iff {a b : Subscription} : a.listedBefore b = true ↔
    (b.category = .base → a.category = .base) ∧
      ((a.category = .base ↔ b.category = .base) → a.alignStartDate ≤ b.alignStartDate) := by
  unfold listedBefore
  by_cases ha : a.category = .base <;> by_cases hb : b.category = .base <;> simp [ha, hb]

/-- of one rank, each may stand before the other -/
theorem listedBefore_of_rank {a b : Subscription} (same : a.rank = b.rank) :
    a.listedBefore b = true := by
  unfold rank at same
  obtain ⟨kind, date⟩ := Prod.mk.inj same
  have kind : a.category = .base ↔ b.category = .base := by simpa using kind
  refine listedBefore_iff.2 ⟨kind.2, fun _ => ?_⟩
  rw [date]
  exact Instant.le_refl _

theorem listing_listed (records : List SubscriptionRecord) (now : Instant) :
    Listed records now (listing records now) := by
  have sorted : (listing records now).Pairwise (listedBefore · · = true) :=
    stableSort_sorted listedBefore_total listedBefore_trans _
  refine ⟨stableSort_perm _ _, ?_, ?_, ?_⟩
  · exact sorted.imp fun before => (listedBefore_iff.1 before).1
  · exact sorted.imp fun before => (listedBefore_iff.1 before).2
  · intro k
    unfold listing sortForListing
    rw [filter_stableSort listedBefore_total listedBefore_trans]
    refine stableSort_eq_self (List.pairwise_of_forall_mem_list ?_)
    intro a ha b hb
    have rank_a := beq_iff_eq.1 (List.mem_filter.1 ha).2
    have rank_b := beq_iff_eq.1 (List.mem_filter.1 hb).2
    exact listedBefore_of_rank (rank_a.trans rank_b.symm)

end Subscription

/-! ## one bundle after another -/

theorem nodup_eraseDups {α : Type} [BEq α] [LawfulBEq α] (l : List α) : l.eraseDups.Nodup := by
  match l with
  | [] => exact List.nodup_nil
  | a :: l =>
    rw [List.eraseDups_cons]
    refine List.nodup_cons.2 ⟨?_, nodup_eraseDups _⟩
    rw [List.mem_eraseDups, List.mem_filter]
    simp
termination_by l.length
decreasing_by exact Nat.lt_succ_of_le (List.length_filter_le _ _)

section
variable (records : List SubscriptionRecord)

theorem groupByBundle_keys : (groupByBundle records).map (·.1) =
    stableSort (fun a b => decide (a ≤ b)) (records.map (·.bundleId)).eraseDups := by
  unfold groupByBundle
  rw [List.map_map]
  exact List.map_id _

theorem nodup_groupByBundle : ((groupByBundle records).map (·.1)).Nodup := by
  rw [groupByBundle_keys]
  exact (stableSort_perm _ _).nodup_iff.2 (nodup_eraseDups _)

/-- there is a group for every bundle that has records -/
theorem mem_groupByBundle {id : Uuid} :
    id ∈ (groupByBundle records).map (·.1) ↔ ∃ r ∈ records, r.bundleId = id := by
  rw [groupByBundle_keys, mem_stableSort, List.mem_eraseDups, List.mem_map]

/-- and it holds those records, as they are stored -/
theorem snd_of_mem_groupByBundle {g : Uuid × List SubscriptionRecord}
    (h : g ∈ groupByBundle records) : g.2 = records.filter (·.bundleId == g.1) := by
  unfold groupByBundle at h
  obtain ⟨id, _, rfl⟩ := List.mem_map.1 h
  rfl

end

section
variable {s : Store} {account : Uuid}

theorem Store.mem_recordsForAccount {r : SubscriptionRecord} :
    r ∈ s.recordsForAccount account ↔
      r ∈ s.records ∧ ∃ b ∈ s.bundles, b.id = r.bundleId ∧ b.accountId = account := by
  unfold recordsForAccount bundlesForAccount
  rw [List.mem_filter, List.any_eq_true]
  refine and_congr_right fun _ => exists_congr fun b => ?_
  rw [List.mem_filter, beq_iff_eq, beq_iff_eq]
  tauto

/-- of a bundle of the account, no record is missed -/
theorem Store.filter_recordsForAccount {id : Uuid}
    (owned : ∃ b ∈ s.bundles, b.id = id ∧ b.accountId = account) :
    (s.recordsForAccount account).filter (·.bundleId == id) = s.recordsForBundle id := by
  unfold recordsForAccount recordsForBundle
  rw [List.filter_filter]
  refine List.filter_congr fun r _ => ?_
  rw [Bool.and_eq_left_iff_imp]
  intro home
  obtain ⟨b, hb, rfl, own⟩ := owned
  refine List.any_eq_true.2 ⟨b, List.mem_filter.2 ⟨hb, beq_iff_eq.2 own⟩, ?_⟩
  rw [beq_iff_eq.1 home]
  exact beq_self_eq_true _

end

/-! ## every run -/

namespace Service
variable (c : Catalog) (max : Nat) (cached : Bool)

/-- whatever is drawn, no method goes out of order in a run -/
theorem run_inOrder (turns : List Turn) : ((new c max cached).after turns).storage.InOrder := by
  have known : ((new c max cached).after turns).Knows := by
    refine after_induction (P := fun _ s => s.Knows) (knows_new c max cached) ?_
    intro earlier t _ knows
    exact handle_knows knows t.context t.ids t.request
  exact known.inOrder

theorem subscriptionsForBundle_answer {s : Service} (order : s.storage.InOrder) (ctx : Context)
    (id : Uuid) : (s.subscriptionsForBundle ctx id).1 =
      .ok (Subscription.listing (s.store.recordsForBundle id) ctx.now) := by
  show (liftM (s.storage.recordsForBundle id) >>= _) = _
  unfold Storage.recordsForBundle
  rw [order.read]
  rfl

theorem subscriptionsForAccount_answer {s : Service} (order : s.storage.InOrder) (ctx : Context) :
    (s.subscriptionsForAccount ctx).1 =
      .ok ((groupByBundle (s.store.recordsForAccount ctx.accountId)).map fun g =>
        (g.1, Subscription.listing g.2 ctx.now)) := by
  show (liftM (s.storage.recordsForAccount ctx.accountId) >>= _) = _
  unfold Storage.recordsForAccount
  rw [order.read]
  rfl

/-- an account's listing has one entry for each of its bundles with subscriptions, each as the bundle
is listed alone; and every bundle is listed whole and in order -/
theorem listings_agree (turns : List Turn) (ctx : Context) :
    let s := (new c max cached).after turns
    (∃ groups, (s.subscriptionsForAccount ctx).1 = .ok groups ∧ (groups.map (·.1)).Nodup ∧
      (∀ id, id ∈ groups.map (·.1) ↔
        (∃ b ∈ s.store.bundles, b.id = id ∧ b.accountId = ctx.accountId) ∧
          ∃ r ∈ s.store.records, r.bundleId = id) ∧
      ∀ g ∈ groups, (s.subscriptionsForBundle ctx g.1).1 = .ok g.2) ∧
    ∀ id, ∃ listed, (s.subscriptionsForBundle ctx id).1 = .ok listed ∧
      Subscription.Listed (s.store.records.filter (·.bundleId == id)) ctx.now listed := by
  intro s
  have order : s.storage.InOrder := run_inOrder c max cached turns
  have owned : ∀ id, id ∈ (groupByBundle (s.store.recordsForAccount ctx.accountId)).map (·.1) ↔
      (∃ b ∈ s.store.bundles, b.id = id ∧ b.accountId = ctx.accountId) ∧
        ∃ r ∈ s.store.records, r.bundleId = id := by
    intro id
    rw [mem_groupByBundle]
    constructor
    · rintro ⟨r, hr, rfl⟩
      obtain ⟨stored, owned⟩ := Store.mem_recordsForAccount.1 hr
      exact ⟨owned, r, stored, rfl⟩
    · rintro ⟨owned, r, stored, rfl⟩
      exact ⟨r, Store.mem_recordsForAccount.2 ⟨stored, owned⟩, rfl⟩
  refine ⟨⟨_, subscriptionsForAccount_answer order ctx, ?_, ?_, ?_⟩, ?_⟩
  · rw [List.map_map]
    exact nodup_groupByBundle _
  · intro id
    rw [List.map_map]
    exact owned id
  · intro g hg
    obtain ⟨group, member, rfl⟩ := List.mem_map.1 hg
    have mine := ((owned group.1).1 (List.mem_map_of_mem member)).1
    rw [subscriptionsForBundle_answer order, snd_of_mem_groupByBundle _ member,
      Store.filter_recordsForAccount mine]
  · intro id
    exact ⟨_, subscriptionsForBundle_answer order ctx id, Subscription.listing_listed _ _⟩

end Service

end SubscriptionBundles
