import Mathlib.Algebra.BigOperators.Group.List.Lemmas
import SubscriptionBundles.Metrics
import SubscriptionBundles.Proofs.Listings

/-!
# Sums of counters

Monitoring reads counters by their name and adds up those that agree in some of their labels.

* `Tally.sum`          the counters of a name that carry labels, added up;
* `Tally.sum_eq`       how many samples they count;
* `Mark`               what a sample says of the call that it was taken in, `Sample.mark?`;
* `Mark.carries_iff`   the counters that are added up for it;
* `Tally.sum_mark`     so their sum is how many samples say it.
-/

namespace SubscriptionBundles

/-! ## reading -/

/-- the counter has the name, and the labels among its own -/
def Series.carries (x : Series) (name : String) (labels : List (String × String)) : Bool :=
  x.name == name && labels.all x.labels.contains

namespace Tally

/-- the counters of the name that carry the labels, added up -/
def sum (t : Tally) (name : String) (labels : List (String × String)) : Nat :=
  ((t.report.filter fun row => row.1.series.carries name labels).map (·.2)).sum

theorem sum_eq (t : Tally) (name : String) (labels : List (String × String)) :
    t.sum name labels = t.countP fun s => s.series.carries name labels := by
  have same : t.eraseDups.Perm t.dedup := by
    refine (List.perm_ext_iff_of_nodup (nodup_eraseDups t) (List.nodup_dedup t)).2 fun s => ?_
    rw [List.mem_eraseDups, List.mem_dedup]
  rw [← List.sum_map_count_dedup_filter_eq_countP]
  unfold sum report
  rw [List.filter_map, List.map_map]
  exact ((same.filter _).map _).sum_eq

end Tally

/-! ## labels are told apart -/

namespace Method

def all : List Method :=
  [createBaseSubscriptionsWithAddOns, createBundleForAccount, updateExternalKey,
    getActiveBundleForKey, getBundlesForKey, getBundlesForAccount, getBundlesForAccountAndKey,
    getBundles, searchBundles, getNonAddOnSubscriptionIdsForKey, getSubscriptionFromId,
    getSubscriptionsForBundle, getSubscriptionsForAccount, getBaseSubscription, getBundleFromId,
    getAccountIdFromBundleId, getBundleIdFromSubscriptionId, getAccountIdFromSubscriptionId,
    cancelBaseSubscriptions, updateBillCycleDay, setChargedThroughDate,
    simulateSubscriptionsForBundle, getDryRunChangePlanEffectiveDate, getDryRunChangePlanStatus]

theorem mem_all (m : Method) : m ∈ all := by cases m <;> decide

@[simp] theorem label_inj {m n : Method} : m.label = n.label ↔ m = n := by
  have distinct : (all.map label).Nodup := by decide +kernel
  exact ⟨fun same => List.inj_on_of_nodup_map distinct (mem_all m) (mem_all n) same, congrArg label⟩

end Method

@[simp] theorem Operation.label_inj {o p : Operation} : o.label = p.label ↔ o = p := by
  refine ⟨fun same => ?_, congrArg label⟩
  cases o <;> cases p <;> first | rfl | exact absurd same (by decide)

@[simp] theorem CallStatus.label_inj {a b : CallStatus} : a.label = b.label ↔ a = b := by
  refine ⟨fun same => ?_, congrArg label⟩
  cases a <;> cases b <;> first | rfl | exact absurd same (by decide)

@[simp] theorem Lookup.label_inj {a b : Lookup} : a.label = b.label ↔ a = b := by
  refine ⟨fun same => ?_, congrArg label⟩
  cases a <;> cases b <;> first | rfl | exact absurd same (by decide)

/-! ## what a sample says of a call -/

/-- how the call ended, that it was a dry run, or that it looked something up -/
inductive Mark
  | request (method : Method) (status : CallStatus)
  | failure (method : Method)
  | dryRun
  | lookup (lookup : Lookup)
deriving DecidableEq

namespace Mark

def name : Mark → String
  | request _ _ => "subscription_api_requests_total"
  | failure _ => "subscription_errors_total"
  | dryRun => "subscription_dry_runs_total"
  | lookup _ => "subscription_identity_cache_lookups_total"

def labels : Mark → List (String × String)
  | request m s => [("method", m.label), ("status", s.label)]
  | failure m => [("method", m.label)]
  | dryRun => []
  | lookup l => [("lookup", l.label)]

end Mark

/-- not which error it was, which action, or what came of the lookup -/
def Sample.mark? : Sample → Option Mark
  | request m s => some (.request m s)
  | failure _ m => some (.failure m)
  | dryRun _ => some .dryRun
  | identityLookup l _ => some (.lookup l)
  | operation _ | duration _ => none

theorem Mark.carries_iff (x : Mark) (s : Sample) :
    s.series.carries x.name x.labels = true ↔ s.mark? = some x := by
  rw [eq_comm (b := some x)]
  cases x <;> cases s <;>
    simp [Series.carries, Sample.series, Sample.mark?, Mark.name, Mark.labels]

namespace Tally
variable (t : Tally)

theorem sum_mark (x : Mark) : t.sum x.name x.labels = (t.filterMap Sample.mark?).count x := by
  rw [sum_eq, List.count, List.countP_filterMap]
  refine List.countP_congr fun s _ => ?_
  rw [x.carries_iff s]
  cases s.mark? with
  | none => simp
  | some y => simp

/-- two errors of one kind and one of another, all of one method -/
example : sum [.failure "store" .getBundles, .failure "catalog" .getBundles, .duration .getBundles,
    .failure "store" .getBundles, .failure "store" .searchBundles]
    "subscription_errors_total" [("method", "get_bundles")] = 3 := by decide +kernel

theorem sum_operation (o : Operation) :
    t.sum "subscription_operations_total" [("operation", o.label)] = t.times (.operation o) := by
  rw [sum_eq]
  refine List.countP_congr fun s _ => ?_
  rw [beq_iff_eq, eq_comm (b := Sample.operation o)]
  cases s <;> simp [Series.carries, Sample.series]

end Tally

end SubscriptionBundles
