import SubscriptionBundles.Proofs.CountedCalls
import SubscriptionBundles.Proofs.CountedChanges

/-!
# Counters

The books are kept over every run: what is stored has been counted as it was stored, and every call,
every failure, every simulation and every lookup has been counted once.

* `Service.Reconciled`           the counters, as monitoring reads them, agree with the store and with
                                 the calls;
* `Service.counters_reconcile`   they do after every run.
-/

namespace SubscriptionBundles

open Service (Turn)

namespace Service

/-- the counters agree with what is stored and with the calls that were made -/
structure Reconciled (s : Service) (calls : List Call) : Prop where
  created : s.tally.sum "subscription_operations_total" [("operation", "create")] =
    s.store.records.length
  opened : s.tally.sum "subscription_operations_total" [("operation", "create_bundle")] =
    s.store.bundles.length
  cancelled : s.tally.sum "subscription_operations_total" [("operation", "cancel")] =
    (s.store.records.flatMap (·.events)).countP (·.kind = .cancel)
  rebilled : s.tally.sum "subscription_operations_total" [("operation", "update_bcd")] =
    (s.store.records.flatMap (·.events)).countP (·.isBillCycleDayChange)
  requests : ∀ m : Method,
    s.tally.sum "subscription_api_requests_total" [("method", m.label), ("status", "ok")] +
      s.tally.sum "subscription_api_requests_total" [("method", m.label), ("status", "error")] =
        calls.countP fun c => c.request.method = m
  failed : ∀ m : Method,
    s.tally.sum "subscription_api_requests_total" [("method", m.label), ("status", "error")] =
      calls.countP fun c => c.request.method = m ∧ c.isFailure = true
  /-- over all kinds of errors -/
  failures : ∀ m : Method, s.tally.sum "subscription_errors_total" [("method", m.label)] =
    s.tally.sum "subscription_api_requests_total" [("method", m.label), ("status", "error")]
  /-- over all actions -/
  dryRuns : s.tally.sum "subscription_dry_runs_total" [] = calls.countP Call.isDryRun
  /-- whatever came of them -/
  lookups : ∀ l : Lookup,
    s.tally.sum "subscription_identity_cache_lookups_total" [("lookup", l.label)] =
      (calls.flatMap Call.lookups).count l

section
variable (c : Catalog) (max : Nat) (cached : Bool) (turns : List Turn)

theorem run_balanced : ((new c max cached).run turns).2.Balanced := by
  have kept : ((new c max cached).after turns).Knows ∧ ((new c max cached).after turns).Balanced := by
    refine after_induction (P := fun _ s => s.Knows ∧ s.Balanced)
      ⟨knows_new c max cached, balanced_new c max cached⟩ ?_
    intro earlier t _ held
    obtain ⟨knows, balanced⟩ := held
    exact ⟨handle_knows knows t.context t.ids t.request,
      handle_balanced knows.inOrder balanced t.context t.ids t.request⟩
  exact kept.2

/-- a counter of calls is what the calls have left in it -/
theorem run_sum (x : Mark) :
    ((new c max cached).run turns).2.tally.sum x.name x.labels =
      (((new c max cached).calls turns).flatMap Call.marks).count x := by
  have left := (new c max cached).run_marks turns
  have order := (List.reverse_perm ((new c max cached).calls turns)).flatMap_right Call.marks
  rw [Tally.sum_mark]
  refine (congrArg (List.count x) left).trans ?_
  rw [List.count_append, order.count_eq]
  rfl

end

/-- one lookup adds one to the counters of its kind -/
theorem sum_identify (s : Service) (lookup other : Lookup) (id : Uuid) :
    (s.identify lookup id).2.tally.sum "subscription_identity_cache_lookups_total"
        [("lookup", other.label)] =
      s.tally.sum "subscription_identity_cache_lookups_total" [("lookup", other.label)] +
        if lookup = other then 1 else 0 := by
  have after := (s.identify lookup id).2.tally.sum_mark (.lookup other)
  have before := s.tally.sum_mark (.lookup other)
  have left : (s.identify lookup id).2.tally.filterMap Sample.mark? =
    .lookup lookup :: s.tally.filterMap Sample.mark? := rfl
  rw [left, List.count_cons, ← before] at after
  refine after.trans ?_
  simp [Mark.name, Mark.labels]

/-- After every run from the empty store the counters reconcile with what is stored and with the
calls that were made, and every lookup adds one to the counters of its own kind alone. -/
theorem counters_reconcile (c : Catalog) (max : Nat) (cached : Bool) (turns : List Turn) :
    let first := new c max cached
    (first.run turns).2.Reconciled (first.calls turns) ∧
      (first.calls turns).map (·.request) = turns.map (·.request) ∧
      (first.calls turns).map (·.answer) = (first.run turns).1 ∧
      ∀ (s : Service) (lookup other : Lookup) (id : Uuid),
        (s.identify lookup id).2.tally.sum "subscription_identity_cache_lookups_total"
            [("lookup", other.label)] =
          s.tally.sum "subscription_identity_cache_lookups_total" [("lookup", other.label)] +
            if lookup = other then 1 else 0 := by
  intro first
  have balanced := run_balanced c max cached turns
  have sums := run_sum c max cached turns
  obtain ⟨requests, answers⟩ := first.calls_spec turns
  refine ⟨?_, requests, answers, sum_identify⟩
  constructor
  case created => exact (Tally.sum_operation _ .create).trans (balanced .records)
  case opened => exact (Tally.sum_operation _ .createBundle).trans (balanced .bundles)
  case cancelled => exact (Tally.sum_operation _ .cancel).trans (balanced .cancellations)
  case rebilled => exact (Tally.sum_operation _ .updateBillCycleDay).trans (balanced .billingDays)
  case requests =>
    intro m
    have ok := sums (.request m .ok)
    have error := sums (.request m .error)
    exact (congrArg₂ (· + ·) ok error).trans (count_requests _ m)
  case failed => exact fun m => (sums (.request m .error)).trans (count_failed _ m)
  case failures =>
    intro m
    exact (sums (.failure m)).trans ((count_failures _ m).trans (sums (.request m .error)).symm)
  case dryRuns => exact (sums .dryRun).trans (count_dryRuns _)
  case lookups => exact fun l => (sums (.lookup l)).trans (count_lookups _ l)

end Service

end SubscriptionBundles
