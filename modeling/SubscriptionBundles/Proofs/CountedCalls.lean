import Mathlib.Data.List.Count
import SubscriptionBundles.Proofs.CachedIdentities
import SubscriptionBundles.Proofs.Runs
import SubscriptionBundles.Proofs.SummedCounters

/-!
# Counted calls

Whatever becomes of a call, it is counted once, its failure once, and so is each lookup that it makes
on the way.

* `Call`                      a request with what was answered to it, `Call.marks` what it leaves;
* `Service.calls`             the calls of a run;
* `Service.perform_unmarked`  changes that were decided on are counted as operations only;
* `Service.handle_marks`      a call leaves its marks and no others;
* `Service.run_marks`         so a run leaves those of its calls;
* `count_requests`, `count_failures`, `count_dryRuns`, `count_lookups`  how many there are of each.
-/

namespace SubscriptionBundles

open Service (Turn)

/-! ## calls -/

/-- a request with what was answered to it -/
structure Call where
  request : Request
  answer : Except SubscriptionError Answer

/-- how a call of a method ended -/
def statusMarks {α : Type} (m : Method) : Except SubscriptionError α → List Mark
  | .ok _ => [.request m .ok]
  | .error _ => [.failure m, .request m .error]

namespace Call

def isFailure (c : Call) : Bool :=
  match c.answer with
  | .ok _ => false
  | .error _ => true

/-- a bundle was simulated -/
def isDryRun (c : Call) : Bool :=
  match c.request, c.answer with
  | .simulate _ _, .ok _ => true
  | _, _ => false

/-- the account of a subscription is that of its bundle, and looked up only if there is one -/
def lookups (c : Call) : List Lookup :=
  match c.request with
  | .accountOfBundle _ => [.bundleToAccount]
  | .bundleOfSubscription _ => [.subscriptionToBundle]
  | .accountOfSubscription _ =>
    match c.answer with
    | .error (.noBundleForSubscription _) => [.subscriptionToBundle]
    | _ => [.bundleToAccount, .subscriptionToBundle]
  | _ => []

/-- what a call leaves in the counters, apart from its operations, the latest first -/
def marks (c : Call) : List Mark :=
  statusMarks c.request.method c.answer ++
    ((if c.isDryRun then [.dryRun] else []) ++ c.lookups.map .lookup)

end Call

namespace Service

def calls (s : Service) (turns : List Turn) : List Call :=
  List.zipWith (fun t answer => ⟨t.request, answer⟩) turns (s.run turns).1

theorem calls_cons (s : Service) (t : Turn) (rest : List Turn) :
    s.calls (t :: rest) = ⟨t.request, (s.turn t).1⟩ :: (s.turn t).2.calls rest := rfl

/-- a call for each turn, with the answer to it -/
theorem calls_spec (s : Service) (turns : List Turn) :
    (s.calls turns).map (·.request) = turns.map (·.request) ∧
      (s.calls turns).map (·.answer) = (s.run turns).1 := by
  induction turns generalizing s with
  | nil => exact ⟨rfl, rfl⟩
  | cons t rest ih =>
    obtain ⟨requests, answers⟩ := ih (s.turn t).2
    rw [calls_cons]
    exact ⟨congrArg (List.cons _) requests, congrArg (List.cons _) answers⟩

def marks (s : Service) : List Mark := s.tally.filterMap Sample.mark?

/-! ## what is left of a call -/

theorem marks_count (s : Service) (samples : List Sample) :
    (s.count samples).marks = samples.filterMap Sample.mark? ++ s.marks := List.filterMap_append

section
variable {α β : Type} (m : Method)

theorem statusMarks_map (f : α → β) (answer : Except SubscriptionError α) :
    statusMarks m (answer.map f) = statusMarks m answer := by cases answer <;> rfl

theorem marks_observe (o : Outcome α) :
    (observe m o).2.marks = statusMarks m o.1 ++ o.2.marks := by
  obtain ⟨answer, s⟩ := o
  cases answer <;> rfl

end

end Service

def Effect.mark? : Effect → Option Mark
  | .count sample => sample.mark?
  | .write _ | .learn _ _ _ => none

namespace Service

theorem perform_unmarked {effects : List Effect} (unmarked : ∀ e ∈ effects, e.mark? = none)
    (s : Service) : (s.perform effects).2.marks = s.marks := by
  induction effects generalizing s with
  | nil => rfl
  | cons e rest ih =>
    have ih := ih fun e' he => unmarked e' (List.mem_cons_of_mem e he)
    cases e with
    | write w =>
      unfold perform
      split
      · exact ih _
      · rfl
    | learn lookup id value => exact ih _
    | count sample =>
      have own : sample.mark? = none := unmarked _ List.mem_cons_self
      refine (ih _).trans ((s.marks_count [sample]).trans ?_)
      rw [List.filterMap_cons_none own]
      rfl

theorem marks_carryOut {α : Type} (m : Method) {decision : Except SubscriptionError (Decision α)}
    (unmarked : ∀ d, decision = .ok d → ∀ e ∈ d.effects, e.mark? = none) (s : Service) :
    (s.carryOut m decision).2.marks = statusMarks m (s.carryOut m decision).1 ++ s.marks := by
  cases decision with
  | error e => exact marks_observe m _
  | ok d =>
    refine (marks_observe m (s.enact d)).trans ?_
    rw [enact_snd, perform_unmarked (unmarked d rfl)]
    rfl

end Service

/-! ## operations -/

theorem PlannedBundle.unmarked (p : PlannedBundle) (now : Instant) :
    ∀ e ∈ p.effects now, e.mark? = none := by
  intro e he
  rcases List.mem_append.1 he with renamed | opened
  · obtain ⟨_, _, rfl⟩ := List.mem_map.1 renamed
    rfl
  · simp only [List.mem_cons, List.not_mem_nil, or_false] at opened
    rcases opened with rfl | rfl | rfl <;> rfl

theorem PlannedBatch.unmarked (b : PlannedBatch) (now : Instant) :
    ∀ e ∈ b.effects now, e.mark? = none := by
  intro e he
  rcases List.mem_append.1 he with opened | written
  · cases target : b.target with
    | existing _ =>
      rw [target] at opened
      cases opened
    | new planned =>
      rw [target] at opened
      exact planned.unmarked now e opened
  · rcases List.mem_cons.1 written with rfl | counted
    · rfl
    · obtain ⟨r, _, counted⟩ := List.mem_flatMap.1 counted
      rcases List.mem_pair.1 counted with rfl | rfl <;> rfl

theorem Sweep.unmarked (w : Sweep) : ∀ e ∈ w.effects, e.mark? = none := by
  intro e he
  rcases List.mem_append.1 he with counted | written
  · obtain ⟨_, _, rfl⟩ := List.mem_map.1 counted
    rfl
  · split at written
    · cases written
    · rw [List.mem_singleton.1 written]
      rfl

theorem unmarked_pair (w : Write) (o : Operation) :
    ∀ e ∈ [Effect.write w, .count (.operation o)], e.mark? = none := by
  simp [Effect.mark?, Sample.mark?]

namespace Service
variable (s : Service) (ctx : Context) (ids : Nat → Uuid)

/-! ## lookups -/

theorem marks_requireIdentity (lookup : Lookup) (id : Uuid) (missing : SubscriptionError) :
    (s.requireIdentity lookup id missing).2.marks = .lookup lookup :: s.marks := by
  rw [requireIdentity_snd]
  rfl

/-- the second lookup is made if the first one finds something -/
theorem marks_accountOfSubscription (id : Uuid) :
    let o := s.handle ctx ids (.accountOfSubscription id)
    o.2.marks = (Call.mk (.accountOfSubscription id) o.1).marks ++ s.marks := by
  show ((s.accountOfSubscription id).map Answer.id).2.marks =
    (Call.mk _ ((s.accountOfSubscription id).map Answer.id).1).marks ++ _
  unfold accountOfSubscription requireIdentity
  have first : (s.identify .subscriptionToBundle id).2.marks =
    .lookup .subscriptionToBundle :: s.marks := rfl
  generalize s.identify .subscriptionToBundle id = o at *
  obtain ⟨found, after⟩ := o
  cases found with
  | none =>
    refine (marks_observe _ _).trans ?_
    rw [first]
    rfl
  | some bundle =>
    have second : (after.identify .bundleToAccount bundle).2.marks =
      .lookup .bundleToAccount :: after.marks := rfl
    dsimp only
    -- whatever it finds, an error of the second lookup is not one of the first
    generalize after.identify .bundleToAccount bundle = o at *
    obtain ⟨found, last⟩ := o
    refine (marks_observe _ _).trans ?_
    cases found with
    | none | some _ =>
      rw [second, first]
      rfl

/-! ## requests -/

/-- a call that is no simulation, with the lookups that it makes whatever comes of them -/
theorem marks_of_lookups {α : Type} {o : Outcome α} {f : α → Answer} {request : Request}
    (looked : List Lookup) (plain : ∀ answer, (Call.mk request answer).isDryRun = false ∧
      (Call.mk request answer).lookups = looked)
    (ended : o.2.marks = statusMarks request.method o.1 ++ (looked.map .lookup ++ s.marks)) :
    (o.map f).2.marks = (Call.mk request (o.map f).1).marks ++ s.marks := by
  obtain ⟨stored, known⟩ := plain (o.map f).1
  unfold Call.marks
  rw [stored, known, List.append_assoc]
  refine ended.trans ?_
  exact congrArg (· ++ _) (statusMarks_map _ f o.1).symm

theorem marks_of_requireIdentity (m : Method) (lookup : Lookup) (id : Uuid)
    (missing : SubscriptionError) :
    let o := observe m (s.requireIdentity lookup id missing)
    o.2.marks = statusMarks m o.1 ++ ([lookup].map .lookup ++ s.marks) := by
  refine (marks_observe m _).trans ?_
  rw [marks_requireIdentity]
  rfl

theorem unmarked_of_isPlain {request : Request} (h : request.isPlain = true)
    (answer : Except SubscriptionError Answer) :
    (Call.mk request answer).isDryRun = false ∧ (Call.mk request answer).lookups = [] := by
  cases request with
  | simulate _ _ | accountOfBundle _ | bundleOfSubscription _ | accountOfSubscription _ => cases h
  | _ => exact ⟨rfl, rfl⟩

section
variable {s ctx ids} {request : Request} {effects : List Effect}

theorem Decides.unmarked (h : s.Decides ctx ids request effects) :
    ∀ e ∈ effects, e.mark? = none := by
  cases h with
  | create _ =>
    intro e he
    obtain ⟨b, _, he⟩ := List.mem_flatMap.1 he
    exact b.unmarked ctx.now e he
  | createBundle p => exact p.unmarked ctx.now
  | cancel _ => exact Sweep.unmarked _
  | updateExternalKey _ _ | updateBillCycleDay _ _ | setChargedThrough _ _ =>
    exact unmarked_pair _ _

end

/-- a call leaves its marks and no others -/
theorem handle_marks (request : Request) :
    let o := s.handle ctx ids request
    o.2.marks = (Call.mk request o.1).marks ++ s.marks := by
  have handled := s.handle_handled ctx ids request
  generalize s.handle ctx ids request = o at handled
  cases handled with
  | read plain _ _ =>
    exact marks_of_lookups s [] (unmarked_of_isPlain plain) (marks_observe _ _)
  | accountOfBundle id =>
    exact marks_of_lookups s [.bundleToAccount] (fun _ => ⟨rfl, rfl⟩)
      (marks_of_requireIdentity s _ _ _ _)
  | bundleOfSubscription id =>
    exact marks_of_lookups s [.subscriptionToBundle] (fun _ => ⟨rfl, rfl⟩)
      (marks_of_requireIdentity s _ _ _ _)
  | accountOfSubscription id => exact marks_accountOfSubscription s ctx ids id
  | decided plain decides _ =>
    exact marks_of_lookups s [] (unmarked_of_isPlain plain)
      (marks_carryOut _ (fun d hd => (decides d hd).unmarked) s)
  | @simulated _ _ decision counts =>
    -- a simulation that comes to an end is counted as one
    cases decision with
    | error e => rfl
    | ok d =>
      obtain ⟨shown, rfl⟩ := counts d rfl
      rfl

/-- the marks of the last call come first -/
theorem run_marks (turns : List Turn) :
    (s.run turns).2.marks = (s.calls turns).reverse.flatMap Call.marks ++ s.marks := by
  induction turns generalizing s with
  | nil => rfl
  | cons t rest ih =>
    refine (ih _).trans ?_
    rw [calls_cons, List.reverse_cons, List.flatMap_append, List.append_assoc]
    refine congrArg _ ((handle_marks s t.context t.ids t.request).trans ?_)
    rw [List.flatMap_singleton]
    rfl

end Service

/-! ## totals -/

namespace Call
variable (c : Call)

theorem count_marks (x : Mark) : c.marks.count x =
    (statusMarks c.request.method c.answer).count x +
      ((if c.isDryRun then [Mark.dryRun] else []).count x +
        (c.lookups.map Mark.lookup).count x) := by
  unfold marks
  rw [List.count_append, List.count_append]

theorem count_map_lookup {x : Mark} (other : ∀ l, Mark.lookup l ≠ x) (lookups : List Lookup) :
    (lookups.map Mark.lookup).count x = 0 := by
  rw [List.count_eq_zero, List.mem_map]
  intro given
  obtain ⟨l, _, same⟩ := given
  exact other l same

theorem count_request (m : Method) :
    c.marks.count (.request m .ok) + c.marks.count (.request m .error) =
      if c.request.method = m then 1 else 0 := by
  rw [count_marks, count_marks, count_map_lookup (by simp), count_map_lookup (by simp)]
  cases c.answer <;> cases c.isDryRun <;> simp [statusMarks, List.count_cons]

theorem count_failed (m : Method) : c.marks.count (.request m .error) =
    if c.request.method = m ∧ c.isFailure = true then 1 else 0 := by
  rw [count_marks, count_map_lookup (by simp)]
  unfold isFailure
  cases c.answer <;> cases c.isDryRun <;> simp [statusMarks, List.count_cons]

theorem count_failure (m : Method) :
    c.marks.count (.failure m) = c.marks.count (.request m .error) := by
  rw [count_marks, count_marks, count_map_lookup (by simp), count_map_lookup (by simp)]
  cases c.answer <;> cases c.isDryRun <;> simp [statusMarks, List.count_cons]

theorem count_dryRun : c.marks.count .dryRun = if c.isDryRun then 1 else 0 := by
  rw [count_marks, count_map_lookup (by simp)]
  cases c.answer <;> cases c.isDryRun <;> simp [statusMarks]

theorem count_lookup (l : Lookup) : c.marks.count (.lookup l) = c.lookups.count l := by
  have injective : Function.Injective Mark.lookup := fun a b same => by cases same; rfl
  rw [count_marks, List.count_map_of_injective _ _ injective]
  cases c.answer <;> cases c.isDryRun <;> simp [statusMarks]

end Call

section
variable (calls : List Call)

theorem count_requests (m : Method) :
    (calls.flatMap Call.marks).count (.request m .ok) +
      (calls.flatMap Call.marks).count (.request m .error) =
        calls.countP fun c => c.request.method = m := by
  induction calls with
  | nil => rfl
  | cons c rest ih =>
    have own := c.count_request m
    simp only [List.flatMap_cons, List.count_append, List.countP_cons, decide_eq_true_eq]
    omega

theorem count_failed (m : Method) :
    (calls.flatMap Call.marks).count (.request m .error) =
      calls.countP fun c => c.request.method = m ∧ c.isFailure = true := by
  induction calls with
  | nil => rfl
  | cons c rest ih =>
    have own := c.count_failed m
    simp only [List.flatMap_cons, List.count_append, List.countP_cons, decide_eq_true_eq]
    omega

theorem count_failures (m : Method) :
    (calls.flatMap Call.marks).count (.failure m) =
      (calls.flatMap Call.marks).count (.request m .error) := by
  rw [List.count_flatMap, List.count_flatMap]
  exact congrArg List.sum (List.map_congr_left fun c _ => c.count_failure m)

theorem count_dryRuns :
    (calls.flatMap Call.marks).count .dryRun = calls.countP Call.isDryRun := by
  induction calls with
  | nil => rfl
  | cons c rest ih =>
    rw [List.flatMap_cons, List.count_append, List.countP_cons, c.count_dryRun, ih, Nat.add_comm]

theorem count_lookups (l : Lookup) :
    (calls.flatMap Call.marks).count (.lookup l) = (calls.flatMap Call.lookups).count l := by
  rw [List.count_flatMap, List.count_flatMap]
  exact congrArg List.sum (List.map_congr_left fun c _ => c.count_lookup l)

end

end SubscriptionBundles
