import Mathlib.Data.List.Forall2
import Mathlib.Logic.Equiv.Fintype
import SubscriptionBundles.Proofs.Disturbances

/-!
# One call and several

A creation of several specifiers against one call for each of them, in the same context.

* `exists_renaming`                  identifiers that are drawn in one case renamed to the others;
* `BundleSpecifier.draws`            how many identifiers a specifier draws;
* `drawnBy`                          what calls of their own draw;
* `Service.run_apart`                undisturbed specifiers come to the same in calls of their own.
-/

namespace SubscriptionBundles

open Service (Turn)

/-! ## renaming what is drawn -/

theorem exists_perm_map_eq {α : Type} {l l' : List α} (h : l.Nodup) (h' : l'.Nodup)
    (len : l.length = l'.length) : ∃ σ : Equiv.Perm α, l.map σ = l' := by
  obtain ⟨σ, hσ⟩ := Equiv.Perm.exists_extending_pair (fun i : Fin l.length => l[i])
    (fun i => l'[i.cast len]) (List.nodup_iff_injective_get.1 h)
    ((List.nodup_iff_injective_get.1 h').comp (Fin.cast_injective len))
  refine ⟨σ, List.ext_getElem (by rw [List.length_map, len]) ?_⟩
  intro i hi hi'
  rw [List.getElem_map]
  exact hσ ⟨i, by rwa [List.length_map] at hi⟩

/-- some names stay, the others become what is asked for -/
theorem exists_renaming (kept : List Uuid) {l l' : List Uuid} (h : l.Nodup) (h' : l'.Nodup)
    (len : l.length = l'.length) (apart : ∀ id ∈ kept, id ∉ l) (apart' : ∀ id ∈ kept, id ∉ l') :
    ∃ σ : Equiv.Perm Uuid, (∀ id ∈ kept, σ id = id) ∧ l.map σ = l' := by
  have joined : ∀ {m : List Uuid}, m.Nodup → (∀ id ∈ kept, id ∉ m) → (kept.dedup ++ m).Nodup := by
    intro m hm out
    refine List.nodup_append.2 ⟨List.nodup_dedup kept, hm, ?_⟩
    rintro id old _ new rfl
    exact out id (List.mem_dedup.1 old) new
  obtain ⟨σ, hσ⟩ := exists_perm_map_eq (joined h apart) (joined h' apart')
    (by rw [List.length_append, List.length_append, len])
  rw [List.map_append] at hσ
  obtain ⟨stays, moves⟩ := List.append_inj hσ (List.length_map _)
  refine ⟨σ, ?_, moves⟩
  intro id hid
  exact List.map_inj_left.1 (stays.trans (List.map_id _).symm) id (List.mem_dedup.2 hid)

/-! ## what is drawn -/

/-- how many identifiers a specifier draws: one for a new bundle, one for each plan -/
def BundleSpecifier.draws (c : Catalog) (spec : BundleSpecifier) : Nat :=
  (if spec.bundleId = none ∧ 0 < spec.anchors c then 1 else 0) +
    spec.entitlements.countP (·.plan.isSome)

theorem BundleSpecifier.draws_le (c : Catalog) (spec : BundleSpecifier) :
    spec.draws c ≤ spec.mayDraw := by
  unfold draws mayDraw
  split <;> omega

theorem draws_of_isEmpty {c : Catalog} {spec : BundleSpecifier} {batch : Batch}
    (classified : Batch.classify c spec.entitlements = .ok batch) (empty : batch.isEmpty = true) :
    spec.draws c = 0 := by
  unfold BundleSpecifier.draws
  rw [anchors_eq_zero classified empty, ← Batch.classify_length classified,
    Batch.entitlements_of_isEmpty empty]
  simp

/-- what calls of their own draw for their specifiers -/
def drawnBy (c : Catalog) : List BundleSpecifier → List Turn → List Uuid
  | spec :: rest, u :: later => (List.range (spec.draws c)).map u.ids ++ drawnBy c rest later
  | _, _ => []

/-- the same identifiers as one call, one after another -/
theorem drawnBy_cons_inj {c : Catalog} {ids : Nat → Uuid} {drawn : Nat} {spec : BundleSpecifier}
    {rest : List BundleSpecifier} {u : Turn} {later : List Turn}
    (h : (List.range' drawn ((spec :: rest).map (·.draws c)).sum).map ids =
      drawnBy c (spec :: rest) (u :: later)) :
    (∀ i < spec.draws c, u.ids i = ids (drawn + i)) ∧
      (List.range' (drawn + spec.draws c) (rest.map (·.draws c)).sum).map ids =
        drawnBy c rest later := by
  rw [List.map_cons, List.sum_cons, ← List.range'_append_1, List.map_append] at h
  obtain ⟨first, others⟩ := List.append_inj h (by simp)
  refine ⟨?_, others⟩
  intro i hi
  have same := congrArg (·[i]?) first
  simpa [hi, eq_comm] using same

section
variable {s : Service} {ctx : Context} {c : Catalog} {ids : Nat → Uuid} {rename : Bool}
  {p q r : Progress} {spec : BundleSpecifier} {batch : Batch} {b : PlannedBatch}

theorem Planned.draws_eq (order : s.storage.InOrder)
    (here : Planned s ctx c ids rename p spec batch b) :
    b.target.drawn + batch.entitlements.length = spec.draws c := by
  have aim := here.aim order
  unfold BundleSpecifier.draws
  rw [Batch.classify_length here.classified, ← here.anchors_eq]
  generalize b.target = target at aim
  congr 1
  cases aim with
  | named named =>
    rw [if_neg]
    · rfl
    · rw [named]
      exact fun h => nomatch h.1
  | new unnamed brings =>
    rw [if_pos ⟨unnamed, brings⟩]
    rfl
  | keyed unnamed plain =>
    rw [if_neg]
    · rfl
    · rw [plain]
      exact fun h => Nat.lt_irrefl 0 h.2

theorem PlannedAll.append {specs more : List BundleSpecifier} {bs later : List PlannedBatch}
    (all : PlannedAll s ctx c ids rename p specs bs q)
    (others : PlannedAll s ctx c ids rename q more later r) :
    PlannedAll s ctx c ids rename p (specs ++ more) (bs ++ later) r := by
  induction all with
  | nil p => exact others
  | skip classified empty _ ih => exact .skip classified empty (ih others)
  | plan here _ ih => exact .plan here (ih others)

end

namespace Store.Takes
variable {s : Store} {now : Instant} {bs later : List PlannedBatch}

theorem nil (sound : s.Sound) : s.Takes [] := by
  refine ⟨List.forall_mem_nil _, ?_, ?_, List.forall_mem_nil _, List.forall_mem_nil _⟩
  · simpa using sound.bundles
  · simpa using sound.records

theorem initial (h : s.Takes (bs ++ later)) : s.Takes bs := by
  have here : ∀ b ∈ bs, b ∈ bs ++ later := fun b hb => List.mem_append_left _ hb
  refine ⟨fun b hb => h.renames b (here b hb), ?_, ?_, fun b hb => h.homes b (here b hb),
    fun b hb => h.within b (here b hb)⟩
  · have all := h.bundles
    rw [List.filterMap_append, List.map_append, ← List.append_assoc] at all
    exact (List.nodup_append.1 all).1
  · have all := h.records
    rw [List.flatMap_append, List.map_append, ← List.append_assoc] at all
    exact (List.nodup_append.1 all).1

theorem commit_append (h : s.Takes (bs ++ later)) :
    (s.commit now bs).commit now later = s.commit now (bs ++ later) := by
  induction bs generalizing s with
  | nil => rw [commit_nil]; rfl
  | cons b bs ih =>
    rw [← h.initial.commit_cons, ih h.tail]
    exact h.commit_cons

end Store.Takes

/-! ## calls of their own -/

/-- one call for each specifier, all of them in one context -/
def CallsFor (ctx : Context) (rename : Bool) (specs : List BundleSpecifier) (parts : List Turn) :
    Prop :=
  List.Forall₂ (fun spec u => u.context = ctx ∧ u.request = .create [spec] rename) specs parts

namespace Service
variable {c : Catalog} {max : Nat} {cached : Bool}

/-- every turn of a row is answered -/
def Answers (s : Service) (turns : List Turn) : Prop := ∀ a ∈ (s.run turns).1, a.isOk = true

instance (s : Service) (turns : List Turn) : Decidable (s.Answers turns) :=
  inferInstanceAs (Decidable (∀ a ∈ (s.run turns).1, a.isOk = true))

theorem answers_cons {s : Service} {t : Turn} {rest : List Turn} :
    s.Answers (t :: rest) ↔ (s.turn t).1.isOk = true ∧ (s.turn t).2.Answers rest :=
  List.forall_mem_cons

section
variable {past : List Turn} {u : Turn} (distinct : DistinctIds (past ++ [u])) {spec : BundleSpecifier}
  {rename : Bool} (request : u.request = .create [spec] rename) {bs : List PlannedBatch}
  {q : Progress}
include distinct request

/-- a call of one specifier that is let through -/
theorem turn_of_planned
    (all : PlannedAll ((new c max cached).after past) u.context c u.ids rename .start [spec] bs q) :
    (((new c max cached).after past).turn u).1.isOk = true ∧
      ((new c max cached).after (past ++ [u])).store =
        ((new c max cached).after past).store.commit u.context.now bs := by
  obtain ⟨serves, sound, fresh⟩ := reached c max cached distinct (List.prefix_refl _)
  rw [after_concat]
  obtain ⟨ctx, draws, _⟩ := u
  obtain rfl := request
  obtain ⟨answer, left⟩ := create_of_planned serves sound fresh all
  refine ⟨?_, left⟩
  show Except.isOk (handle _ _ _ _).1 = true
  rw [answer]
  rfl

end

section
variable {s : Service} (order : s.storage.InOrder) (sound : s.store.Sound) (on : s.store.OnPlans c)
  (keys : s.maxKeyLength = max) {ctx : Context} {ids : Nat → Uuid} {rename : Bool}
include order sound on keys

/-- specifiers that earlier ones do not disturb come to the same in calls of their own -/
theorem run_apart {rest : List BundleSpecifier} {parts : List Turn}
    (calls : CallsFor ctx rename rest parts) {past : List Turn} (distinct : DistinctIds (past ++ parts))
    {done : List BundleSpecifier} {bs more : List PlannedBatch} {p q : Progress}
    (all : PlannedAll s ctx c ids rename .start done bs p)
    (left : ((new c max cached).after past).store = s.store.commit ctx.now bs)
    (later : PlannedAll s ctx c ids rename p rest more q) (takes : s.store.Takes (bs ++ more))
    (calm : ∀ before spec after, rest = before ++ spec :: after →
      ¬s.store.Disturbed c ctx rename (done ++ before) spec)
    (drawn : (List.range' p.drawn (rest.map (·.draws c)).sum).map ids = drawnBy c rest parts) :
    ((new c max cached).after past).Answers parts ∧
      ((new c max cached).after (past ++ parts)).store = s.store.commit ctx.now (bs ++ more) := by
  induction calls generalizing past done bs more p with
  | nil =>
    cases later
    rw [List.append_nil, List.append_nil]
    exact ⟨fun _ => nofun, left⟩
  | @cons spec u rest parts call _ ih =>
    obtain ⟨rfl, request⟩ := call
    have here : DistinctIds (past ++ [u]) := distinct.initial ⟨parts, by simp⟩
    obtain ⟨serves, _, _⟩ := reached c max cached here (List.prefix_refl _)
    have quiet := calm [] spec rest rfl
    rw [List.append_nil] at quiet
    have calm' : ∀ before spec' after, rest = before ++ spec' :: after →
        ¬s.store.Disturbed c u.context rename (done ++ [spec] ++ before) spec' := by
      intro before spec' after eq
      have next := calm (spec :: before) spec' after (by rw [eq]; rfl)
      rwa [List.append_assoc]
    obtain ⟨first, others⟩ := drawnBy_cons_inj drawn
    have distinct' : DistinctIds (past ++ [u] ++ parts) := by
      rwa [List.append_assoc]
    rw [answers_cons, ← after_concat]
    cases later with
    | skip classified empty later =>
      obtain ⟨answered, ends⟩ :=
        turn_of_planned here request (.skip classified empty (.nil .start))
      rw [left, Store.commit_nil] at ends
      rw [draws_of_isEmpty classified empty] at others
      have all' := all.append (.skip classified empty (.nil p))
      rw [List.append_nil] at all'
      obtain ⟨later, final⟩ := ih distinct' all' ends later takes calm' others
      rw [List.append_assoc] at final
      exact ⟨⟨answered, later⟩, final⟩
    | @plan _ _ _ batch b _ more planned later =>
      have on' := run_onPlans c max cached (distinct.initial (List.prefix_append past (u :: parts)))
      have alone := planned.alone order sound all quiet takes.initial serves.inOrder
        (serves.keys.trans keys.symm) left on on' (by rwa [planned.draws_eq order])
      obtain ⟨answered, ends⟩ := turn_of_planned here request (.plan alone (.nil _))
      have split : bs ++ b :: more = bs ++ [b] ++ more := by simp
      rw [split] at takes ⊢
      rw [left, takes.initial.commit_append] at ends
      have all' := all.append (.plan planned (.nil _))
      have next : (p.after b.target batch).drawn = p.drawn + spec.draws c := by
        rw [← planned.draws_eq order]
        exact Nat.add_assoc _ _ _
      rw [← next] at others
      obtain ⟨later, final⟩ := ih distinct' all' ends later takes calm' others
      rw [List.append_assoc past] at final
      exact ⟨⟨answered, later⟩, final⟩

end

end Service

end SubscriptionBundles
