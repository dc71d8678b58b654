import SubscriptionBundles.Proofs.Calls

/-!
# Runs

What every turn of a run finds, and what it leaves.

* `Service.after`              the service after a row of turns;
* `DistinctIds`, `Timely`      no identifier is drawn twice, no turn goes back in time;
* `Service.Always`, `Service.Never`  a law that holds throughout, a kind of turn that is not answered;
* `Service.after_induction`    what every turn keeps holds after every run;
* `Service.always_of_keeps`    the same for a law about the present;
* `Service.always_of_kept`     the same for a law about the store alone;
* `Step.sound`                 a step leaves a sound store;
* `Service.reached`            so every turn of a run finds one, and fresh identifiers;
* `Service.reached_step`       and ends as a step does;
* `Shop`                       a catalog and turns to try a property on.
-/

namespace SubscriptionBundles

open Service (Turn)

/-! ## rows of turns -/

namespace Service

def after (s : Service) (turns : List Turn) : Service := (s.run turns).2

/-- the answer to a turn, and the service afterwards -/
def turn (s : Service) (t : Turn) : Outcome Answer := s.handle t.context t.ids t.request

section
variable (s : Service) (t : Turn)

theorem after_append (a b : List Turn) : s.after (a ++ b) = (s.after a).after b := by
  induction a generalizing s with
  | nil => rfl
  | cons t a ih => exact ih _

theorem after_concat (earlier : List Turn) :
    s.after (earlier ++ [t]) = ((s.after earlier).turn t).2 := by
  rw [after_append]
  rfl

end

/-- what holds at first and is kept by every turn of a row holds after it -/
theorem after_induction {s : Service} {turns : List Turn} {P : List Turn → Service → Prop}
    (first : P [] s)
    (keeps : ∀ earlier t, earlier ++ [t] <+: turns → P earlier (s.after earlier) →
      P (earlier ++ [t]) ((s.after earlier).turn t).2) : P turns (s.after turns) := by
  have every : ∀ n, P (turns.take n) (s.after (turns.take n)) := by
    intro n
    induction n with
    | zero => exact first
    | succ n ih =>
      by_cases hn : n < turns.length
      · have next : turns.take (n + 1) = turns.take n ++ [turns[n]] := by
          rw [List.take_append_getElem hn]
        rw [next, after_concat]
        refine keeps _ _ ?_ ih
        rw [← next]
        exact List.take_prefix _ _
      · have same : turns.take (n + 1) = turns.take n := by
          rw [List.take_of_length_le (by omega), List.take_of_length_le (by omega)]
        rw [same]
        exact ih
  have all := every turns.length
  rw [List.take_length] at all
  exact all

end Service

/-- no identifier may be drawn twice -/
def DistinctIds (turns : List Turn) : Prop := (turns.flatMap Turn.drawn).Nodup

def Timely (turns : List Turn) : Prop := turns.Pairwise fun a b => a.context.now ≤ b.context.now

instance (turns : List Turn) : Decidable (DistinctIds turns) :=
  inferInstanceAs (Decidable (List.Nodup _))

instance (turns : List Turn) : Decidable (Timely turns) :=
  inferInstanceAs (Decidable (List.Pairwise _ _))

section
variable {turns earlier : List Turn} {t : Turn}

theorem DistinctIds.initial (h : DistinctIds turns) (part : earlier <+: turns) :
    DistinctIds earlier := by
  obtain ⟨later, rfl⟩ := part
  unfold DistinctIds at h
  rw [List.flatMap_append] at h
  exact (List.nodup_append.1 h).1

theorem DistinctIds.concat (h : DistinctIds (earlier ++ [t])) :
    t.drawn.Nodup ∧ ∀ id ∈ earlier.flatMap Turn.drawn, id ∉ t.drawn := by
  unfold DistinctIds at h
  rw [List.flatMap_append, List.flatMap_singleton] at h
  obtain ⟨_, own, apart⟩ := List.nodup_append.1 h
  exact ⟨own, fun id old new => apart id old id new rfl⟩

theorem Timely.initial (h : Timely turns) (part : earlier <+: turns) : Timely earlier :=
  h.sublist part.sublist

theorem Timely.concat (h : Timely (earlier ++ [t])) :
    ∀ u ∈ earlier, u.context.now ≤ t.context.now := by
  intro u hu
  exact (List.pairwise_append.1 h).2.2 u hu t List.mem_cons_self

end

namespace Service

/-- the law holds after every turn of a row, at the instant of that turn -/
def Always (s : Service) (turns : List Turn) (law : Store → Instant → Prop) : Prop :=
  ∀ earlier t, earlier ++ [t] <+: turns → law ((s.after earlier).turn t).2.store t.context.now

/-- no turn of a row is answered that is of a kind -/
def Never (s : Service) (turns : List Turn) (kind : Store → Turn → Prop) : Prop :=
  ∀ earlier t a, earlier ++ [t] <+: turns → ((s.after earlier).turn t).1 = .ok a →
    ¬kind (s.after earlier).store t

/-- a law that each turn finds at its instant and leaves from then on -/
theorem always_of_keeps {s : Service} {turns : List Turn} {law : Store → Instant → Prop}
    (timely : Timely turns) (first : ∀ now, law s.store now)
    (keeps : ∀ earlier t, earlier ++ [t] <+: turns → law (s.after earlier).store t.context.now →
      ∀ later, t.context.now ≤ later → law ((s.after earlier).turn t).2.store later) :
    s.Always turns law := by
  intro earlier t part
  have before : earlier <+: turns := (List.prefix_append earlier [t]).trans part
  have every : ∀ now, (∀ u ∈ earlier, u.context.now ≤ now) → law (s.after earlier).store now := by
    refine after_induction (P := fun turns s => ∀ now, (∀ u ∈ turns, u.context.now ≤ now) →
      law s.store now) (fun now _ => first now) ?_
    intro past u stage held later reached
    have stage := stage.trans before
    have present := reached u (List.mem_append_right _ List.mem_cons_self)
    exact keeps past u stage (held u.context.now (timely.initial stage).concat) later present
  exact keeps earlier t part (every t.context.now (timely.initial part).concat) t.context.now
    (Instant.le_refl _)

/-- a law about the store alone needs no order of the turns -/
theorem always_of_kept {s : Service} {turns : List Turn} {law : Store → Prop} (first : law s.store)
    (keeps : ∀ earlier t, earlier ++ [t] <+: turns → law (s.after earlier).store →
      law ((s.after earlier).turn t).2.store) :
    s.Always turns fun store _ => law store := by
  intro earlier t part
  refine keeps earlier t part ?_
  have before : earlier <+: turns := (List.prefix_append earlier [t]).trans part
  refine after_induction (P := fun _ s => law s.store) first ?_
  intro past u stage held
  exact keeps past u (stage.trans before) held

end Service

/-! ## one step -/

namespace Step
variable {s : Service} {c : Catalog} {t : Turn} {max : Nat} {a : Except SubscriptionError Answer}
  {store : Store}

theorem sound (h : Step s c t a store) (sound : s.store.Sound) : store.Sound := by
  cases h with
  | refused | read => exact sound
  | created _ _ takes => exact takes.sound sound
  | bundleCreated _ _ takes => exact takes.sound sound
  | rekeyed =>
    refine ⟨?_, sound.records, ?_⟩
    · rw [Store.bundleIds_rename]
      exact sound.bundles
    · rw [Store.bundleIds_rename]
      exact sound.homes
  | continued => exact sound.append _
  | charged =>
    refine ⟨sound.bundles, ?_, ?_⟩
    · rw [Store.recordIds_charge]
      exact sound.records
    · intro r hr
      obtain ⟨old, ho, rfl⟩ := List.mem_map.1 hr
      show (if _ then _ else old).bundleId ∈ _
      split <;> exact sound.homes old ho

/-- new entries are named by identifiers that the turn drew -/
theorem ids_subset (h : Step s c t a store) (order : s.storage.InOrder) :
    (∀ id ∈ store.bundleIds, id ∈ s.store.bundleIds ∨ id ∈ t.drawn) ∧
      ∀ id ∈ store.recordIds, id ∈ s.store.recordIds ∨ id ∈ t.drawn := by
  cases h with
  | refused | read => exact ⟨fun _ => .inl, fun _ => .inl⟩
  | created request planned _ =>
    have drawn := planned.ids_sublist order
    have all : t.drawn = (List.range _).map t.ids := rfl
    rw [request] at all
    rw [Store.bundleIds_commit, Store.recordIds_commit, all]
    refine ⟨?_, ?_⟩
    · intro id hid
      refine (List.mem_append.1 hid).imp (fun old => old) fun new => ?_
      exact ((newIds_sublist _).trans drawn).subset new
    · intro id hid
      refine (List.mem_append.1 hid).imp (fun old => old) fun new => ?_
      exact ((recordIds_sublist _).trans drawn).subset new
  | bundleCreated request planned _ =>
    obtain ⟨rfl, _⟩ := (planBundle_eq_ok order).1 planned
    have all : t.drawn = (List.range _).map t.ids := rfl
    rw [request] at all
    rw [Store.bundleIds_commit, Store.recordIds_commit, all]
    refine ⟨?_, ?_⟩
    · intro id hid
      exact (List.mem_append.1 hid).imp (fun old => old) fun new => new
    · intro id hid
      exact (List.mem_append.1 hid).imp (fun old => old) fun new => nomatch new
  | rekeyed =>
    rw [Store.bundleIds_rename]
    exact ⟨fun _ => .inl, fun _ => .inl⟩
  | continued =>
    rw [Store.recordIds_append]
    exact ⟨fun _ => .inl, fun _ => .inl⟩
  | charged =>
    rw [Store.recordIds_charge]
    exact ⟨fun _ => .inl, fun _ => .inl⟩

end Step

/-! ## every turn of a run -/

namespace Service
variable (c : Catalog) (max : Nat) (cached : Bool) {turns earlier : List Turn} {t : Turn}

/-- the store is sound and names nothing but what was drawn -/
theorem run_sound (distinct : DistinctIds turns) :
    ((new c max cached).after turns).Serves c max ∧
      ((new c max cached).after turns).store.Sound ∧
      (∀ id ∈ ((new c max cached).after turns).store.bundleIds, id ∈ turns.flatMap Turn.drawn) ∧
      ∀ id ∈ ((new c max cached).after turns).store.recordIds, id ∈ turns.flatMap Turn.drawn := by
  refine after_induction (P := fun turns s => s.Serves c max ∧ s.store.Sound ∧
    (∀ id ∈ s.store.bundleIds, id ∈ turns.flatMap Turn.drawn) ∧
      ∀ id ∈ s.store.recordIds, id ∈ turns.flatMap Turn.drawn) ?_ ?_
  · refine ⟨serves_new c max cached, Store.sound_empty, ?_, ?_⟩
    · intro id h
      exact absurd h List.not_mem_nil
    · intro id h
      exact absurd h List.not_mem_nil
  · intro earlier t part given
    obtain ⟨serves, sound, bundles, records⟩ := given
    obtain ⟨own, apart⟩ := (distinct.initial part).concat
    have fresh : ((new c max cached).after earlier).store.Fresh t.drawn :=
      ⟨own, fun id h => apart id (bundles id h), fun id h => apart id (records id h)⟩
    obtain ⟨step, serves'⟩ := handle_step serves sound t fresh
    obtain ⟨newBundles, newRecords⟩ := step.ids_subset serves.inOrder
    rw [List.flatMap_append, List.flatMap_singleton]
    refine ⟨serves', step.sound sound, ?_, ?_⟩
    · intro id hid
      exact List.mem_append.2 ((newBundles id hid).imp (bundles id) fun h => h)
    · intro id hid
      exact List.mem_append.2 ((newRecords id hid).imp (records id) fun h => h)

theorem reached (distinct : DistinctIds turns) (part : earlier ++ [t] <+: turns) :
    ((new c max cached).after earlier).Serves c max ∧
      ((new c max cached).after earlier).store.Sound ∧
      ((new c max cached).after earlier).store.Fresh t.drawn := by
  have before : earlier <+: turns := (List.prefix_append earlier [t]).trans part
  obtain ⟨serves, sound, bundles, records⟩ :=
    run_sound c max cached (distinct.initial before)
  obtain ⟨own, apart⟩ := (distinct.initial part).concat
  exact ⟨serves, sound, own, fun id h => apart id (bundles id h), fun id h => apart id (records id h)⟩

theorem reached_step (distinct : DistinctIds turns) (part : earlier ++ [t] <+: turns) :
    Step ((new c max cached).after earlier) c t (((new c max cached).after earlier).turn t).1
      (((new c max cached).after earlier).turn t).2.store := by
  obtain ⟨serves, sound, fresh⟩ := reached c max cached distinct part
  exact (handle_step serves sound t fresh).1

end Service

/-! ## a small shop -/

namespace Shop

def pistol : Plan where
  name := "pistol-monthly"
  product := ⟨"Pistol", .base⟩
  priceListName := Catalog.defaultPriceList
  billingPeriod := .monthly
  phases := [⟨.evergreen, .unlimited⟩]
  plansAllowedInBundle := .unlimited

/-- sold on top of a pistol, one to a bundle -/
def laser : Plan where
  name := "laser-monthly"
  product := ⟨"Laser", .addOn⟩
  priceListName := Catalog.defaultPriceList
  billingPeriod := .monthly
  phases := [⟨.evergreen, .unlimited⟩]
  plansAllowedInBundle := .atMost 1

def catalog : Catalog :=
  ((Catalog.empty.withPlan pistol).withPlan laser).withAvailable "Pistol" "Laser"

def owner : Uuid := .ofNat 7

def midnight (day : Nat) : Instant := ⟨day, 0, 0, false, by decide, by decide, by decide⟩

/-- the `k`-th turn, on a day of its own and with identifiers of its own -/
def turn (k : Nat) (request : Request) : Turn :=
  ⟨.ofNow owner (midnight (20000 + k)), fun n => .ofNat (1000 * k + n), request⟩

end Shop

end SubscriptionBundles
