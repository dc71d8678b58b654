import SubscriptionBundles.Proofs.Runs

/-!
# Counting live subscriptions

How many live subscriptions of a kind a bundle holds.  Only a creation adds to the count: time and
every other call can only lower it.

* `SubscriptionRecord.Grew`, `Store.Grew`   the same subscriptions, some with further events;
* `Step.created_or_grew`                    a step is a creation, or the records only grow;
* `Store.liveCount`                         the live records of a kind in a bundle;
* `Store.Grew.liveCount_le`                 the count does not rise as records grow;
* `Store.liveCount_commit`                  a creation adds the records it brings.
-/

namespace SubscriptionBundles

open Service (Turn)

/-! ## growing records -/

/-- the same subscription later on -/
structure SubscriptionRecord.Grew (r later : SubscriptionRecord) : Prop where
  id : later.id = r.id
  bundleId : later.bundleId = r.bundleId
  category : later.category = r.category
  aligned : later.alignStartDate = r.alignStartDate
  created : later.createdUtc = r.createdUtc
  events : ∃ more, later.events = r.events ++ more

namespace SubscriptionRecord.Grew
variable {r later : SubscriptionRecord}

theorem refl (r : SubscriptionRecord) : r.Grew r :=
  ⟨rfl, rfl, rfl, rfl, rfl, [], by simp⟩

theorem mem_events (h : r.Grew later) : ∀ e ∈ r.events, e ∈ later.events := by
  obtain ⟨more, eq⟩ := h.events
  intro e he
  rw [eq]
  exact List.mem_append_left _ he

theorem withEvents (es : List TransitionEvent) (r : SubscriptionRecord) :
    r.Grew (r.withEvents es) :=
  ⟨rfl, rfl, rfl, rfl, rfl, _, rfl⟩

end SubscriptionRecord.Grew

/-- the same subscriptions later on -/
def Store.Grew (s later : Store) : Prop :=
  ∃ grow, later.records = s.records.map grow ∧ ∀ r ∈ s.records, r.Grew (grow r)

namespace Store.Grew
variable {s later : Store}

theorem of_records (same : later.records = s.records) : s.Grew later := by
  refine ⟨id, ?_, fun r _ => .refl r⟩
  rw [same, List.map_id]

theorem append (s : Store) (es : List TransitionEvent) : s.Grew (s.append es) :=
  ⟨_, rfl, fun r _ => .withEvents es r⟩

theorem charge (s : Store) (id : Uuid) (date : Instant) : s.Grew (s.charge id date) := by
  refine ⟨_, rfl, ?_⟩
  intro r _
  show r.Grew (if _ then _ else r)
  split
  · exact ⟨rfl, rfl, rfl, rfl, rfl, [], by simp⟩
  · exact .refl r

end Store.Grew

/-- a step is a creation that went through, or the records only grow -/
theorem Step.created_or_grew {s : Service} {c : Catalog} {t : Turn}
    {a : Except SubscriptionError Answer} {store : Store} (h : Step s c t a store) :
    (∃ specifiers rename bs q answer, t.request = .create specifiers rename ∧ a = .ok answer ∧
        PlannedAll s t.context c t.ids rename .start specifiers bs q ∧ s.store.Takes bs ∧
        store = s.store.commit t.context.now bs) ∨
      s.store.Grew store := by
  cases h with
  | refused | read => exact .inr (.of_records rfl)
  | created request planned takes => exact .inl ⟨_, _, _, _, _, request, rfl, planned, takes, rfl⟩
  | bundleCreated =>
    refine .inr (.of_records ?_)
    simp [Store.commit]
  | rekeyed => exact .inr (.of_records rfl)
  | continued => exact .inr (.append _ _)
  | charged => exact .inr (.charge _ _ _)

/-! ## counts -/

namespace Store

def liveCount (s : Store) (kind : SubscriptionRecord → Bool) (now : Instant) (id : Uuid) : Nat :=
  s.records.countP fun r => r.bundleId == id && (kind r && r.isLiveAt now)

section
variable {s later : Store} {kind : SubscriptionRecord → Bool} {now after : Instant} {id : Uuid}

theorem Grew.liveCount_le (h : s.Grew later)
    (kept : ∀ r ∈ s.records, ∀ r', r.Grew r' → kind r' = kind r)
    (hn : now ≤ after) : later.liveCount kind after id ≤ s.liveCount kind now id := by
  obtain ⟨grow, eq, grew⟩ := h
  unfold liveCount
  rw [eq, List.countP_map]
  refine List.countP_mono_left ?_
  intro r hr held
  simp only [Function.comp_apply, Bool.and_eq_true, (grew r hr).bundleId,
    kept r hr _ (grew r hr)] at held
  obtain ⟨home, hk, live⟩ := held
  have lived := SubscriptionRecord.isLiveAt_mono (grew r hr).mem_events hn live
  simp only [Bool.and_eq_true]
  exact ⟨home, hk, lived⟩

theorem liveCount_later (hn : now ≤ after) : s.liveCount kind after id ≤ s.liveCount kind now id := by
  refine List.countP_mono_left ?_
  intro r _ held
  simp only [Bool.and_eq_true] at held ⊢
  obtain ⟨home, hk, live⟩ := held
  exact ⟨home, hk, SubscriptionRecord.isLiveAt_mono (fun _ he => he) hn live⟩

/-- nothing is counted where there is no bundle -/
theorem liveCount_of_not_mem (sound : s.Sound) (none : id ∉ s.bundleIds) :
    s.liveCount kind now id = 0 := by
  unfold liveCount
  rw [List.countP_eq_zero]
  intro r hr held
  simp only [Bool.and_eq_true, beq_iff_eq] at held
  refine none ?_
  rw [← held.1]
  exact sound.homes r hr

/-- what a creation brings is live from the first -/
theorem liveCount_commit (processed : Instant) {bs : List PlannedBatch}
    (fresh : ∀ b ∈ bs, ∀ r ∈ b.records, ∀ now, r.isLiveAt now = true) :
    (s.commit processed bs).liveCount kind now id = s.liveCount kind now id +
      (bs.flatMap (·.records)).countP fun r => r.bundleId == id && kind r := by
  unfold liveCount commit
  rw [List.countP_append]
  congr 1
  refine List.countP_congr ?_
  intro r hr
  obtain ⟨b, hb, hr⟩ := List.mem_flatMap.1 hr
  rw [fresh b hb r hr now, Bool.and_true]

end

end Store

theorem PlannedAll.isLiveAt {s : Service} {ctx : Context} {c : Catalog} {ids : Nat → Uuid}
    {rename : Bool} {p q : Progress} {specs : List BundleSpecifier} {bs : List PlannedBatch}
    (all : PlannedAll s ctx c ids rename p specs bs q) :
    ∀ b ∈ bs, ∀ r ∈ b.records, ∀ now, r.isLiveAt now = true := by
  intro b hb r hr now
  obtain ⟨_, _, _, _, here⟩ := all.of_mem b hb
  exact BatchChecks.plannedRecords_isLiveAt here.records now r hr

end SubscriptionBundles
