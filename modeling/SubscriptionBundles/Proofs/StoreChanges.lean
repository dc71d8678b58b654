import SubscriptionBundles.Store.Basic

/-!
# What writes do to the store

Identifiers are distinct, so every write that is accepted changes exactly the entries it names.

* `Bundle.renamedBy`, `SubscriptionRecord.withEvents`  an entry after a row of writes;
* `Store.rename`, `Store.append`      the store after the renames and the events of a call;
* `Store.rename_of_stored`, `Store.append_of_stored`, `Store.createBundle_of_fresh`,
  `Store.createRecords_of_fresh`      such writes are accepted.
-/

namespace SubscriptionBundles

theorem changeFirst_eq_map {α κ : Type} [BEq κ] [LawfulBEq κ] (key : α → κ) (id : κ)
    (change : α → α) {l : List α} (h : (l.map key).Nodup) :
    Store.changeFirst (fun a => key a == id) change l =
      l.map fun a => if key a == id then change a else a := by
  induction l with
  | nil => rfl
  | cons a l ih =>
    obtain ⟨ha, hl⟩ := List.nodup_cons.1 h
    rw [List.map_cons]
    unfold Store.changeFirst
    by_cases hk : (key a == id) = true
    · rw [if_pos hk, if_pos hk]
      congr 1
      -- no other entry has the key
      symm
      rw [List.map_congr_left (g := fun b => b), List.map_id']
      intro b hb
      rw [if_neg]
      intro hkb
      refine ha (List.mem_map.2 ⟨b, hb, ?_⟩)
      rw [eq_of_beq hk, eq_of_beq hkb]
    · rw [if_neg hk, if_neg hk, ih hl]

theorem find?_isSome_iff_mem {α : Type} {key : α → Uuid} {l : List α} {id : Uuid} :
    (l.find? (key · == id)).isSome = true ↔ id ∈ l.map key := by
  rw [List.find?_isSome, List.mem_map]
  simp

/-! ## keys -/

namespace Bundle

def rekeyed (b : Bundle) (key : String) (now : Instant) : Bundle :=
  { b with externalKey := some key, updatedUtc := now }

/-- a bundle after a row of renames, each with the bundle it is about -/
def renamedBy (now : Instant) (renames : List (Uuid × String)) (b : Bundle) : Bundle :=
  renames.foldl (fun b r => if b.id == r.1 then b.rekeyed r.2 now else b) b

section
variable (now : Instant) (renames : List (Uuid × String)) (b : Bundle)

theorem renamedBy_nil : b.renamedBy now [] = b := rfl

theorem renamedBy_cons (r : Uuid × String) :
    b.renamedBy now (r :: renames) =
      (if b.id == r.1 then b.rekeyed r.2 now else b).renamedBy now renames := rfl

theorem renamedBy_append (more : List (Uuid × String)) :
    b.renamedBy now (renames ++ more) = (b.renamedBy now renames).renamedBy now more :=
  List.foldl_append

@[simp] theorem renamedBy_id : (b.renamedBy now renames).id = b.id := by
  induction renames generalizing b with
  | nil => rfl
  | cons r renames ih =>
    rw [renamedBy_cons, ih]
    split <;> rfl

@[simp] theorem renamedBy_accountId : (b.renamedBy now renames).accountId = b.accountId := by
  induction renames generalizing b with
  | nil => rfl
  | cons r renames ih =>
    rw [renamedBy_cons, ih]
    split <;> rfl

end

theorem renamedBy_of_not_mem {now : Instant} {renames : List (Uuid × String)} {b : Bundle}
    (h : b.id ∉ renames.map (·.1)) : b.renamedBy now renames = b := by
  induction renames with
  | nil => rfl
  | cons r renames ih =>
    rw [List.map_cons, List.mem_cons, not_or] at h
    rw [renamedBy_cons, if_neg (by simpa using h.1)]
    exact ih h.2

theorem renamedBy_self (b : Bundle) (key : String) (now : Instant) :
    b.renamedBy now [(b.id, key)] = b.rekeyed key now := by
  rw [renamedBy_cons, renamedBy_nil, if_pos (beq_self_eq_true _)]

/-- the last rename of the bundle counts -/
theorem renamedBy_of_mem {now : Instant} {renames : List (Uuid × String)} {b : Bundle}
    (h : b.id ∈ renames.map (·.1)) :
    ∃ r ∈ renames, r.1 = b.id ∧ b.renamedBy now renames = b.rekeyed r.2 now := by
  induction renames generalizing b with
  | nil => cases h
  | cons r renames ih =>
    rw [renamedBy_cons]
    by_cases later : b.id ∈ renames.map (·.1)
    · by_cases hr : (b.id == r.1) = true
      · rw [if_pos hr]
        obtain ⟨q, hq, hid, eq⟩ := ih (b := b.rekeyed r.2 now) later
        exact ⟨q, List.mem_cons_of_mem _ hq, hid, eq⟩
      · rw [if_neg hr]
        obtain ⟨q, hq, hid, eq⟩ := ih later
        exact ⟨q, List.mem_cons_of_mem _ hq, hid, eq⟩
    · rw [List.map_cons, List.mem_cons] at h
      have hr := h.resolve_right later
      rw [if_pos (by simpa using hr), renamedBy_of_not_mem (b := b.rekeyed r.2 now) later]
      exact ⟨r, List.mem_cons_self, hr.symm, rfl⟩

end Bundle

/-! ## events -/

namespace SubscriptionRecord

/-- a record with those of the events that are its own at the end -/
def withEvents (es : List TransitionEvent) (r : SubscriptionRecord) : SubscriptionRecord :=
  { r with events := r.events ++ es.filter fun e => e.subscriptionId == r.id }

theorem withEvents_nil (r : SubscriptionRecord) : r.withEvents [] = r := by
  simp [withEvents]

theorem withEvents_cons (e : TransitionEvent) (es : List TransitionEvent) (r : SubscriptionRecord) :
    r.withEvents (e :: es) =
      (if r.id == e.subscriptionId then { r with events := r.events ++ [e] } else r).withEvents
        es := by
  unfold withEvents
  by_cases h : r.id = e.subscriptionId
  · simp [h]
  · simp [h, Ne.symm h]

end SubscriptionRecord

/-! ## the store -/

namespace Store

/-- bundles renamed, records untouched -/
def rename (s : Store) (now : Instant) (renames : List (Uuid × String)) : Store :=
  { s with bundles := s.bundles.map (Bundle.renamedBy now renames) }

def append (s : Store) (es : List TransitionEvent) : Store :=
  { s with records := s.records.map (SubscriptionRecord.withEvents es) }

/-- the record of a subscription changed -/
def changeRecord (s : Store) (id : Uuid) (change : SubscriptionRecord → SubscriptionRecord) : Store :=
  { s with records := s.records.map fun r => if r.id == id then change r else r }

def charge (s : Store) (id : Uuid) (date : Instant) : Store :=
  s.changeRecord id fun r => { r with chargedThroughDate := some date }

variable {s : Store}

theorem rename_nil (s : Store) (now : Instant) : s.rename now [] = s := by
  have same : Bundle.renamedBy now [] = id := rfl
  simp [rename, same]

theorem append_nil (s : Store) : s.append [] = s := by
  have same : SubscriptionRecord.withEvents [] = id := funext SubscriptionRecord.withEvents_nil
  simp [append, same]

theorem map_id_rename (now : Instant) (renames : List (Uuid × String)) :
    (s.rename now renames).bundles.map (·.id) = s.bundles.map (·.id) := by
  simp [rename]

theorem updateKey_of_stored (distinct : (s.bundles.map (·.id)).Nodup) {id : Uuid}
    (stored : id ∈ s.bundles.map (·.id)) (key : String) (now : Instant) :
    s.updateKey id key now = .ok (s.rename now [(id, key)]) := by
  have found : ¬(s.bundle? id).isNone = true := by
    rw [Option.isNone_iff_eq_none, ← ne_eq, ← Option.isSome_iff_ne_none]
    exact find?_isSome_iff_mem.2 stored
  unfold updateKey
  rw [if_neg found]
  unfold updateBundle rename
  rw [changeFirst_eq_map _ _ _ distinct]
  rfl

theorem rename_of_stored (distinct : (s.bundles.map (·.id)).Nodup) (now : Instant)
    {renames : List (Uuid × String)} (stored : ∀ r ∈ renames, r.1 ∈ s.bundles.map (·.id)) :
    (renames.map fun r => Write.updateKey r.1 r.2 now).foldlM Store.apply s =
      .ok (s.rename now renames) := by
  induction renames generalizing s with
  | nil =>
    rw [rename_nil]
    rfl
  | cons r renames ih =>
    have first : s.apply (.updateKey r.1 r.2 now) = .ok (s.rename now [(r.1, r.2)]) :=
      updateKey_of_stored distinct (stored r List.mem_cons_self) r.2 now
    rw [List.map_cons, List.foldlM_cons, first]
    show (renames.map _).foldlM Store.apply (s.rename now [(r.1, r.2)]) = _
    rw [ih]
    · simp [rename, Bundle.renamedBy]
    · rw [map_id_rename]
      exact distinct
    · intro q hq
      rw [map_id_rename]
      exact stored q (List.mem_cons_of_mem _ hq)

theorem createBundle_of_fresh {b : Bundle} (fresh : b.id ∉ s.bundles.map (·.id)) :
    s.createBundle b = .ok { s with bundles := s.bundles ++ [b] } := by
  unfold createBundle
  rw [if_neg]
  exact fun h => fresh (find?_isSome_iff_mem.1 h)

theorem createRecords_of_fresh {rs : List SubscriptionRecord}
    (stored : ∀ r ∈ rs, r.bundleId ∈ s.bundles.map (·.id))
    (fresh : ∀ r ∈ rs, r.id ∉ s.records.map (·.id)) :
    s.createRecords rs = .ok { s with records := s.records ++ rs } := by
  have free : rs.findSome? s.obstacle? = none := by
    rw [List.findSome?_eq_none_iff]
    intro r hr
    have hb : ¬(s.bundle? r.bundleId).isNone = true := by
      rw [Option.isNone_iff_eq_none, ← ne_eq, ← Option.isSome_iff_ne_none]
      exact find?_isSome_iff_mem.2 (stored r hr)
    unfold obstacle?
    rw [if_neg hb, if_neg]
    exact fun h => fresh r hr (find?_isSome_iff_mem.1 h)
  unfold createRecords
  rw [free]

theorem updateRecord_eq (distinct : (s.records.map (·.id)).Nodup) (id : Uuid)
    (change : SubscriptionRecord → SubscriptionRecord) :
    s.updateRecord id change = s.changeRecord id change := by
  unfold updateRecord changeRecord
  rw [changeFirst_eq_map _ _ _ distinct]

theorem appendEvents_of_stored {es : List TransitionEvent}
    (stored : ∀ e ∈ es, e.subscriptionId ∈ s.records.map (·.id)) :
    s.appendEvents es = .ok (es.foldl appendEvent s) := by
  have known : es.find? (fun e => (s.record? e.subscriptionId).isNone) = none := by
    rw [List.find?_eq_none]
    intro e he
    rw [Bool.not_eq_true, Option.isNone_eq_false_iff]
    exact find?_isSome_iff_mem.2 (stored e he)
  unfold appendEvents
  rw [known]

theorem append_of_stored (distinct : (s.records.map (·.id)).Nodup) {es : List TransitionEvent}
    (stored : ∀ e ∈ es, e.subscriptionId ∈ s.records.map (·.id)) :
    s.appendEvents es = .ok (s.append es) := by
  rw [appendEvents_of_stored stored]
  congr 1
  clear stored
  induction es generalizing s with
  | nil => exact (append_nil s).symm
  | cons e es ih =>
    have first : s.appendEvent e = s.changeRecord e.subscriptionId fun r =>
        { r with events := r.events ++ [e] } := updateRecord_eq distinct _ _
    have ids : ((s.appendEvent e).records.map (·.id)) = s.records.map (·.id) := by
      rw [first]
      unfold changeRecord
      rw [List.map_map]
      refine List.map_congr_left fun r _ => ?_
      show (if _ then _ else r).id = r.id
      split <;> rfl
    rw [List.foldl_cons, ih (by rw [ids]; exact distinct), first]
    simp [append, changeRecord, SubscriptionRecord.withEvents_cons]

theorem setChargedThrough_of_stored (distinct : (s.records.map (·.id)).Nodup) {id : Uuid}
    (stored : id ∈ s.records.map (·.id)) (date : Instant) :
    s.setChargedThrough id date = .ok (s.charge id date) := by
  have found : ¬(s.record? id).isNone = true := by
    rw [Option.isNone_iff_eq_none, ← ne_eq, ← Option.isSome_iff_ne_none]
    exact find?_isSome_iff_mem.2 stored
  unfold setChargedThrough
  rw [if_neg found, updateRecord_eq distinct]
  rfl

end Store

end SubscriptionBundles
