import SubscriptionBundles.Proofs.StoredIdentities

/-!
# Stored events

Events are stored with the records that they are about and stay there.

* `Store.events`            every event that is stored;
* `Write.events`            what a write adds to them;
* `Store.events_of_apply`   and it does nothing else to them.
-/

namespace SubscriptionBundles

/-- record by record -/
def Store.events (s : Store) : List TransitionEvent := s.records.flatMap (·.events)

def Write.events : Write → List TransitionEvent
  | .createRecords rs => rs.flatMap (·.events)
  | .appendEvents es => es
  | .createBundle _ | .updateKey _ _ _ | .setChargedThrough _ _ => []

/-- the first entry with a property, if there is one, is where a list is changed -/
theorem exists_changeFirst {α : Type} {p : α → Bool} {l : List α} (found : (l.find? p).isSome = true)
    (change : α → α) :
    ∃ l₁ a l₂, l = l₁ ++ a :: l₂ ∧ Store.changeFirst p change l = l₁ ++ change a :: l₂ := by
  induction l with
  | nil => cases found
  | cons a l ih =>
    unfold Store.changeFirst
    by_cases here : p a = true
    · rw [if_pos here]
      exact ⟨[], a, l, rfl, rfl⟩
    · rw [List.find?_cons_of_neg here] at found
      obtain ⟨l₁, b, l₂, rfl, changed⟩ := ih found
      rw [if_neg here, changed]
      exact ⟨a :: l₁, b, l₂, rfl, rfl⟩

namespace Store
variable {s later : Store}

theorem events_updateRecord (id : Uuid) {change : SubscriptionRecord → SubscriptionRecord}
    (keeps : ∀ r, (change r).events = r.events) : (s.updateRecord id change).events = s.events := by
  unfold events
  rw [List.flatMap_def, List.flatMap_def]
  exact congrArg List.flatten (map_changeFirst _ _ _ keeps _)

theorem events_appendEvent {e : TransitionEvent}
    (stored : e.subscriptionId ∈ s.records.map (·.id)) :
    (s.appendEvent e).events.Perm (s.events ++ [e]) := by
  obtain ⟨l₁, r, l₂, cut, changed⟩ := exists_changeFirst (find?_isSome_iff_mem.2 stored)
    fun r : SubscriptionRecord => { r with events := r.events ++ [e] }
  unfold events appendEvent updateRecord
  dsimp only
  rw [changed, cut]
  simp only [List.flatMap_append, List.flatMap_cons, List.append_assoc]
  exact (List.perm_append_comm.append_left _).append_left _

theorem map_id_appendEvent (e : TransitionEvent) :
    (s.appendEvent e).records.map (·.id) = s.records.map (·.id) := by
  refine map_changeFirst _ _ _ ?_ _
  intro r
  rfl

theorem events_appendEvents {es : List TransitionEvent}
    (stored : ∀ e ∈ es, e.subscriptionId ∈ s.records.map (·.id)) :
    (es.foldl appendEvent s).events.Perm (s.events ++ es) := by
  induction es generalizing s with
  | nil =>
    rw [List.append_nil]
    exact .refl _
  | cons e rest ih =>
    have first := events_appendEvent (stored e List.mem_cons_self)
    refine (ih fun f hf => ?_).trans ?_
    · rw [map_id_appendEvent]
      exact stored f (List.mem_cons_of_mem e hf)
    · rw [List.append_cons]
      exact first.append_right rest

theorem stored_of_appendEvents {es : List TransitionEvent} (h : s.appendEvents es = .ok later) :
    ∀ e ∈ es, e.subscriptionId ∈ s.records.map (·.id) := by
  unfold appendEvents at h
  split at h
  · cases h
  · next known =>
    intro e he
    have found := List.find?_eq_none.1 known e he
    rw [Bool.not_eq_true, Option.isNone_eq_false_iff] at found
    exact find?_isSome_iff_mem.1 found

/-- a write adds its own and keeps all others -/
theorem events_of_apply {w : Write} (h : s.apply w = .ok later) :
    later.events.Perm (s.events ++ w.events) := by
  cases w with
  | createBundle b =>
    obtain ⟨_, same⟩ := refuse_eq_ok.1 h
    cases same
    exact .of_eq (List.append_nil _).symm
  | updateKey id key updatedUtc =>
    obtain ⟨_, same⟩ := refuse_eq_ok.1 h
    cases same
    exact .of_eq (List.append_nil _).symm
  | createRecords rs =>
    obtain ⟨_, rfl⟩ := of_createRecords h
    exact .of_eq List.flatMap_append
  | appendEvents es =>
    have stored := stored_of_appendEvents h
    obtain rfl := of_appendEvents h
    exact events_appendEvents stored
  | setChargedThrough id date =>
    obtain ⟨_, same⟩ := refuse_eq_ok.1 h
    cases same
    refine .of_eq ((events_updateRecord id ?_).trans (List.append_nil _).symm)
    intro r
    rfl

end Store

end SubscriptionBundles
