/-!
# Stable sorting and latest entries

* `stableSort`  insertion sort by a relation; entries that tie keep their order;
* `latestBy`    the entry with the greatest key, the last of those that tie.

The sort keeps the entries (`stableSort_perm`), orders them (`stableSort_sorted`), leaves a sorted
list alone (`stableSort_eq_self`), commutes with dropping entries (`filter_stableSort`) and keeps an
entry last that all others may precede (`stableSort_concat`).
-/

namespace SubscriptionBundles

variable {α : Type}

section
variable (le : α → α → Bool)

/-- puts an entry before the first one that it may precede -/
def insertBy (a : α) : List α → List α
  | [] => [a]
  | b :: l => if le a b then a :: b :: l else b :: insertBy a l

def stableSort : List α → List α
  | [] => []
  | a :: l => insertBy le a (stableSort l)

theorem insertBy_cons (a b : α) (l : List α) :
    insertBy le a (b :: l) = if le a b then a :: b :: l else b :: insertBy le a l := rfl

/-! ## the sorted list -/

theorem insertBy_perm (a : α) (l : List α) : (insertBy le a l).Perm (a :: l) := by
  induction l with
  | nil => exact .refl _
  | cons b l ih =>
    unfold insertBy
    split
    · exact .refl _
    · exact (ih.cons b).trans (.swap a b l)

theorem stableSort_perm (l : List α) : (stableSort le l).Perm l := by
  induction l with
  | nil => exact .refl _
  | cons a l ih => exact (insertBy_perm le a _).trans (ih.cons a)

theorem mem_stableSort {a : α} {l : List α} : a ∈ stableSort le l ↔ a ∈ l :=
  (stableSort_perm le l).mem_iff

@[simp] theorem stableSort_length (l : List α) : (stableSort le l).length = l.length :=
  (stableSort_perm le l).length_eq

end

section
variable {le : α → α → Bool} (total : ∀ a b, le a b = true ∨ le b a = true)
  (trans : ∀ a b c, le a b = true → le b c = true → le a c = true)
include total trans

theorem insertBy_sorted (a : α) {l : List α} (h : l.Pairwise (le · · = true)) :
    (insertBy le a l).Pairwise (le · · = true) := by
  induction l with
  | nil => simp [insertBy]
  | cons b l ih =>
    obtain ⟨hb, hl⟩ := List.pairwise_cons.1 h
    unfold insertBy
    split
    · next hab =>
      refine List.pairwise_cons.2 ⟨fun c hc => ?_, h⟩
      rcases List.mem_cons.1 hc with rfl | hc
      · exact hab
      · exact trans a b c hab (hb c hc)
    · next hab =>
      refine List.pairwise_cons.2 ⟨fun c hc => ?_, ih hl⟩
      rcases List.mem_cons.1 ((insertBy_perm le a l).mem_iff.1 hc) with rfl | hc
      · exact (total c b).resolve_left hab
      · exact hb c hc

theorem stableSort_sorted (l : List α) : (stableSort le l).Pairwise (le · · = true) := by
  induction l with
  | nil => exact .nil
  | cons a l ih => exact insertBy_sorted total trans a ih

omit total in
theorem filter_insertBy (p : α → Bool) (a : α) {l : List α} (h : l.Pairwise (le · · = true)) :
    (insertBy le a l).filter p = if p a then insertBy le a (l.filter p) else l.filter p := by
  induction l with
  | nil => by_cases hp : p a <;> simp [insertBy, hp]
  | cons b l ih =>
    obtain ⟨hb, hl⟩ := List.pairwise_cons.1 h
    have ih := ih hl
    rw [insertBy_cons]
    by_cases hab : le a b = true
    · rw [if_pos hab]
      by_cases hp : p a = true
      · by_cases hq : p b = true
        · simp [hp, hq, insertBy_cons, hab]
        · simp only [List.filter_cons, hp, hq, ite_true, Bool.false_eq_true, ite_false]
          cases hf : l.filter p with
          | nil => simp [insertBy]
          | cons c r =>
            have hc : c ∈ l := (List.mem_filter.1 (hf ▸ List.mem_cons_self : c ∈ l.filter p)).1
            simp [insertBy_cons, trans a b c hab (hb c hc)]
      · simp [hp]
    · rw [if_neg hab]
      by_cases hq : p b = true
      · by_cases hp : p a = true
        · simp [hq, hp, ih, insertBy_cons, hab]
        · simp [hq, hp, ih]
      · simp [hq, ih]

theorem filter_stableSort (p : α → Bool) (l : List α) :
    (stableSort le l).filter p = stableSort le (l.filter p) := by
  induction l with
  | nil => rfl
  | cons a l ih =>
    rw [stableSort, filter_insertBy trans p a (stableSort_sorted total trans l), ih]
    by_cases hp : p a = true <;> simp [hp, stableSort]

omit total trans in
theorem stableSort_eq_self {l : List α} (h : l.Pairwise (le · · = true)) : stableSort le l = l := by
  induction l with
  | nil => rfl
  | cons a l ih =>
    obtain ⟨ha, hl⟩ := List.pairwise_cons.1 h
    rw [stableSort, ih hl]
    cases l with
    | nil => rfl
    | cons b l => simp [insertBy, ha b]

omit total trans in
/-- an entry that all others may precede stays the last -/
theorem stableSort_concat {l : List α} {last : α} (before : ∀ a ∈ l, le a last = true) :
    stableSort le (l ++ [last]) = stableSort le l ++ [last] := by
  have insert (a : α) (ha : le a last = true) (m : List α) :
      insertBy le a (m ++ [last]) = insertBy le a m ++ [last] := by
    induction m with
    | nil => simp [insertBy, ha]
    | cons b m ih =>
      rw [List.cons_append, insertBy_cons, insertBy_cons, ih]
      split <;> rfl
  induction l with
  | nil => rfl
  | cons a l ih =>
    rw [List.cons_append, stableSort, ih fun b hb => before b (List.mem_cons_of_mem a hb), stableSort,
      insert a (before a List.mem_cons_self)]

end

/-! ## latest entries -/

section
variable {κ : Type} [LE κ] [DecidableLE κ] (key : α → κ)

def latestBy : List α → Option α
  | [] => none
  | a :: l =>
    match latestBy l with
    | none => some a
    | some b => if key a ≤ key b then some b else some a

theorem mem_of_latestBy {l : List α} {a : α} (h : latestBy key l = some a) : a ∈ l := by
  induction l generalizing a with
  | nil => cases h
  | cons b l ih =>
    unfold latestBy at h
    split at h
    · cases h; exact List.mem_cons_self
    · next c hc =>
      split at h
      · cases h; exact List.mem_cons_of_mem _ (ih hc)
      · cases h; exact List.mem_cons_self

theorem latestBy_eq_none_iff {l : List α} : latestBy key l = none ↔ l = [] := by
  cases l with
  | nil => simp [latestBy]
  | cons a l =>
    unfold latestBy
    split
    · simp
    · split <;> simp

end

end SubscriptionBundles
