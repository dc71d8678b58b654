import SubscriptionBundles.Proofs.WrittenInstants
import SubscriptionBundles.Wire.Value

/-!
# Messages read back

Values of a type that fit into messages are read back from what they are written as, and every value
that is read from a message fits, however the message was spelled.

* `ReadsBack`                     both, for the values that fit;
* `ReadsBack.again`               what was read once is read again from its own message;
* `ReadsBack.option`, `ReadsBack.list`  optional values and lists;
* `ReadsBack.text`, `ReadsBack.word`  values with a written form, and words;
* `instant_readsBack`, `date_readsBack`  instants and dates fit if they are representable;
* `Fields.required_fits`, `Fields.optional_fits`  what is read from a field fits.
-/

namespace SubscriptionBundles

variable {α : Type}

/-- the values that fit are read back from their messages, and no others are read -/
structure ReadsBack [ToValue α] [OfValue α] (fits : α → Prop) : Prop where
  back : ∀ {a : α}, fits a → ofValue? (toValue a) = some a
  fitting : ∀ {v : Value} {a : α}, ofValue? v = some a → fits a

namespace ReadsBack
variable [ToValue α] [OfValue α] {fits : α → Prop}

theorem always (back : ∀ a : α, ofValue? (toValue a) = some a) : ReadsBack fun _ : α => True :=
  ⟨fun {a} _ => back a, fun _ => trivial⟩

theorem again (h : ReadsBack fits) {v : Value} {a : α} (read : ofValue? v = some a) :
    ofValue? (toValue a) = some a :=
  h.back (h.fitting read)

/-! ## containers -/

/-- a value whose message is never the one of nothing -/
theorem option (h : ReadsBack fits) (solid : ∀ a : α, (toValue a).isNull = false) :
    ReadsBack fun o : Option α => ∀ a ∈ o, fits a where
  back {o} ho := by
    cases o with
    | none => rfl
    | some a =>
      show (if (toValue a).isNull = true then some none else (ofValue? (toValue a)).map some) = _
      rw [solid a, if_neg Bool.false_ne_true, h.back (ho a rfl)]
      rfl
  fitting {v o} read := by
    change (if v.isNull = true then some none else (ofValue? v).map some) = some o at read
    intro a ha
    split at read
    · cases read
      cases ha
    · obtain ⟨b, hb, rfl⟩ := Option.map_eq_some_iff.1 read
      cases ha
      exact h.fitting hb

theorem mapM_back (h : ReadsBack fits) {l : List α} (hl : ∀ a ∈ l, fits a) :
    (l.map toValue).mapM (ofValue? (α := α)) = some l := by
  induction l with
  | nil => rfl
  | cons a l ih =>
    have rest := ih fun b hb => hl b (List.mem_cons_of_mem a hb)
    rw [List.map_cons, List.mapM_cons, h.back (hl a List.mem_cons_self), rest]
    rfl

theorem mapM_fitting (h : ReadsBack fits) {items : List Value} {l : List α}
    (read : items.mapM ofValue? = some l) : ∀ a ∈ l, fits a := by
  induction items generalizing l with
  | nil =>
    cases read
    exact List.forall_mem_nil _
  | cons v items ih =>
    rw [List.mapM_cons] at read
    obtain ⟨a, ha, read⟩ := Option.bind_eq_some_iff.1 read
    obtain ⟨rest, hrest, read⟩ := Option.bind_eq_some_iff.1 read
    cases read
    exact List.forall_mem_cons.2 ⟨h.fitting ha, ih hrest⟩

theorem list (h : ReadsBack fits) : ReadsBack fun l : List α => ∀ a ∈ l, fits a where
  back hl := h.mapM_back hl
  fitting read := by
    obtain ⟨items, _, read⟩ := Option.bind_eq_some_iff.1 read
    exact h.mapM_fitting read

theorem option_always (h : ReadsBack fun _ : α => True)
    (solid : ∀ a : α, (toValue a).isNull = false) : ReadsBack fun _ : Option α => True :=
  always fun _ => (h.option solid).back fun _ _ => trivial

theorem list_always (h : ReadsBack fun _ : α => True) : ReadsBack fun _ : List α => True :=
  always fun _ => h.list.back fun _ _ => trivial

/-! ## texts and words -/

/-- values with a written form -/
theorem text {write : α → String} {read : String → Option α}
    (writes : ∀ a, toValue a = .text (write a)) (reads : ∀ v, ofValue? v = v.text?.bind read)
    (back : ∀ {a}, fits a → read (write a) = some a)
    (fitting : ∀ {s a}, read s = some a → fits a) : ReadsBack fits where
  back {a} ha := by
    rw [writes, reads]
    exact back ha
  fitting {v a} found := by
    rw [reads] at found
    obtain ⟨s, _, found⟩ := Option.bind_eq_some_iff.1 found
    exact fitting found

/-- words that are told apart by their labels -/
theorem word {label : α → String} {all : List α} (writes : ∀ a, toValue a = .text (label a))
    (reads : ∀ v, ofValue? v = ofLabel? label all v)
    (found : ∀ a, all.find? (fun b => label b == label a) = some a) :
    ReadsBack fun _ : α => True := by
  refine always fun a => ?_
  rw [writes, reads]
  exact found a

end ReadsBack

/-! ## plain values -/

theorem string_readsBack : ReadsBack fun _ : String => True := .always fun _ => rfl

theorem bool_readsBack : ReadsBack fun _ : Bool => True := .always fun _ => rfl

theorem number_readsBack : ReadsBack fun _ : UInt32 => True := by
  refine .always fun n => ?_
  have bound := n.toNat_lt
  have within : (0 : Int) ≤ n.toNat ∧ (n.toNat : Int) ≤ 4294967295 := by omega
  show (if (0 : Int) ≤ n.toNat ∧ (n.toNat : Int) ≤ 4294967295 then some (n.toNat : Int) else none).map
    (fun i => UInt32.ofNat i.toNat) = some n
  rw [if_pos within, Option.map_some, Int.toNat_natCast, UInt32.ofNat_toNat]

theorem uuid_readsBack : ReadsBack fun _ : Uuid => True :=
  .text (fun _ => rfl) (fun _ => rfl) (fun {u} _ => Uuid.read?_written u) fun _ => trivial

theorem instant_readsBack : ReadsBack fun i : Instant => i.isRepresentable = true :=
  .text (fun _ => rfl) (fun _ => rfl) Instant.read?_written Instant.isRepresentable_of_read?

theorem date_readsBack : ReadsBack fun d : Date => d.isRepresentable = true :=
  .text (fun _ => rfl) (fun _ => rfl) Date.read?_written Date.isRepresentable_of_read?

/-! ## fields -/

@[simp] theorem Value.fieldsNamed?_object (names last : List String) (fields : Fields) :
    (Value.object fields).fieldsNamed? names last = some fields := rfl

namespace Fields
section
variable [OfValue α] (name other : String) (v : Value) (rest : Fields)

@[simp] theorem required_cons : required (α := α) ((other, v) :: rest) name =
    if name == other then ofValue? v else required rest name := by
  unfold required
  rw [List.lookup_cons]
  cases name == other <;> rfl

@[simp] theorem optional_cons : optional (α := α) ((other, v) :: rest) name =
    if name == other then ofValue? v else optional rest name := by
  unfold optional
  rw [List.lookup_cons]
  cases name == other <;> rfl

@[simp] theorem defaulted_cons (default : α) : defaulted ((other, v) :: rest) name default =
    if name == other then ofValue? v else defaulted rest name default := by
  unfold defaulted
  rw [List.lookup_cons]
  cases name == other <;> rfl

end

section
variable [ToValue α] [OfValue α] {f : Fields} {name : String}

theorem required_fits {fits : α → Prop} (h : ReadsBack fits) {a : α}
    (read : f.required name = some a) : fits a := by
  obtain ⟨v, _, read⟩ := Option.bind_eq_some_iff.1 read
  exact h.fitting read

theorem optional_fits {fits : Option α → Prop} (h : ReadsBack fits) (nothing : fits none)
    {o : Option α} (read : f.optional name = some o) : fits o := by
  unfold optional at read
  split at read
  · cases read
    exact nothing
  · exact h.fitting read

end

end Fields

end SubscriptionBundles
