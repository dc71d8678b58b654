import SubscriptionBundles.Calendar.Written
import SubscriptionBundles.Uuid.Basic

/-!
# Messages

The values that services exchange: texts, whole numbers, lists and objects with named fields.

* `Value`                              a message;
* `ToValue`, `OfValue`                 writing a type as a message, and reading it from one;
* `Value.fieldsNamed?`                 the fields of an object, which may also be given as the list of
                                       their values;
* `Fields.required`, `Fields.optional`, `Fields.defaulted`  a field that must be there, one that may
                                       be missing or null, one that may be missing only;
* `ofLabel?`                           one of several words.

Fields that a reader does not ask for are ignored.
-/

namespace SubscriptionBundles

inductive Value
  | null
  | bool (b : Bool)
  | int (n : Int)
  /-- digits with a point before the last `places` of them -/
  | decimal (digits : Int) (places : Nat)
  | text (s : String)
  | list (items : List Value)
  | object (fields : List (String × Value))

instance : Inhabited Value := ⟨.null⟩

/-- the fields of an object -/
abbrev Fields := List (String × Value)

class ToValue (α : Type) where
  toValue : α → Value

class OfValue (α : Type) where
  ofValue? : Value → Option α

export ToValue (toValue)
export OfValue (ofValue?)

namespace Value

def fields? : Value → Option Fields
  | object fields => some fields
  | _ => none

/-- the fields of an object, or of the list of their values in the order of their names, the last of
which may be missing -/
def fieldsNamed? (names last : List String) : Value → Option Fields
  | object fields => some fields
  | list items =>
    if names.length ≤ items.length ∧ items.length ≤ names.length + last.length then
      some ((names ++ last).zip items)
    else none
  | _ => none

def items? : Value → Option (List Value)
  | list items => some items
  | _ => none

def text? : Value → Option String
  | text s => some s
  | _ => none

def isNull : Value → Bool
  | null => true
  | _ => false

end Value

/-! ## plain values -/

instance : ToValue Value := ⟨id⟩
instance : OfValue Value := ⟨some⟩

instance : ToValue Unit := ⟨fun _ => .null⟩

instance : ToValue Bool := ⟨.bool⟩
instance : OfValue Bool := ⟨fun
  | .bool b => some b
  | _ => none⟩

instance : ToValue String := ⟨.text⟩
instance : OfValue String := ⟨Value.text?⟩

/-- a whole number between bounds -/
def wholeNumber? (low high : Int) : Value → Option Int
  | .int n => if low ≤ n ∧ n ≤ high then some n else none
  | _ => none

instance : ToValue UInt32 := ⟨fun n => .int n.toNat⟩
instance : OfValue UInt32 :=
  ⟨fun v => (wholeNumber? 0 4294967295 v).map fun n => UInt32.ofNat n.toNat⟩

/-- Counts and offsets have 64 bits. -/
instance : ToValue Nat := ⟨fun n => .int n⟩
instance : OfValue Nat := ⟨fun v => (wholeNumber? 0 18446744073709551615 v).map Int.toNat⟩

/-- Numbers with a sign have 32 bits. -/
instance : OfValue Int := ⟨wholeNumber? (-2147483648) 2147483647⟩

instance : ToValue Uuid := ⟨fun u => .text u.written⟩
instance : OfValue Uuid := ⟨fun v => v.text?.bind Uuid.read?⟩

instance : ToValue Date := ⟨fun d => .text d.written⟩
instance : OfValue Date := ⟨fun v => v.text?.bind Date.read?⟩

instance : ToValue Instant := ⟨fun i => .text i.written⟩
instance : OfValue Instant := ⟨fun v => v.text?.bind Instant.read?⟩

/-! ## containers -/

section
variable {α β : Type}

instance [ToValue α] : ToValue (Option α) := ⟨fun
  | none => .null
  | some a => toValue a⟩
instance [OfValue α] : OfValue (Option α) := ⟨fun v =>
  if v.isNull then some none else (ofValue? v).map some⟩

instance [ToValue α] : ToValue (List α) := ⟨fun l => .list (l.map toValue)⟩
instance [OfValue α] : OfValue (List α) := ⟨fun v => v.items?.bind (·.mapM ofValue?)⟩

/-- pairs are lists of two -/
instance [OfValue α] [OfValue β] : OfValue (α × β) := ⟨fun
  | .list [a, b] => do return (← ofValue? a, ← ofValue? b)
  | _ => none⟩

end

/-! ## fields -/

namespace Fields

variable {α : Type} [OfValue α]

def required (fields : Fields) (name : String) : Option α := (fields.lookup name).bind ofValue?

def optional (fields : Fields) (name : String) : Option (Option α) :=
  match fields.lookup name with
  | none => some none
  | some v => ofValue? v

def defaulted (fields : Fields) (name : String) (default : α) : Option α :=
  match fields.lookup name with
  | none => some default
  | some v => ofValue? v

end Fields

/-! ## words -/

/-- the word of a message: a text, or the one field of an object with nothing in it -/
def word? : Value → Option String
  | .text s => some s
  | .object [(s, .null)] => some s
  | _ => none

def ofLabel? {α : Type} (label : α → String) (all : List α) (v : Value) : Option α :=
  (word? v).bind fun s => all.find? fun a => label a == s

end SubscriptionBundles
