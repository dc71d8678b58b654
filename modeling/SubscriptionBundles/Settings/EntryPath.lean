import SubscriptionBundles.Text.Case
import SubscriptionBundles.Text.Digits

/-!
# Paths of shared settings

The settings that all services share form a tree.  A variable `APP__…` sets one entry of it, and
the rest of its name is the entry's path: a root, then steps.

* `PathStep`                a name (`.x`) of an entry in a map, or an index (`[2]`) in a sequence;
* `PathStep.container`      what an entry has to be for the step to lead on from it;
* `cut`                     a text cut before each point and each opening bracket;
* `EntryPath.ofChars?`      the path that a text writes;
* `EntryPath.ofVariable?`   the path that a variable's name writes, in any case of letters.
-/

namespace SubscriptionBundles

inductive PathStep where
  | name (name : String)
  | index (index : Int)
deriving DecidableEq

structure EntryPath where
  root : String
  steps : List PathStep
deriving DecidableEq

namespace PathStep

/-- what an entry has to be for the step to lead on from it -/
def container : PathStep → String
  | .name _ => "map"
  | .index _ => "sequence"

end PathStep

namespace EntryPath

/-! ## names and indices -/

def isNameChar (c : Char) : Bool := c.isAlphanum || c = '_' || c = '-' || c = ' '

def isName (cs : List Char) : Bool := !cs.isEmpty && cs.all isNameChar

def isGap (c : Char) : Bool := c = ' ' || c = '\t'

def largestIndex : Nat := 9223372036854775807

/-- digits and blanks after them; a negative number goes one further than a positive one -/
def magnitude? (negative : Bool) (cs : List Char) : Option Nat :=
  match Text.takeLongNumber cs with
  | some (n, gap) => if gap.all isGap && n ≤ largestIndex + negative.toNat then some n else none
  | none => none

/-- a whole number between blanks; one below zero counts from the end -/
def index? (cs : List Char) : Option Int :=
  match cs.dropWhile isGap with
  | '-' :: digits => (magnitude? true digits).map fun n => -n
  | digits => (magnitude? false digits).map fun n => n

/-! ## steps -/

/-- a text cut before each point and each opening bracket -/
def cut : List Char → List Char × List (List Char)
  | [] => ([], [])
  | c :: rest =>
    let pieces := cut rest
    if c = '.' || c = '[' then ([], (c :: pieces.1) :: pieces.2) else (c :: pieces.1, pieces.2)

def step? : List Char → Option PathStep
  | '.' :: name => if isName name then some (.name (String.ofList name)) else none
  | '[' :: rest => if rest.getLast? = some ']' then (index? rest.dropLast).map .index else none
  | _ => none

/-- the path that a text writes: neither a name nor an index holds a point or an opening bracket -/
def ofChars? (cs : List Char) : Option EntryPath := do
  let (root, others) := cut cs
  if isName root then return ⟨String.ofList root, ← others.mapM step?⟩ else none

/-! ## variables -/

/-- two underscores in a row stand for a point -/
def pointed : List Char → List Char
  | '_' :: '_' :: rest => '.' :: pointed rest
  | c :: rest => c :: pointed rest
  | [] => []

def variableMark : List Char := ['a', 'p', 'p', '_', '_']

/-- a variable of another name has no path, nor has one whose name writes none -/
def ofVariable? (name : String) : Option EntryPath :=
  let cs := (Text.lower name).toList
  if variableMark.isPrefixOf cs then ofChars? (pointed (cs.drop variableMark.length)) else none

/-! ## small laws -/

theorem cut_nil : cut [] = ([], []) := rfl

/-- cutting loses nothing -/
theorem cut_flatten (cs : List Char) : (cut cs).1 ++ (cut cs).2.flatten = cs := by
  induction cs with
  | nil => rfl
  | cons c rest ih =>
    simp only [cut]
    split <;> simp [ih]

/-- what stands before the first cut has no mark of a step -/
theorem not_mem_cut {c : Char} (cs : List Char) (mark : c = '.' ∨ c = '[') : c ∉ (cut cs).1 := by
  induction cs with
  | nil => simp [cut]
  | cons d rest ih =>
    simp only [cut]
    split
    · simp
    · next other =>
      simp only [Bool.or_eq_true, decide_eq_true_eq, not_or] at other
      simp only [List.mem_cons, not_or]
      refine ⟨?_, ih⟩
      rintro rfl
      exact mark.elim other.1 other.2

end EntryPath

end SubscriptionBundles
