import SubscriptionBundles.Text.CaseTable
import SubscriptionBundles.Text.Ranges

/-!
# Upper and lower case

* `Text.asciiLower`, `Text.asciiUpper`  change ASCII letters and nothing else;
* `Text.sameAscii`                      equality up to the case of ASCII letters;
* `Text.lower`                          the Unicode lower case of a text.

Two letters have a rule of their own in `Text.lower`: a capital I with a dot becomes two
characters, and a capital sigma takes its final form at the end of a word, that is after a letter
and not before one, characters that do not end a word set aside.
-/

namespace SubscriptionBundles.Text

def asciiLower (text : String) : String := String.ofList (text.toList.map Char.toLower)

def asciiUpper (text : String) : String := String.ofList (text.toList.map Char.toUpper)

def sameAscii (a b : String) : Bool := asciiLower a == asciiLower b

/-! ## Unicode -/

/-- the code point a run maps to -/
def lowerCode (code : Nat) : Nat :=
  match lowerRuns.find? fun r => r.1 ≤ code && code ≤ r.2.1 && (code - r.1) % r.2.2.1 == 0 with
  | some r => r.2.2.2 + (code - r.1)
  | none => code

def isCased (c : Char) : Bool := inRanges casedRanges c.toNat

def isCaseIgnorable (c : Char) : Bool := inRanges caseIgnorableRanges c.toNat

/-- a letter comes next, characters that do not end a word set aside -/
def meetsLetter (cs : List Char) : Bool :=
  match cs.dropWhile isCaseIgnorable with
  | [] => false
  | c :: _ => isCased c

/-- lower case of one character between what stands before it (nearest first) and after it -/
def lowerChar (before : List Char) (c : Char) (after : List Char) : List Char :=
  if c = '\u03A3' then [if meetsLetter before && !meetsLetter after then '\u03C2' else '\u03C3']
  else if c = '\u0130' then ['i', '\u0307']
  else [Char.ofNat (lowerCode c.toNat)]

def lowerChars (before : List Char) : List Char → List Char
  | [] => []
  | c :: after => lowerChar before c after ++ lowerChars (c :: before) after

def lower (text : String) : String := String.ofList (lowerChars [] text.toList)

/-! ## small laws -/

theorem sameAscii_iff {a b : String} : sameAscii a b = true ↔ asciiLower a = asciiLower b := by
  simp [sameAscii]

theorem sameAscii_refl (a : String) : sameAscii a a = true := by simp [sameAscii]

theorem sameAscii_comm (a b : String) : sameAscii a b = sameAscii b a := by
  simp only [sameAscii, Bool.beq_comm]

end SubscriptionBundles.Text
