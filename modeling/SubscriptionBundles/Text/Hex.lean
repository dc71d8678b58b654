/-!
# Hexadecimal digits

* `Text.hexDigit`, `Text.hexPadded`  lower-case digits, a fixed number of them;
* `Text.hexValue?`                   the value of a digit in either case;
* `Text.hexNumber?`                  the number that a row of digits names.
-/

namespace SubscriptionBundles.Text

def hexDigit (n : Nat) : Char :=
  let d := n % 16
  Char.ofNat (if d < 10 then 48 + d else 87 + d)

def hexPadded : Nat → Nat → List Char
  | 0, _ => []
  | width + 1, n => hexPadded width (n / 16) ++ [hexDigit n]

def hexValue? (c : Char) : Option Nat :=
  let n := c.toNat
  if 48 ≤ n ∧ n ≤ 57 then some (n - 48)
  else if 97 ≤ n ∧ n ≤ 102 then some (n - 87)
  else if 65 ≤ n ∧ n ≤ 70 then some (n - 55)
  else none

/-- reads on from a number already read -/
def hexNumberFrom? (n : Nat) : List Char → Option Nat
  | [] => some n
  | c :: cs => (hexValue? c).bind fun d => hexNumberFrom? (16 * n + d) cs

def hexNumber? (cs : List Char) : Option Nat := hexNumberFrom? 0 cs

/-! ## small laws -/

@[simp] theorem hexPadded_length (width n : Nat) : (hexPadded width n).length = width := by
  induction width generalizing n with
  | zero => rfl
  | succ width ih => simp [hexPadded, ih]

theorem hexValue?_hexDigit (n : Nat) : hexValue? (hexDigit n) = some (n % 16) := by
  have all : ∀ d : Fin 16, hexValue? (hexDigit d.val) = some d.val := by decide
  have same : hexDigit n = hexDigit (n % 16) := by simp [hexDigit]
  rw [same]
  exact all ⟨n % 16, Nat.mod_lt _ (by decide)⟩

theorem hexNumberFrom?_append (n : Nat) (cs ds : List Char) :
    hexNumberFrom? n (cs ++ ds) = (hexNumberFrom? n cs).bind fun m => hexNumberFrom? m ds := by
  induction cs generalizing n with
  | nil => rfl
  | cons c cs ih =>
    simp only [List.cons_append, hexNumberFrom?]
    cases hexValue? c with
    | none => rfl
    | some d => simp [ih]

theorem hexNumber?_hexPadded (width n : Nat) :
    hexNumber? (hexPadded width n) = some (n % Nat.pow 16 width) := by
  induction width generalizing n with
  | zero => simp [hexPadded, hexNumber?, hexNumberFrom?, Nat.mod_one]
  | succ width ih =>
    have ih := ih (n / 16)
    simp only [hexNumber?] at ih ⊢
    rw [hexPadded, hexNumberFrom?_append, ih]
    simp only [Option.bind_some, hexNumberFrom?, hexValue?_hexDigit, Option.some.injEq]
    show 16 * (n / 16 % Nat.pow 16 width) + n % 16 = n % (Nat.pow 16 width * 16)
    rw [Nat.mul_comm (Nat.pow 16 width) 16, Nat.mod_mul]
    omega

end SubscriptionBundles.Text
