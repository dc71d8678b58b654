/-!
# Decimal digits

* `Text.digit`       the character of a number below ten;
* `Text.padded`      a fixed number of digits, zeros in front;
* `Text.decimal`     all digits of a number, none in front;
* `Text.ofDigits`    the number that digits name;
* `Text.takeNumber`  a number at the head of a text, of at most so many digits.

`ofDigits_padded` and `ofDigits_decimal` say that what is written names the number written.
-/

namespace SubscriptionBundles.Text

def digit (n : Nat) : Char := Char.ofNat (48 + n % 10)

def digitValue (c : Char) : Nat := c.toNat - 48

/-- the last `width` digits of a number -/
def padded : Nat → Nat → List Char
  | 0, _ => []
  | width + 1, n => padded width (n / 10) ++ [digit n]

def decimal (n : Nat) : List Char :=
  if n < 10 then [digit n] else decimal (n / 10) ++ [digit n]
termination_by n

def number (n : Nat) : String := String.ofList (decimal n)

def ofDigits (cs : List Char) : Nat := cs.foldl (fun n c => 10 * n + digitValue c) 0

/-- a number at the head of a text: at least one digit, at most `limit` -/
def takeNumber (limit : Nat) (cs : List Char) : Option (Nat × List Char) :=
  let digits := (cs.take limit).takeWhile Char.isDigit
  if digits.isEmpty then none else some (ofDigits digits, cs.drop digits.length)

/-- a number at the head of a text, however many digits it has -/
def takeLongNumber (cs : List Char) : Option (Nat × List Char) := takeNumber cs.length cs

/-! ## small laws -/

theorem digit_val (n : Nat) : (digit n).toNat = 48 + n % 10 := by
  have h : n % 10 < 10 := Nat.mod_lt _ (by decide)
  have valid : (48 + n % 10).isValidChar := by left; omega
  rw [digit, Char.ofNat, dif_pos valid]
  rfl

theorem digitValue_digit (n : Nat) : digitValue (digit n) = n % 10 := by
  simp [digitValue, digit_val]

theorem ofDigits_concat (cs : List Char) (n : Nat) :
    ofDigits (cs ++ [digit n]) = 10 * ofDigits cs + n % 10 := by
  simp [ofDigits, digitValue_digit]

@[simp] theorem padded_length (width n : Nat) : (padded width n).length = width := by
  induction width generalizing n with
  | zero => rfl
  | succ width ih => simp [padded, ih]

theorem ofDigits_padded (width n : Nat) : ofDigits (padded width n) = n % Nat.pow 10 width := by
  induction width generalizing n with
  | zero => simp [padded, ofDigits, Nat.mod_one]
  | succ width ih =>
    rw [padded, ofDigits_concat, ih]
    show 10 * (n / 10 % Nat.pow 10 width) + n % 10 = n % (Nat.pow 10 width * 10)
    rw [Nat.mul_comm (Nat.pow 10 width) 10, Nat.mod_mul]
    omega

theorem ofDigits_decimal (n : Nat) : ofDigits (decimal n) = n := by
  induction n using decimal.induct with
  | case1 n h => rw [decimal, if_pos h]; simp [ofDigits, digitValue_digit]; omega
  | case2 n h ih => rw [decimal, if_neg h, ofDigits_concat, ih]; omega

end SubscriptionBundles.Text
