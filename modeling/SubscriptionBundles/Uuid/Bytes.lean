/-!
# Numbers as bytes

Big-endian byte strings of a fixed width: `bigEndian` writes a number, `ofBigEndian` reads one.
-/

namespace SubscriptionBundles

/-- the last `width` bytes of a number, the highest first -/
def bigEndian : Nat → Nat → List UInt8
  | 0, _ => []
  | width + 1, n => bigEndian width (n / 256) ++ [UInt8.ofNat n]

def ofBigEndian (bytes : List UInt8) : Nat := bytes.foldl (fun n b => 256 * n + b.toNat) 0

@[simp] theorem bigEndian_length (width n : Nat) : (bigEndian width n).length = width := by
  induction width generalizing n with
  | zero => rfl
  | succ width ih => simp [bigEndian, ih]

theorem ofBigEndian_bigEndian (width n : Nat) :
    ofBigEndian (bigEndian width n) = n % Nat.pow 256 width := by
  induction width generalizing n with
  | zero => simp [bigEndian, ofBigEndian, Nat.mod_one]
  | succ width ih =>
    have ih := ih (n / 256)
    simp only [ofBigEndian] at ih
    simp only [bigEndian, ofBigEndian, List.foldl_append, List.foldl_cons, List.foldl_nil, ih,
      UInt8.toNat_ofNat']
    show 256 * (n / 256 % Nat.pow 256 width) + n % 256 = n % (Nat.pow 256 width * 256)
    rw [Nat.mul_comm (Nat.pow 256 width) 256, Nat.mod_mul]
    omega

end SubscriptionBundles
