import SubscriptionBundles.Uuid.Bytes

/-!
# SHA-1

The hash that name-based identifiers are cut from (FIPS 180).

* `Sha1.padded`    the message with its closing bit, zeros and length, whole 64-byte blocks;
* `Sha1.schedule`  the 80 words of a block;
* `Sha1.absorb`    one block into the five-word state;
* `Sha1.hash`      the 20 bytes of a message.
-/

namespace SubscriptionBundles.Sha1

structure State where
  a : UInt32
  b : UInt32
  c : UInt32
  d : UInt32
  e : UInt32
deriving DecidableEq

def initial : State := ⟨0x67452301, 0xEFCDAB89, 0x98BADCFE, 0x10325476, 0xC3D2E1F0⟩

def rotateLeft (x n : UInt32) : UInt32 := (x <<< n) ||| (x >>> (32 - n))

def padded (message : List UInt8) : List UInt8 :=
  message ++ 0x80 :: List.replicate ((119 - message.length % 64) % 64) 0
    ++ bigEndian 8 (8 * message.length)

theorem padded_length (message : List UInt8) : (padded message).length % 64 = 0 := by
  simp only [padded, List.length_append, List.length_cons, List.length_replicate, bigEndian_length]
  omega

/-- four bytes a word -/
def words : List UInt8 → List UInt32
  | a :: b :: c :: d :: rest => UInt32.ofNat (ofBigEndian [a, b, c, d]) :: words rest
  | _ => []

/-- `count` more words in front of a schedule kept newest first -/
def extend : Nat → List UInt32 → List UInt32
  | 0, ws => ws
  | count + 1, ws =>
    let mixed := ws.getD 2 0 ^^^ ws.getD 7 0 ^^^ ws.getD 13 0 ^^^ ws.getD 15 0
    extend count (rotateLeft mixed 1 :: ws)

/-- the 80 words of a block of 16 -/
def schedule (block : List UInt32) : List UInt32 := (extend 64 block.reverse).reverse

/-- the round function and constant of a round -/
def mix (round : Nat) (s : State) : UInt32 :=
  if round < 20 then ((s.b &&& s.c) ||| (~~~ s.b &&& s.d)) + 0x5A827999
  else if round < 40 then (s.b ^^^ s.c ^^^ s.d) + 0x6ED9EBA1
  else if round < 60 then ((s.b &&& s.c) ||| (s.b &&& s.d) ||| (s.c &&& s.d)) + 0x8F1BBCDC
  else (s.b ^^^ s.c ^^^ s.d) + 0xCA62C1D6

def rounds : Nat → State → List UInt32 → State
  | _, s, [] => s
  | round, s, w :: ws =>
    rounds (round + 1)
      ⟨rotateLeft s.a 5 + mix round s + s.e + w, s.a, rotateLeft s.b 30, s.c, s.d⟩ ws

def absorb (s : State) (block : List UInt32) : State :=
  let t := rounds 0 s (schedule block)
  ⟨s.a + t.a, s.b + t.b, s.c + t.c, s.d + t.d, s.e + t.e⟩

def absorbAll : Nat → State → List UInt32 → State
  | 0, s, _ => s
  | blocks + 1, s, ws => absorbAll blocks (absorb s (ws.take 16)) (ws.drop 16)

def hash (message : List UInt8) : List UInt8 :=
  let ws := words (padded message)
  let s := absorbAll (ws.length / 16) initial ws
  [s.a, s.b, s.c, s.d, s.e].flatMap fun w => bigEndian 4 w.toNat

theorem hash_length (message : List UInt8) : (hash message).length = 20 := by
  simp [hash]

end SubscriptionBundles.Sha1
