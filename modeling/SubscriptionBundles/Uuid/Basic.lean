import SubscriptionBundles.Text.Hex
import SubscriptionBundles.Uuid.Sha1

/-!
# Identifiers

Bundles, subscriptions and accounts are named by UUIDs.

* `Uuid.written`, `Uuid.read?`  the lower-case hyphenated text, and the value of a text: the
                                hyphenated form, bare, in braces or after `urn:uuid:`, or the 32
                                digits alone, in either case;
* `Uuid.named`                  the version-5 identifier of a name inside a name space.

`Uuid.read?_written` says that what is written reads back.
-/

namespace SubscriptionBundles

structure Uuid where
  bits : BitVec 128
deriving DecidableEq

namespace Uuid

def nil : Uuid := ⟨0⟩

instance : Inhabited Uuid := ⟨nil⟩

def ofNat (n : Nat) : Uuid := ⟨BitVec.ofNat 128 n⟩

/-- order of the written forms -/
instance : LE Uuid := ⟨fun a b => a.bits.toNat ≤ b.bits.toNat⟩
instance (a b : Uuid) : Decidable (a ≤ b) :=
  inferInstanceAs (Decidable (a.bits.toNat ≤ b.bits.toNat))

def bytes (u : Uuid) : List UInt8 := bigEndian 16 u.bits.toNat

def ofBytes (bytes : List UInt8) : Uuid := ofNat (ofBigEndian bytes)

/-! ## text -/

/-- hyphens after the 8th, 12th, 16th and 20th digit -/
def hyphenate (digits : List Char) : List Char :=
  digits.take 8 ++ '-' :: (digits.drop 8).take 4 ++ '-' :: (digits.drop 12).take 4
    ++ '-' :: (digits.drop 16).take 4 ++ '-' :: digits.drop 20

def chars (u : Uuid) : List Char := hyphenate (Text.hexPadded 32 u.bits.toNat)

def written (u : Uuid) : String := String.ofList u.chars

def readDigits? (digits : List Char) : Option Uuid :=
  if digits.length = 32 then (Text.hexNumber? digits).map ofNat else none

/-- the five groups of digits, what stands between them taken out -/
def ungroup (cs : List Char) : List Char :=
  cs.take 8 ++ (cs.drop 9).take 4 ++ (cs.drop 14).take 4 ++ (cs.drop 19).take 4 ++ cs.drop 24

def readHyphenated? (cs : List Char) : Option Uuid :=
  if cs = hyphenate (ungroup cs) then readDigits? (ungroup cs) else none

/-- stands before an identifier in either case -/
def urn : List Char := ['u', 'r', 'n', ':', 'u', 'u', 'i', 'd', ':']

def readChars? (cs : List Char) : Option Uuid :=
  if cs.length = 32 then readDigits? cs
  else if cs.length = 38 then
    if cs.head? = some '\x7b' ∧ cs.getLast? = some '\x7d' then readHyphenated? (cs.tail.dropLast)
    else none
  else if cs.length = 45 then
    if (cs.take 9).map Char.toLower = urn then readHyphenated? (cs.drop 9) else none
  else readHyphenated? cs

def read? (text : String) : Option Uuid := readChars? text.toList

/-! ## names -/

/-- marks 16 hash bytes as a version-5 identifier -/
def stamp (bytes : List UInt8) : List UInt8 :=
  (bytes.modify 6 fun b => (b &&& 0x0F) ||| 0x50).modify 8 fun b => (b &&& 0x3F) ||| 0x80

def named (space : Uuid) (name : String) : Uuid :=
  ofBytes (stamp ((Sha1.hash (space.bytes ++ name.toUTF8.toList)).take 16))

/-! ## reading back -/

@[simp] theorem ofNat_toNat (u : Uuid) : ofNat u.bits.toNat = u := by
  simp [ofNat]

theorem ofBytes_bytes (u : Uuid) : ofBytes u.bytes = u := by
  have lt : u.bits.toNat < Nat.pow 256 16 := u.bits.isLt
  rw [ofBytes, bytes, ofBigEndian_bigEndian, Nat.mod_eq_of_lt lt, ofNat_toNat]

theorem readDigits?_hexPadded (u : Uuid) :
    readDigits? (Text.hexPadded 32 u.bits.toNat) = some u := by
  have lt : u.bits.toNat < Nat.pow 16 32 := u.bits.isLt
  rw [readDigits?, if_pos (Text.hexPadded_length 32 _), Text.hexNumber?_hexPadded,
    Nat.mod_eq_of_lt lt, Option.map_some, ofNat_toNat]

theorem ungroup_append {a b c d : List Char} (ha : a.length = 8) (hb : b.length = 4)
    (hc : c.length = 4) (hd : d.length = 4) (e : List Char) :
    ungroup (a ++ '-' :: b ++ '-' :: c ++ '-' :: d ++ '-' :: e) = a ++ b ++ c ++ d ++ e := by
  simp [ungroup, List.drop_append, ha, hb, hc, hd, List.drop_of_length_le]

theorem ungroup_hyphenate {digits : List Char} (h : digits.length = 32) :
    ungroup (hyphenate digits) = digits := by
  rw [hyphenate, ungroup_append (by simp [h]) (by simp [h]) (by simp [h]) (by simp [h])]
  have split (n k : Nat) : (digits.drop n).take k ++ digits.drop (n + k) = digits.drop n := by
    rw [← List.drop_drop, List.take_append_drop]
  simp only [List.append_assoc, split 16 4, split 12 4, split 8 4, List.take_append_drop]

theorem readHyphenated?_hyphenate {digits : List Char} (h : digits.length = 32) :
    readHyphenated? (hyphenate digits) = readDigits? digits := by
  simp [readHyphenated?, ungroup_hyphenate h]

theorem hyphenate_length {digits : List Char} (h : digits.length = 32) :
    (hyphenate digits).length = 36 := by
  simp [hyphenate, h]

theorem readChars?_hyphenate {digits : List Char} (h : digits.length = 32) :
    readChars? (hyphenate digits) = readDigits? digits := by
  simp [readChars?, hyphenate_length h, readHyphenated?_hyphenate h]

theorem read?_written (u : Uuid) : read? u.written = some u := by
  rw [read?, written, String.toList_ofList, chars,
    readChars?_hyphenate (Text.hexPadded_length 32 _), readDigits?_hexPadded]

end Uuid

end SubscriptionBundles
