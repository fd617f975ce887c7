import Mathlib.Data.List.Forall2
import SerializerContract.Proofs.Codec.Extent
import SerializerContract.Proofs.Codec.Items

/-! Bytes of numbers in either order. In network order they are the digits of the number to the base of 256 as
one writes them, the most significant first; in the other order they are the same bytes from the last to the
first. A word whose bytes are exchanged by shifting turns the one into the other. -/
namespace SerializerContract

namespace Bytes

/-- The number whose base-256 digits the bytes are, most significant first. -/
def positional (bytes : Bytes) : Nat := bytes.foldl (fun higher byte => higher * 256 + byte.toNat) 0

/-- Bytes read from the other end are digits in the other order. -/
theorem positional_reverse (bytes : Bytes) : positional bytes.reverse = ofLittleEndian bytes := by
  induction bytes with
  | nil => rfl
  | cons byte bytes ih =>
      rw [positional] at ih
      rw [List.reverse_cons, positional, List.foldl_append, ih, ofLittleEndian, List.foldl_cons, List.foldl_nil]
      omega

theorem positional_eq (bytes : Bytes) : positional bytes = ofLittleEndian bytes.reverse := by
  rw [← positional_reverse, List.reverse_reverse]

/-- Reversing each field keeps the number of bytes. -/
theorem length_flatten_reversed (fields : List Bytes) :
    (fields.map List.reverse).flatten.length = fields.flatten.length := by
  induction fields with
  | nil => rfl
  | cons field fields ih =>
      rw [List.map_cons, List.flatten_cons, List.flatten_cons, List.length_append, List.length_append, ih,
        List.length_reverse]

end Bytes

/-- The two byte orders are each other's reverse. -/
theorem ByteOrder.reverse_toBytes_big (n value : Nat) : (big.toBytes n value).reverse = little.toBytes n value :=
  List.reverse_reverse _

/-- A number that fits is read off its digits, most significant first. -/
theorem ByteOrder.positional_toBytes_big {n value : Nat} (h : value < Nat.pow 256 n) :
    Bytes.positional (big.toBytes n value) = value := by
  rw [toBytes, Bytes.positional_reverse, Bytes.ofLittleEndian_littleEndian, Nat.mod_eq_of_lt h]

namespace Word

/-- Shifts so many bytes out of `bits`, the last one first, and each of them into `shifted` from the right. -/
def shiftOver {w : Nat} : Nat → BitVec w → BitVec w → BitVec w
  | 0, _, shifted => shifted
  | k + 1, bits, shifted => shiftOver k (bits >>> 8) (shifted <<< 8 ||| bits &&& 0xFF#w)

/-- A word with its bytes in the other order. -/
def exchange {n : Nat} (bits : BitVec (8 * n)) : BitVec (8 * n) := shiftOver n bits 0

variable {n : Nat}

theorem toNat_lt (bits : BitVec (8 * n)) : bits.toNat < Nat.pow 256 n := by
  rw [pow_256_eq_two_pow]
  exact bits.isLt

theorem toNat_ofNat_of_lt {value : Nat} (h : value < Nat.pow 256 n) : (BitVec.ofNat (8 * n) value).toNat = value := by
  rw [pow_256_eq_two_pow] at h
  exact Nat.mod_eq_of_lt h

/-- One turn of the loop appends one digit, and none is lost as long as there is room for one more. -/
theorem toNat_shiftIn {k : Nat} (bits shifted : BitVec (8 * n)) (hRoom : k < n)
    (hShifted : shifted.toNat < Nat.pow 256 k) :
    (shifted <<< 8 ||| bits &&& 0xFF#(8 * n)).toNat = shifted.toNat * 256 + bits.toNat % 256 := by
  have hWide : Nat.pow 256 (k + 1) ≤ 2 ^ (8 * n) :=
    Nat.le_trans (Nat.pow_le_pow_right (by decide) hRoom) (Nat.le_of_eq (pow_256_eq_two_pow n))
  have hStep : Nat.pow 256 (k + 1) = Nat.pow 256 k * 256 := rfl
  have hByte : 255 % 2 ^ (8 * n) = 2 ^ 8 - 1 := by
    have hPos : 0 < Nat.pow 256 k := Nat.pow_pos (by decide)
    exact Nat.mod_eq_of_lt (by omega)
  have hDigit : bits.toNat % 2 ^ 8 < 2 ^ 8 := Nat.mod_lt _ (by decide)
  have hKept : shifted.toNat * 2 ^ 8 % 2 ^ (8 * n) = shifted.toNat <<< 8 := by
    rw [Nat.shiftLeft_eq]
    exact Nat.mod_eq_of_lt (by omega)
  rw [BitVec.toNat_or, BitVec.toNat_shiftLeft, BitVec.toNat_and, BitVec.toNat_ofNat, hByte,
    Nat.and_two_pow_sub_one_eq_mod, Nat.shiftLeft_eq, hKept, ← Nat.shiftLeft_add_eq_or_of_lt hDigit]
  exact congrArg (· + bits.toNat % 256) (Nat.shiftLeft_eq shifted.toNat 8)

/-- Each round of the exchange moves the lowest byte over as a new last digit. -/
theorem toNat_shiftOver {k : Nat} (bits shifted : BitVec (8 * n)) (hRoom : k ≤ n)
    (hShifted : shifted.toNat < Nat.pow 256 (n - k)) :
    (shiftOver k bits shifted).toNat =
      (Bytes.littleEndian k bits.toNat).foldl (fun higher byte => higher * 256 + byte.toNat) shifted.toNat := by
  induction k generalizing bits shifted with
  | zero => rfl
  | succ k ih =>
      have hIn := toNat_shiftIn bits shifted (k := n - (k + 1)) (by omega) hShifted
      have hOne : n - k = n - (k + 1) + 1 := by omega
      have hStep : Nat.pow 256 (n - (k + 1) + 1) = Nat.pow 256 (n - (k + 1)) * 256 := rfl
      rw [shiftOver, ih _ _ (by omega) (by rw [hIn, hOne, hStep]; omega), hIn, Bytes.littleEndian, List.foldl_cons,
        BitVec.toNat_ushiftRight, Nat.shiftRight_eq_div_pow, UInt8.toNat_ofNat']

/-- The exchange reads the digits of a number from the other end. -/
theorem toNat_exchange (bits : BitVec (8 * n)) :
    (exchange bits).toNat = Bytes.positional (Bytes.littleEndian n bits.toNat) :=
  toNat_shiftOver bits 0 (Nat.le_refl n) (by rw [Nat.sub_self]; exact Nat.zero_lt_one)

/-- The bytes of an exchanged word are those of the word in reverse. -/
theorem littleEndian_exchange (bits : BitVec (8 * n)) :
    Bytes.littleEndian n (exchange bits).toNat = (Bytes.littleEndian n bits.toNat).reverse := by
  have hSame := Bytes.littleEndian_ofLittleEndian (Bytes.littleEndian n bits.toNat).reverse
  rw [List.length_reverse, Bytes.length_littleEndian] at hSame
  rw [toNat_exchange, Bytes.positional_eq, hSame]

/-- Exchanging the bytes twice gives the number back. -/
@[simp] theorem exchange_exchange (bits : BitVec (8 * n)) : exchange (exchange bits) = bits := by
  apply BitVec.eq_of_toNat_eq
  rw [toNat_exchange, littleEndian_exchange, Bytes.positional_reverse, Bytes.ofLittleEndian_littleEndian,
    Nat.mod_eq_of_lt (toNat_lt bits)]

/-- What is read in the other byte order is the number with its bytes exchanged. -/
theorem ofNat_ofLittleEndian_reverse {bytes : Bytes} (h : bytes.length = n) :
    BitVec.ofNat (8 * n) (Bytes.ofLittleEndian bytes.reverse) =
      exchange (BitVec.ofNat (8 * n) (Bytes.ofLittleEndian bytes)) := by
  subst h
  apply BitVec.eq_of_toNat_eq
  have hReversed := Bytes.ofLittleEndian_lt bytes.reverse
  rw [List.length_reverse] at hReversed
  rw [toNat_exchange, toNat_ofNat_of_lt (Bytes.ofLittleEndian_lt bytes), toNat_ofNat_of_lt hReversed,
    Bytes.littleEndian_ofLittleEndian, Bytes.positional_eq]

end Word

namespace Codec

/-- In network order a number is written as the other order writes the exchanged word. -/
theorem number_big_encode {n : Nat} (bits : BitVec (8 * n)) :
    (number .big n).encode bits = (number .little n).encode (Word.exchange bits) :=
  congrArg Emitted.done (Word.littleEndian_exchange bits).symm

/-- What is read in network order is the exchanged word of what the other order reads. -/
theorem number_big_decode {n : Nat} (target : BitVec (8 * n)) (bytes : Bytes) :
    (number .big n).decode target bytes =
      ⟨Word.exchange ((number .little n).decode (Word.exchange target) bytes).value,
        ((number .little n).decode (Word.exchange target) bytes).rest,
        ((number .little n).decode (Word.exchange target) bytes).stop⟩ := by
  cases hSplit : splitFront n bytes with
  | none => simp [number, hSplit]
  | some parts =>
      obtain ⟨front, rest⟩ := parts
      have hFront : front.length = n := (splitFront_eq_some hSplit).2
      simp only [number, hSplit, ByteOrder.ofBytes, Word.ofNat_ofLittleEndian_reverse hFront]

end Codec

end SerializerContract
