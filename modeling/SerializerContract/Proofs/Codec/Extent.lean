import SerializerContract.Proofs.Codec.Layout

/-! How much a codec takes from any source, whether or not there is a value in it. The length of a source, and
the length field in it, decide whether a value can be read, and how many bytes it takes. -/
namespace SerializerContract

/-- The digits of a number that bytes spell are these bytes. -/
theorem Bytes.littleEndian_ofLittleEndian (bytes : Bytes) :
    littleEndian bytes.length (ofLittleEndian bytes) = bytes := by
  induction bytes with
  | nil => rfl
  | cons byte bytes ih =>
      have hByte := byte.toNat_lt
      have hDigit : UInt8.ofNat (ofLittleEndian (byte :: bytes)) = byte := by
        apply UInt8.toNat_inj.mp
        rw [UInt8.toNat_ofNat', ofLittleEndian]
        omega
      have hRest : ofLittleEndian (byte :: bytes) / 256 = ofLittleEndian bytes := by
        rw [ofLittleEndian]
        omega
      rw [List.length_cons, littleEndian, hDigit, hRest, ih]

/-- A number is written as the bytes that spelled it. -/
theorem ByteOrder.toBytes_ofBytes (order : ByteOrder) {n : Nat} {bytes : Bytes} (h : bytes.length = n) :
    order.toBytes n (order.ofBytes bytes) = bytes := by
  subst h
  cases order with
  | little => exact Bytes.littleEndian_ofLittleEndian bytes
  | big =>
      have hSame := Bytes.littleEndian_ofLittleEndian bytes.reverse
      rw [List.length_reverse] at hSame
      rw [toBytes, ofBytes, hSame, List.reverse_reverse]

namespace Codec

variable {α β ε : Type}

/-- The bytes are read as this value in front of anything, whatever the target held. -/
def Spells (codec : Codec α) (front : Bytes) (v : α) : Prop :=
  ∀ target suffix, codec.decode target (front ++ suffix) = ⟨v, suffix, none⟩

/-- No value can be read from the front of the bytes. -/
def Rejects (codec : Codec α) (bytes : Bytes) : Prop := ∀ target, (codec.decode target bytes).stop ≠ none

/-- Every value takes `n` bytes: so many bytes are always a value, and fewer never are. -/
structure Sized (codec : Codec α) (n : Nat) : Prop where
  spells : ∀ front, front.length = n → ∃ v, codec.Spells front v
  rejects : ∀ bytes, bytes.length < n → codec.Rejects bytes

/-- Any bytes of the right number spell a number. -/
theorem number_spells (order : ByteOrder) {n : Nat} {front : Bytes} (h : front.length = n) :
    (number order n).Spells front (BitVec.ofNat (8 * n) (order.ofBytes front)) := by
  intro target suffix
  simp only [number, splitFront_append h]

/-- As many bytes as a number has are a number, and fewer never are. -/
theorem number_sized (order : ByteOrder) (n : Nat) : (number order n).Sized n where
  spells front h := ⟨_, number_spells order h⟩
  rejects bytes h target := by simp [number, splitFront_of_lt h]

theorem byte_sized : byte.Sized 1 where
  spells front h := by
    obtain ⟨first, rfl⟩ := List.length_eq_one_iff.mp h
    exact ⟨first, fun _ _ => rfl⟩
  rejects bytes h target := by
    obtain rfl := List.length_eq_zero_iff.mp (Nat.lt_one_iff.mp h)
    simp [byte]

/-- Two values of fixed size have a fixed size together. -/
theorem Sized.both {first : Codec α} {second : Codec β} {m n : Nat} (hFirst : first.Sized m)
    (hSecond : second.Sized n) : (both first second).Sized (m + n) where
  spells front h := by
    obtain ⟨one, two, rfl, hOne⟩ := exists_front (Nat.le_trans (Nat.le_add_right m n) (Nat.le_of_eq h.symm))
    rw [List.length_append] at h
    obtain ⟨v, hv⟩ := hFirst.spells one hOne
    obtain ⟨w, hw⟩ := hSecond.spells two (by omega)
    refine ⟨(v, w), fun target suffix => ?_⟩
    simp only [Codec.both, List.append_assoc, hv target.1, hw target.2]
  rejects bytes h target := by
    by_cases hShort : bytes.length < m
    · have hStop := hFirst.rejects bytes hShort target.1
      cases hOne : (first.decode target.1 bytes).stop with
      | none => exact absurd hOne hStop
      | some stop => simp [Codec.both, hOne]
    · obtain ⟨one, two, rfl, hOne⟩ := exists_front (Nat.not_lt.mp hShort)
      rw [List.length_append] at h
      obtain ⟨v, hv⟩ := hFirst.spells one hOne
      have hStop := hSecond.rejects two (by omega) target.2
      simpa only [Codec.both, hv target.1] using hStop

/-- So many elements are read from so many times their size, one after the other. -/
theorem Sized.decodeMany {codec : Codec ε} {size : Nat} (h : codec.Sized size) (n : Nat) {body : Bytes}
    (hBody : body.length = n * size) :
    ∃ xs : List ε, xs.length = n ∧ ∀ suffix, codec.decodeMany n (body ++ suffix) = ⟨xs, suffix, none⟩ := by
  induction n generalizing body with
  | zero =>
      obtain rfl := List.length_eq_zero_iff.mp (hBody.trans (Nat.zero_mul size))
      exact ⟨[], rfl, fun _ => rfl⟩
  | succ n ih =>
      rw [Nat.succ_mul] at hBody
      have hLonger : size ≤ body.length := by omega
      obtain ⟨front, back, rfl, hFront⟩ := exists_front hLonger
      rw [List.length_append] at hBody
      have hBack : back.length = n * size := by omega
      obtain ⟨x, hx⟩ := h.spells front hFront
      obtain ⟨xs, rfl, hxs⟩ := ih hBack
      refine ⟨x :: xs, rfl, fun suffix => ?_⟩
      simp only [Codec.decodeMany, List.append_assoc, hx codec.blank, hxs suffix]

/-! ## Counted elements -/

/-- How many elements a length field says there are. -/
def count (field : Bytes) : Nat := ByteOrder.network.ofBytes field

theorem count_lt {field : Bytes} (h : field.length = 4) : count field < 0x100000000 := by
  have hLt := ByteOrder.network.ofBytes_lt field
  rw [h] at hLt
  exact hLt

/-- What is in front of a source of counted elements: too little for a length field, too little for as many
elements of the size, or all of them. -/
inductive Counted (size : Nat) : Bytes → Prop where
  | noField {bytes : Bytes} (hShort : bytes.length < 4) : Counted size bytes
  | cut {field rest : Bytes} (hField : field.length = 4) (hShort : rest.length < count field * size) :
      Counted size (field ++ rest)
  | whole {field body suffix : Bytes} (hField : field.length = 4)
      (hBody : body.length = count field * size) : Counted size ((field ++ body) ++ suffix)

/-- There is nothing else. -/
theorem counted (size : Nat) (bytes : Bytes) : Counted size bytes := by
  by_cases hShort : bytes.length < 4
  · exact .noField hShort
  · obtain ⟨field, rest, rfl, hField⟩ := exists_front (Nat.not_lt.mp hShort)
    by_cases hCut : rest.length < count field * size
    · exact .cut hField hCut
    · obtain ⟨body, suffix, rfl, hBody⟩ := exists_front (Nat.not_lt.mp hCut)
      rw [← List.append_assoc]
      exact .whole hField hBody

section

variable {codec : Codec ε} (h : codec.Sized codec.minSize) (hPos : 0 < codec.minSize)
    (hSmall : codec.minSize ≤ 0x80000000) {field : Bytes} (hField : field.length = 4)

include hSmall hField in
/-- Elements of a moderate size are never too many for a container, nor for a number of 64 bits. -/
theorem count_mul_le_longest : count field * codec.minSize ≤ Bytes.longest := by
  have hCount : count field ≤ 0xffffffff := Nat.le_of_lt_succ (count_lt hField)
  exact Nat.le_trans (Nat.mul_le_mul hCount hSmall) (by decide)

include hSmall hField in
/-- A length field of 32 bits is accepted exactly if there are as many bytes as it claims at least. -/
theorem decodeLength_of_count (rest : Bytes) :
    decodeLength .network codec.minSize (field ++ rest) =
      if rest.length < count field * codec.minSize then .rejected rest else .accepted (count field) rest := by
  have hLe := count_mul_le_longest hSmall hField
  have hModulo : count field * codec.minSize % 0x10000000000000000 = count field * codec.minSize :=
    Nat.mod_eq_of_lt (Nat.lt_of_le_of_lt hLe (by decide))
  rw [decodeLength_append ⟨hField, rfl⟩ codec.minSize, ← hModulo]
  rfl

include h hPos hSmall hField in
/-- A length field and as many elements are read as so many elements. -/
theorem contiguous_spells {body : Bytes} (hBody : body.length = count field * codec.minSize) :
    ∃ v : List ε, v.length = count field ∧ (contiguous .network codec).Spells (field ++ body) v := by
  obtain ⟨v, hCount, hMany⟩ := h.decodeMany (count field) hBody
  refine ⟨v, hCount, fun target suffix => ?_⟩
  have hMost : ¬ mostElements codec.minSize < count field := by
    rw [Nat.not_lt, mostElements, Nat.le_div_iff_mul_le hPos]
    exact count_mul_le_longest hSmall hField
  have hEnough : ¬ (body ++ suffix).length < count field * codec.minSize := by
    rw [List.length_append]
    omega
  have hLength := decodeLength_of_count hSmall hField (body ++ suffix)
  rw [if_neg hEnough] at hLength
  simp only [contiguous, List.append_assoc, hLength, hMost, if_false, hMany suffix]

include hSmall hField in
/-- A body that is too short for its length field is refused before anything is read from it. -/
theorem contiguous_rejects_cut {rest : Bytes} (hShort : rest.length < count field * codec.minSize) :
    (contiguous .network codec).Rejects (field ++ rest) := by
  intro target
  have hLength := decodeLength_of_count hSmall hField rest
  rw [if_pos hShort] at hLength
  simp [contiguous, hLength]

end

/-- A length field that is cut short is refused. -/
theorem contiguous_rejects_noField (codec : Codec ε) {bytes : Bytes} (hShort : bytes.length < 4) :
    (contiguous .network codec).Rejects bytes := by
  intro target
  have hLength : decodeLength .network codec.minSize bytes = .rejected bytes :=
    decodeLength_cut codec.minSize hShort
  simp [contiguous, hLength]

end Codec

end SerializerContract
