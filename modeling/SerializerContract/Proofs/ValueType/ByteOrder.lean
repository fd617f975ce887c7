import SerializerContract.Proofs.Codec.ByteOrder
import SerializerContract.Proofs.ValueType.Items

/-! What the byte order makes of a value. Its numbers and lengths, one field for each, do not depend on it; in
network order every field spells what it stands for from the most significant byte on, and in the other order
every field is reversed on its own. -/
namespace SerializerContract

namespace FloatFormat

/-- The sign, the exponent and the fraction in a row. -/
def assemble (format : FloatFormat) (negative : Bool) (exponent fraction : Nat) : Nat :=
  ((negative.toNat <<< format.exponentBits) + exponent) <<< format.fractionBits + fraction

/-- A floating point number is determined by its sign, its exponent and its fraction. -/
theorem assemble_fields (format : FloatFormat) {bits : Nat}
    (h : bits < Nat.pow 2 (format.exponentBits + format.fractionBits) * 2) :
    format.assemble (format.isNegative bits) (format.exponentField bits) (format.fractionField bits) = bits := by
  have hSign : (format.isNegative bits).toNat = bits / Nat.pow 2 (format.exponentBits + format.fractionBits) := by
    have hSmall : bits / Nat.pow 2 (format.exponentBits + format.fractionBits) < 2 := Nat.div_lt_of_lt_mul h
    rw [isNegative, Nat.shiftRight_eq_div_pow]
    change (bits / Nat.pow 2 (format.exponentBits + format.fractionBits) % 2 == 1).toNat = _
    generalize bits / Nat.pow 2 (format.exponentBits + format.fractionBits) = sign at *
    obtain rfl | rfl : sign = 0 ∨ sign = 1 := by omega
    · rfl
    · rfl
  have hPow : Nat.pow 2 (format.exponentBits + format.fractionBits) =
      Nat.pow 2 format.exponentBits * Nat.pow 2 format.fractionBits := Nat.pow_add 2 _ _
  have hMagnitude : format.magnitude bits =
      bits % Nat.pow 2 (format.exponentBits + format.fractionBits) := by
    rw [magnitude, Nat.one_shiftLeft]
    rfl
  have hFraction : 1 <<< format.fractionBits = Nat.pow 2 format.fractionBits := Nat.one_shiftLeft _
  calc format.assemble (format.isNegative bits) (format.exponentField bits) (format.fractionField bits)
    _ = ((format.isNegative bits).toNat * Nat.pow 2 format.exponentBits +
          format.magnitude bits / Nat.pow 2 format.fractionBits) * Nat.pow 2 format.fractionBits +
          format.magnitude bits % Nat.pow 2 format.fractionBits := by
        rw [assemble, exponentField, fractionField, hFraction, Nat.shiftLeft_eq, Nat.shiftLeft_eq,
          Nat.shiftRight_eq_div_pow]
        rfl
    _ = (format.isNegative bits).toNat * Nat.pow 2 (format.exponentBits + format.fractionBits) +
          format.magnitude bits := by
        rw [Nat.add_mul, Nat.mul_assoc, ← hPow, Nat.add_assoc, Nat.mul_comm (_ / _), Nat.div_add_mod]
    _ = bits := by
        rw [hSign, hMagnitude, Nat.mul_comm, Nat.div_add_mod]

end FloatFormat

/-- The format of the numbers whose sign, exponent and fraction are all that their bits are. An extended number has
a unit bit and padding beside them. -/
def Scalar.interchangeFormat : Scalar → Option FloatFormat
  | .float128 => none
  | s => s.floatFormat

/-- The bytes are the digits of the number to the base of 256, the most significant first: those of the two's
complement of an integer, and those of the sign, the exponent and the fraction of a floating point number. -/
def Scalar.Digits (s : Scalar) (v : s.Val) (field : Bytes) : Prop :=
  match s.interchangeFormat with
  | some format => Bytes.positional field =
      format.assemble (format.isNegative v.toNat) (format.exponentField v.toNat) (format.fractionField v.toNat)
  | none => (Bytes.positional field : Int) = s.toInt v % (Nat.pow 256 s.size : Nat)

/-- The two's complement of a number in so many bits is the unsigned number that the bits are. -/
theorem Scalar.toInt_emod (s : Scalar) (v : s.Val) :
    s.toInt v % (Nat.pow 256 s.size : Nat) = (BitVec.toNat v : Int) := by
  have hLt : ((BitVec.toNat v : Nat) : Int) < (Nat.pow 256 s.size : Nat) := Int.ofNat_lt.mpr (Word.toNat_lt v)
  have hUnsigned : ((BitVec.toNat v : Nat) : Int) % (Nat.pow 256 s.size : Nat) = BitVec.toNat v :=
    Int.emod_eq_of_lt (Int.natCast_nonneg _) hLt
  rw [Scalar.toInt]
  split
  · rw [pow_256_eq_two_pow] at hUnsigned ⊢
    rw [BitVec.toInt_eq_toNat_bmod]
    exact Int.bmod_emod.trans hUnsigned
  · exact hUnsigned

theorem Scalar.digits_of_positional {s : Scalar} {v : s.Val} {field : Bytes}
    (h : Bytes.positional field = BitVec.toNat v) : s.Digits v field := by
  have hInteger (hFormat : s.interchangeFormat = none) : s.Digits v field := by
    rw [Scalar.Digits, hFormat]
    exact (congrArg Int.ofNat h).trans (s.toInt_emod v).symm
  have hFloat {format : FloatFormat} (hFormat : s.interchangeFormat = some format)
      (hSize : 8 * s.size = format.exponentBits + format.fractionBits + 1) : s.Digits v field := by
    have hLt : BitVec.toNat v < Nat.pow 2 (format.exponentBits + format.fractionBits + 1) :=
      Nat.lt_of_lt_of_eq v.isLt (congrArg (Nat.pow 2) hSize)
    rw [Scalar.Digits, hFormat]
    exact h.trans (format.assemble_fields hLt).symm
  cases s with
  | float32 => exact hFloat rfl rfl
  | float64 => exact hFloat rfl rfl
  | _ => exact hInteger rfl

/-- A number of some type, or the length of a container. -/
inductive Datum where
  | number (s : Scalar) (v : s.Val)
  | length (n : Nat)

namespace Datum

/-- What is written for it. -/
def item : Datum → Item
  | .number s v => .number s.size (BitVec.toNat v)
  | .length n => .length n

/-- A length may be too large for the width of lengths. -/
def Fits (width : Width) : Datum → Prop
  | .number _ _ => True
  | .length n => n ≤ width.maximum

/-- The bytes of a number or a length in network order. -/
def SpelledBy (width : Width) : Datum → Bytes → Prop
  | .number s v, field => field.length = s.size ∧ s.Digits v field
  | .length n, field => field.length = width.bytes ∧ Bytes.positional field = n

variable {width : Width}

/-- A datum that fits the width fits as an item, whatever the byte order. -/
theorem fits_item {datum : Datum} (h : datum.Fits width) (order : ByteOrder) : datum.item.Fits ⟨order, width⟩ := by
  cases datum with
  | number s v => trivial
  | length n => exact h

/-- In big endian order a datum is spelled with its most significant byte first. -/
theorem spelledBy_bytes {datum : Datum} (h : datum.Fits width) :
    datum.SpelledBy width (datum.item.bytes ⟨.big, width⟩) := by
  cases datum with
  | number s v =>
      exact ⟨ByteOrder.length_toBytes .big s.size _,
        Scalar.digits_of_positional (ByteOrder.positional_toBytes_big (Word.toNat_lt v))⟩
  | length n =>
      exact ⟨ByteOrder.length_toBytes .big width.bytes n,
        ByteOrder.positional_toBytes_big (Nat.lt_of_le_of_lt h (Codec.maximum_lt width))⟩

/-- One byte order is the other one reversed, item by item. -/
theorem reverse_bytes (item : Item) : (item.bytes ⟨.big, width⟩).reverse = item.bytes ⟨.little, width⟩ := by
  cases item with
  | number size value => exact ByteOrder.reverse_toBytes_big size value
  | length n => exact ByteOrder.reverse_toBytes_big width.bytes n

/-- How far a value is written is a matter of its lengths alone: up to the first that does not fit. -/
theorem exists_written (width : Width) (data : List Datum) :
    ∃ written unwritten, data = written ++ unwritten ∧ (∀ datum ∈ written, datum.Fits width) ∧
      ∀ order, Item.emitAll ⟨order, width⟩ (data.map item) =
        ⟨Item.wire ⟨order, width⟩ (written.map item), unwritten.isEmpty⟩ := by
  induction data with
  | nil => exact ⟨[], [], rfl, by simp, fun _ => rfl⟩
  | cons datum data ih =>
      by_cases hFits : datum.Fits width
      · obtain ⟨written, unwritten, rfl, hWritten, hEmit⟩ := ih
        refine ⟨datum :: written, unwritten, rfl, List.forall_mem_cons.mpr ⟨hFits, hWritten⟩, fun order => ?_⟩
        rw [List.map_cons, Item.emitAll, hEmit, Item.emitted_of_fits (fits_item hFits order), Emitted.done_andThen]
        rfl
      · refine ⟨[], datum :: data, rfl, by simp, fun order => ?_⟩
        cases datum with
        | number s v => exact absurd trivial hFits
        | length n =>
            have hUnfit : ¬ (Item.length n).Fits ⟨order, width⟩ := hFits
            rw [List.map_cons, Item.emitAll, item, Item.emitted_of_not_fits hUnfit, Emitted.refused_andThen]
            rfl

end Datum

mutual
/-- The numbers and lengths of a value in the order in which they are written, each with what it stands for. -/
def ValueType.data : (t : ValueType) → t.Val → List Datum
  | .scalar s, v => [.number s v]
  | .enumeration _ s, v => [.number s v]
  | .text kind, v =>
    .length (kind.bytes v).length :: (kind.bytes v).map fun byte => .number .char byte.toBitVec
  | .record _ _, _ => []
  | .optional _, _ => []
  | .pointer _ _, _ => []
  | .pair a b, v => a.data v.1 ++ b.data v.2
  | .entry k t, v => k.data v.1 ++ t.data v.2
  | .tuple t rest, v => t.data v.1 ++ rest.data v.2
  | .array _ t, v => v.toList.flatMap t.data
  | .sequence _ t, (xs : List t.Val) => .length xs.length :: xs.flatMap t.data
  | .set _ _ t, (xs : List t.Val) => .length xs.length :: xs.flatMap t.data
  | .map _ _ k t, (xs : List (k.Val × t.Val)) =>
    .length xs.length :: xs.flatMap fun x => k.data x.1 ++ t.data x.2

def FieldTypes.data : (ts : FieldTypes) → ts.Val → List Datum
  | .nil, _ => []
  | .cons t rest, v => t.data v.1 ++ rest.data v.2
end

theorem Datum.flatMap_items {ε : Type} {items : ε → List Item} {data : ε → List Datum}
    (h : ∀ x, items x = (data x).map item) (xs : List ε) : xs.flatMap items = (xs.flatMap data).map item := by
  rw [List.map_flatMap, funext h]

theorem Datum.append_items {front back : List Item} {front' back' : List Datum} (h : front = front'.map item)
    (h' : back = back'.map item) : front ++ back = (front' ++ back').map item := by
  rw [h, h', List.map_append]

mutual
/-- The items of a value are those of its numbers and lengths. -/
theorem ValueType.items_eq : (t : ValueType) → (v : t.Val) → t.items v = (t.data v).map Datum.item
  | .scalar _, _ => rfl
  | .enumeration _ _, _ => rfl
  | .text kind, v => by
      rw [ValueType.items, ValueType.data, List.map_cons, List.map_map, ← List.map_eq_flatMap]
      rfl
  | .record _ _, _ => rfl
  | .optional _, _ => rfl
  | .pointer _ _, _ => rfl
  | .pair a b, v => Datum.append_items (a.items_eq v.1) (b.items_eq v.2)
  | .entry k t, v => Datum.append_items (k.items_eq v.1) (t.items_eq v.2)
  | .tuple t rest, v => Datum.append_items (t.items_eq v.1) (rest.items_eq v.2)
  | .array _ t, v => Datum.flatMap_items t.items_eq v.toList
  | .sequence _ t, v => congrArg (List.cons _) (Datum.flatMap_items t.items_eq v)
  | .set _ _ t, v => congrArg (List.cons _) (Datum.flatMap_items t.items_eq v)
  | .map _ _ k t, v => congrArg (List.cons _)
      (Datum.flatMap_items (fun x => Datum.append_items (k.items_eq x.1) (t.items_eq x.2)) v)

theorem FieldTypes.items_eq : (ts : FieldTypes) → (v : ts.Val) → ts.items v = (ts.data v).map Datum.item
  | .nil, _ => rfl
  | .cons t rest, v => Datum.append_items (t.items_eq v.1) (rest.items_eq v.2)
end

namespace ValueType

/-- Both byte orders write the same numbers and lengths of a value, and stop at the same length if one does not
fit. In network order each of them is one field that spells it from the most significant byte on; in the other
order these fields are reversed, each on its own. On words, the one order is the other with the bytes
exchanged, in writing as in reading, and exchanging them twice gives every word back. -/
theorem encodings_mirror_fields (width : Width) (t : ValueType) (h : t.Serializable) (v : t.Val) :
    (∃ written unwritten fields, t.data v = written ++ unwritten ∧
      List.Forall₂ (Datum.SpelledBy width) written fields ∧
      (t.codec ⟨.big, width⟩ h).encode v = ⟨fields.flatten, unwritten.isEmpty⟩ ∧
      (t.codec ⟨.little, width⟩ h).encode v = ⟨(fields.map List.reverse).flatten, unwritten.isEmpty⟩) ∧
    ((t.codec ⟨.little, width⟩ h).encode v).bytes.length = ((t.codec ⟨.big, width⟩ h).encode v).bytes.length ∧
    ∀ (n : Nat) (bits : BitVec (8 * n)),
      (Codec.number .big n).encode bits = (Codec.number .little n).encode (Word.exchange bits) ∧
      (∀ bytes, (Codec.number .big n).decode bits bytes =
        ⟨Word.exchange ((Codec.number .little n).decode (Word.exchange bits) bytes).value,
          ((Codec.number .little n).decode (Word.exchange bits) bytes).rest,
          ((Codec.number .little n).decode (Word.exchange bits) bytes).stop⟩) ∧
      Word.exchange (Word.exchange bits) = bits := by
  obtain ⟨written, unwritten, hData, hFits, hEmit⟩ := Datum.exists_written width (t.data v)
  let fields := written.map fun datum => datum.item.bytes ⟨.big, width⟩
  have hSpelled : List.Forall₂ (Datum.SpelledBy width) written fields :=
    List.forall₂_map_right_iff.mpr
      (List.forall₂_same.mpr fun datum hDatum => Datum.spelledBy_bytes (hFits datum hDatum))
  have hEncode (order : ByteOrder) : (t.codec ⟨order, width⟩ h).encode v =
      ⟨Item.wire ⟨order, width⟩ (written.map Datum.item), unwritten.isEmpty⟩ := by
    rw [t.codec_itemizes ⟨order, width⟩ h, t.items_eq, hEmit]
  have hBig : Item.wire ⟨.big, width⟩ (written.map Datum.item) = fields.flatten := by
    rw [Item.wire, List.flatMap_map, ← List.flatMap_def]
  have hLittle : Item.wire ⟨.little, width⟩ (written.map Datum.item) = (fields.map List.reverse).flatten := by
    rw [Item.wire, List.flatMap_map, List.map_map, ← List.flatMap_def]
    exact congrArg written.flatMap (funext fun datum => (Datum.reverse_bytes datum.item).symm)
  refine ⟨⟨written, unwritten, fields, hData, hSpelled, ?_, ?_⟩, ?_, fun n bits => ⟨?_, ?_, ?_⟩⟩
  · rw [hEncode, hBig]
  · rw [hEncode, hLittle]
  · rw [hEncode, hEncode, hBig, hLittle]
    exact Bytes.length_flatten_reversed fields
  · exact Codec.number_big_encode bits
  · exact Codec.number_big_decode bits
  · exact Word.exchange_exchange bits

/-- A small number with some measurements. -/
abbrev measurements : ValueType := .pair (.scalar (.int true .w16)) (.sequence .vector (.scalar .float32))

/-- Minus two, and one half with its sign set. -/
def measured : measurements.Val := (0xFFFE#16, [0xBF000000#32])

/-- Measurements in both byte orders: every field is reversed, and none of them moves. -/
theorem encodings_mirror_fields_measured :
    measurements.Serializable ∧
    (∃ written fields, measurements.data measured = written ∧ List.Forall₂ (Datum.SpelledBy .w8) written fields ∧
      fields.flatten = [0xFF, 0xFE, 1, 0xBF, 0, 0, 0] ∧
      (fields.map List.reverse).flatten = [0xFE, 0xFF, 1, 0, 0, 0, 0xBF]) ∧
    Word.exchange (n := 2) 0xFFFE#16 = 0xFEFF#16 ∧ Word.exchange (n := 2) 0xFEFF#16 = 0xFFFE#16 := by
  have hBig : (measurements.codec ⟨.big, .w8⟩ (by decide)).encode measured =
      ⟨[0xFF, 0xFE, 1, 0xBF, 0, 0, 0], true⟩ := by decide
  have hLittle : (measurements.codec ⟨.little, .w8⟩ (by decide)).encode measured =
      ⟨[0xFE, 0xFF, 1, 0, 0, 0, 0xBF], true⟩ := by decide
  obtain ⟨⟨written, unwritten, fields, hData, hSpelled, hWritten, hReversed⟩, -, hWords⟩ :=
    encodings_mirror_fields .w8 measurements (by decide) measured
  rw [hBig, Emitted.mk.injEq] at hWritten
  rw [hLittle, Emitted.mk.injEq] at hReversed
  obtain rfl := List.isEmpty_iff.mp hWritten.2.symm
  rw [List.append_nil] at hData
  refine ⟨by decide, ⟨written, fields, hData, hSpelled, hWritten.1.symm, hReversed.1.symm⟩, by decide, ?_⟩
  exact (hWords 2 0xFFFE#16).2.2

end ValueType

end SerializerContract
