import SerializerContract.Proofs.Codec.Parts
import SerializerContract.Proofs.ValueType.Acceptance

/-! Length fields that claim more elements than the bytes behind them can hold. A decoding that comes to such a
field, at any depth, fails; it fails right behind the field, with the container untouched, unless the least size
of so many elements wraps around in 64 bits. -/
namespace SerializerContract

open Codec

namespace ValueType

/-- The least number of bytes of an element, for the types whose values begin with a length field. -/
def elementSize (format : Format) : ValueType → Option Nat
  | .text .owned => some 1
  | .sequence _ t => some (t.leastSize format)
  | .set _ _ t => some (t.leastSize format)
  | .map _ _ k v => some (k.leastSize format + v.leastSize format)
  | _ => none

/-- A container counts its elements in the least size of one of them. -/
theorem codec_counts {format : Format} {least : Nat} (t : ValueType) (h : t.Serializable)
    (hElements : t.elementSize format = some least) : Counts format least (t.codec format h) := by
  cases t with
  | text kind =>
      cases kind with
      | owned => exact .contiguous byte (Option.some.inj hElements)
      | _ => cases h
  | sequence kind t =>
      have hSize : (t.codec format h.2).minSize = least :=
        (t.minSize_codec format h.2).trans (Option.some.inj hElements)
      exact codec_sequence_cases (motive := fun codec => codec.Counts _ _) h (fun _ => .contiguous _ hSize)
        (.container _ _ hSize)
  | set lookup multi t => exact .container _ _ ((t.minSize_codec format h).trans (Option.some.inj hElements))
  | map lookup multi k v =>
      refine .container _ _ ?_
      rw [← Option.some.inj hElements, ← k.minSize_codec format h.1, ← v.minSize_codec format h.2]
      rfl
  | _ => cases hElements

/-- The length field that a container begins with is one that its reader comes to. -/
theorem claims_of_elementSize {format : Format} {n least : Nat} {field rest : Bytes} {t : ValueType}
    (hElements : t.elementSize format = some least) (hField : Layout.lengthField format n field) :
    t.claims format (field ++ rest) ⟨n, least, rest⟩ := by
  cases t with
  | text kind =>
      cases kind with
      | owned => exact .inl ⟨field, rfl, hField, (Option.some.inj hElements).symm⟩
      | _ => cases hElements
  | sequence kind t => exact .inl ⟨field, rfl, hField, (Option.some.inj hElements).symm⟩
  | set lookup multi t => exact .inl ⟨field, rfl, hField, (Option.some.inj hElements).symm⟩
  | map lookup multi k v => exact .inl ⟨field, rfl, hField, (Option.some.inj hElements).symm⟩
  | _ => cases hElements

/-- A length of less than eight bytes, times an element of at most four gigabytes, fits into 64 bits. -/
theorem product_lt_of_narrow {format : Format} {n least : Nat} {field : Bytes}
    (hField : Layout.lengthField format n field) (hNarrow : format.length ≠ .w64)
    (hLeast : least ≤ 0x100000000) : n * least < 0x10000000000000000 := by
  obtain ⟨hWidth, rfl⟩ := hField
  have hCount := format.order.ofBytes_lt field
  have hMost : Nat.pow 256 field.length ≤ 0x100000000 := by
    rw [hWidth]
    cases hLength : format.length with
    | w64 => exact absurd hLength hNarrow
    | _ => decide
  have hLt : format.order.ofBytes field < 0x100000000 := Nat.lt_of_lt_of_le hCount hMost
  calc format.order.ofBytes field * least
      ≤ format.order.ofBytes field * 0x100000000 := Nat.mul_le_mul_left _ hLeast
    _ < 0x100000000 * 0x100000000 := Nat.mul_lt_mul_of_pos_right hLt (by decide)

/-- A decoding that comes to a container whose length field claims more elements than the bytes behind it can
hold fails. It fails right there, with only the field consumed and the container as it was, if the least size of
so many elements is below 2 ^ 64, as it always is for lengths of less than eight bytes. -/
theorem oversized_length_stops (format : Format) {t u : ValueType} (h : t.Serializable)
    (hPart : u.Serializable) {target : t.Val} {held : u.Val} {bytes field rest : Bytes} {n least : Nat}
    (hComes : (u.codec format hPart).ComesTo held (field ++ rest) (t.codec format h) target bytes)
    (hElements : u.elementSize format = some least) (hField : Layout.lengthField format n field)
    (hClaims : rest.length < n * least) :
    (n * least < 0x10000000000000000 ∨ format.length ≠ .w64 ∧ least ≤ 0x100000000 →
      (u.codec format hPart).decode held (field ++ rest) = ⟨held, rest, some .shortage⟩ ∧
      ((t.codec format h).decode target bytes).stop = some .shortage ∧
      ((t.codec format h).decode target bytes).rest = rest) ∧
    ((field ++ rest).length ≤ Bytes.longest → ((t.codec format h).decode target bytes).stop ≠ none) := by
  constructor
  · intro hExact
    have hProduct : n * least < 0x10000000000000000 :=
      hExact.elim id fun hNarrow => product_lt_of_narrow hField hNarrow.1 hNarrow.2
    rw [← Nat.mod_eq_of_lt hProduct] at hClaims
    have hPartStops := (u.codec_counts hPart hElements).rejects hField hClaims held
    obtain ⟨hStop, hRest⟩ := hComes.stops (congrArg Taken.stop hPartStops)
    exact ⟨hPartStops, hStop, hRest.trans (congrArg Taken.rest hPartStops)⟩
  · intro hLength
    have hPartStops := u.codec_refuses format hPart held _ ⟨n, least, rest⟩ hLength
      (claims_of_elementSize hElements hField) hClaims
    obtain ⟨stop, hStop⟩ := Option.ne_none_iff_exists'.mp hPartStops
    rw [(hComes.stops hStop).1]
    exact Option.some_ne_none stop

/-- A number, and numbers of eight bytes behind it. -/
abbrev numberedNumbers : ValueType := pair (.scalar .uint8) (sequence .list .int64)

def oneNumber : (sequence .list .int64).Val :=
  show List (BitVec 64) from [9]

def numberAndOne : numberedNumbers.Val :=
  show BitVec 8 × List (BitVec 64) from (5, [9])

/-- The largest length whose elements of eight bytes just fit into 64 bits. -/
def largestExact : Bytes := [0x1f, 0xff, 0xff, 0xff, 0xff, 0xff, 0xff, 0xff]

/-- A list behind a number claims as many elements as 64 bits can count the bytes of. It keeps what it held. -/
theorem oversized_length_stops_largest :
    ((sequence .list .int64).codec ⟨.big, .w64⟩ (by decide)).decode oneNumber (largestExact ++ [1, 2]) =
      ⟨oneNumber, [1, 2], some .shortage⟩ ∧
    ((numberedNumbers.codec ⟨.big, .w64⟩ (by decide)).decode numberAndOne
      (7 :: (largestExact ++ [1, 2]))).rest = [1, 2] := by
  have hComes : ((sequence .list .int64).codec ⟨.big, .w64⟩ (by decide)).ComesTo oneNumber
      (largestExact ++ [1, 2]) (numberedNumbers.codec ⟨.big, .w64⟩ (by decide)) numberAndOne
      (7 :: (largestExact ++ [1, 2])) := .second rfl .here
  have hField : Layout.lengthField ⟨.big, .w64⟩ 0x1fffffffffffffff largestExact := ⟨rfl, by decide⟩
  obtain ⟨hPart, -, hRest⟩ := (oversized_length_stops ⟨.big, .w64⟩ (by decide) (by decide) hComes rfl
    hField (by decide)).1 (.inl (by decide))
  exact ⟨hPart, hRest⟩

def sevenAlone : (sequence .list .int32).Val :=
  show List (BitVec 32) from [7]

def nineAlone : (sequence .list .int32).Val :=
  show List (BitVec 32) from [9]

/-- A length of 2 ^ 62 numbers of four bytes wraps around to nothing, and is not rejected: the list is emptied, and
the bytes behind the length are read into it. -/
theorem oversized_length_overlooked :
    (sequence .list .int32).elementSize ⟨.big, .w64⟩ = some 4 ∧
    Layout.lengthField ⟨.big, .w64⟩ 0x4000000000000000 wrappingLength ∧
    ([0, 0, 0, 7] : Bytes).length < 0x4000000000000000 * 4 ∧
    ((sequence .list .int32).codec ⟨.big, .w64⟩ (by decide)).decode nineAlone (wrappingLength ++ [0, 0, 0, 7]) =
      ⟨sevenAlone, [], some .shortage⟩ ∧
    ((sequence .list .int32).codec ⟨.big, .w64⟩ (by decide)).decode nineAlone (wrappingLength ++ [0, 0, 0, 7]) ≠
      ⟨nineAlone, [0, 0, 0, 7], some .shortage⟩ := by
  have hDecode : ((sequence .list .int32).codec ⟨.big, .w64⟩ (by decide)).decode nineAlone
      (wrappingLength ++ [0, 0, 0, 7]) = ⟨sevenAlone, [], some .shortage⟩ := rfl
  refine ⟨rfl, ⟨rfl, by decide⟩, by decide, hDecode, fun hKept => ?_⟩
  rw [hDecode] at hKept
  cases congrArg Taken.rest hKept

end ValueType

end SerializerContract
