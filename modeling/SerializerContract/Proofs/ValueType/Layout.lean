import SerializerContract.Proofs.Codec.Layout
import SerializerContract.ValueType.Codec

/-! The wire format of every type of values, as a layout: what is on the wire, without a word about
reading it. The codec of a type accepts exactly what starts with the wire format of the type. -/
namespace SerializerContract

mutual
/-- The wire format of a type. A number is its bytes; parts follow each other; a container is a length
field and its elements, which are inserted in the order of the wire. Nothing stands for a value of a
type that cannot be written. -/
def ValueType.layout (format : Format) : (t : ValueType) → Layout t.Val
  | .scalar s => .number format.order s.size
  | .enumeration _ s => .number format.order s.size
  | .text .owned => .counted format .byte id
  | .text .view => fun _ _ => False
  | .text .zeroTerminated => fun _ _ => False
  | .record _ _ => fun _ _ => False
  | .optional _ => fun _ _ => False
  | .pointer _ _ => fun _ _ => False
  | .pair a b => .both (a.layout format) (b.layout format)
  | .entry k v => .both (k.layout format) (v.layout format)
  | .tuple t rest => .both (t.layout format) (rest.layout format)
  | .array n t => .row (t.layout format) n
  | .sequence _ t => .counted format (t.layout format) id
  | .set lookup multi t => .counted format (t.layout format) (lookup.ofList multi t id)
  | .map lookup multi k v =>
    .counted format (.both (k.layout format) (v.layout format)) (lookup.ofList multi k Prod.fst)

def FieldTypes.layout (format : Format) : (ts : FieldTypes) → Layout ts.Val
  | .nil => .nothing
  | .cons t rest => .both (t.layout format) (rest.layout format)
end

namespace ValueType

/-- Elements that are stored contiguously take at least one byte each. -/
theorem minSize_pos_of_isContiguous {format : Format} {kind : SequenceKind} (t : ValueType)
    (hContiguous : isContiguous kind t = true) (h : t.Serializable) :
    0 < (t.codec format h).minSize := by
  cases t with
  | scalar s => exact s.size_pos
  | _ => cases kind <;> simp [isContiguous] at hContiguous

theorem codec_sequence_contiguous {format : Format} {kind : SequenceKind} {t : ValueType}
    (hContiguous : isContiguous kind t = true) (h : (sequence kind t).Serializable) :
    Codec.contiguous format (t.codec format h.2) = (sequence kind t).codec format h :=
  (if_pos hContiguous).symm

theorem codec_sequence_appending {format : Format} {kind : SequenceKind} {t : ValueType}
    (hContiguous : ¬ isContiguous kind t = true) (h : (sequence kind t).Serializable) :
    (Codec.container format (t.codec format h.2) fun xs x => xs ++ [x]) =
      (sequence kind t).codec format h :=
  (if_neg hContiguous).symm

/-- What holds of both ways to store a sequence holds of the codec of any sequence. -/
theorem codec_sequence_cases {format : Format} {kind : SequenceKind} {t : ValueType}
    (h : (sequence kind t).Serializable) {motive : Codec (List t.Val) → Prop}
    (contiguous : isContiguous kind t = true → motive (.contiguous format (t.codec format h.2)))
    (appending : motive (.container format (t.codec format h.2) fun xs x => xs ++ [x])) :
    motive ((sequence kind t).codec format h) := by
  by_cases hContiguous : isContiguous kind t = true
  · exact codec_sequence_contiguous hContiguous h ▸ contiguous hContiguous
  · exact codec_sequence_appending hContiguous h ▸ appending

end ValueType

mutual
/-- Decoding follows the layout of the type, by recursion on the type. -/
theorem ValueType.codec_reads (format : Format) :
    (t : ValueType) → (h : t.Serializable) → (t.codec format h).Reads (t.layout format)
  | .scalar s, _ => Codec.number_reads format.order s.size
  | .enumeration _ s, _ => Codec.number_reads format.order s.size
  | .text .owned, _ => Codec.contiguous_reads format Codec.byte_reads Nat.one_pos
  | .pair a b, h => Codec.both_reads (a.codec_reads format h.1) (b.codec_reads format h.2)
  | .entry k v, h => Codec.both_reads (k.codec_reads format h.1) (v.codec_reads format h.2)
  | .tuple t rest, h => Codec.both_reads (t.codec_reads format h.1) (rest.codec_reads format h.2)
  | .array n t, h => Codec.row_reads (t.codec_reads format h.2) n
  | .sequence _ t, h => by
      have hElement := t.codec_reads format h.2
      refine ValueType.codec_sequence_cases (motive := fun codec => codec.Reads _) h (fun hContiguous => ?_) ?_
      · exact Codec.contiguous_reads format hElement (t.minSize_pos_of_isContiguous hContiguous h.2)
      · exact Codec.container_reads format hElement fun xs => (Codec.foldl_append_singleton xs []).symm
  | .set lookup multi t, h => Codec.container_reads format (t.codec_reads format h) fun _ => rfl
  | .map lookup multi k v, h => Codec.container_reads format
      (Codec.both_reads (k.codec_reads format h.1) (v.codec_reads format h.2)) fun _ => rfl

theorem FieldTypes.codec_reads (format : Format) :
    (ts : FieldTypes) → (h : ts.Serializable) → (ts.codec format h).Reads (ts.layout format)
  | .nil, _ => Codec.nothing_reads
  | .cons t rest, h => Codec.both_reads (t.codec_reads format h.1) (rest.codec_reads format h.2)
end

namespace ValueType

variable {format : Format} {t : ValueType}

/-- What some bytes start with in the wire format is determined, and so is the value. -/
theorem layout_unique (h : t.Serializable) {bytes front front' rest rest' : Bytes} {v v' : t.Val}
    (hLength : bytes.length ≤ Bytes.longest)
    (hBytes : bytes = front ++ rest) (hFront : t.layout format front v)
    (hBytes' : bytes = front' ++ rest') (hFront' : t.layout format front' v') :
    front = front' ∧ v = v' := by
  have hDecode := (t.codec_reads format h).complete t.blank front rest v hFront (hBytes ▸ hLength)
  have hDecode' := (t.codec_reads format h).complete t.blank front' rest' v' hFront'
    (hBytes' ▸ hLength)
  rw [← hBytes] at hDecode
  rw [← hBytes', hDecode, Taken.mk.injEq] at hDecode'
  obtain ⟨rfl, rfl, _⟩ := hDecode'
  exact ⟨List.append_cancel_right (hBytes.symm.trans hBytes'), rfl⟩

end ValueType

end SerializerContract
