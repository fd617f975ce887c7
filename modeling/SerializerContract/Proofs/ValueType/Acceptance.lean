import SerializerContract.Proofs.Codec.LengthClaim
import SerializerContract.Proofs.ValueType.Layout

/-! What decoders of every type accept. Decoding succeeds on exactly those bytes that start with the
wire format of the type, and never past a length field that claims more than there is. -/
namespace SerializerContract

mutual
/-- The least number of bytes of a value. Of a container it is the size of the length field. -/
def ValueType.leastSize (format : Format) : ValueType → Nat
  | .scalar s => s.size
  | .enumeration _ s => s.size
  | .text _ => format.length.bytes
  | .record _ _ => 0
  | .optional _ => 0
  | .pointer _ _ => 0
  | .pair a b => a.leastSize format + b.leastSize format
  | .entry k v => k.leastSize format + v.leastSize format
  | .tuple t rest => t.leastSize format + rest.leastSize format
  | .array n t => n * t.leastSize format
  | .sequence _ _ => format.length.bytes
  | .set _ _ _ => format.length.bytes
  | .map _ _ _ _ => format.length.bytes

def FieldTypes.leastSize (format : Format) : FieldTypes → Nat
  | .nil => 0
  | .cons t rest => t.leastSize format + rest.leastSize format
end

mutual
/-- The length fields that a reader of a value comes to, at any depth. -/
def ValueType.claims (format : Format) : ValueType → Claims
  | .scalar _ => .never
  | .enumeration _ _ => .never
  | .text _ => .counted format 1 .byte .never
  | .record _ _ => .never
  | .optional _ => .never
  | .pointer _ _ => .never
  | .pair a b => .both (a.layout format) (a.claims format) (b.claims format)
  | .entry k v => .both (k.layout format) (k.claims format) (v.claims format)
  | .tuple t rest => .both (t.layout format) (t.claims format) (rest.claims format)
  | .array n t => .row (t.layout format) (t.claims format) n
  | .sequence _ t => .counted format (t.leastSize format) (t.layout format) (t.claims format)
  | .set _ _ t => .counted format (t.leastSize format) (t.layout format) (t.claims format)
  | .map _ _ k v =>
    .counted format (k.leastSize format + v.leastSize format)
      (.both (k.layout format) (v.layout format))
      (.both (k.layout format) (k.claims format) (v.claims format))

def FieldTypes.claims (format : Format) : FieldTypes → Claims
  | .nil => .never
  | .cons t rest => .both (t.layout format) (t.claims format) (rest.claims format)
end

theorem Codec.minSize_row {α : Type} (codec : Codec α) (n : Nat) :
    (row codec n).minSize = n * codec.minSize := by
  induction n with
  | zero => simp [row, nothing]
  | succ n ih =>
      have hStep : (row codec (n + 1)).minSize = codec.minSize + (row codec n).minSize := rfl
      rw [hStep, ih, Nat.succ_mul, Nat.add_comm]

mutual
/-- The least size that the checks on lengths use is the one computed from the type. -/
theorem ValueType.minSize_codec (format : Format) :
    (t : ValueType) → (h : t.Serializable) → (t.codec format h).minSize = t.leastSize format
  | .scalar _, _ => rfl
  | .enumeration _ _, _ => rfl
  | .text .owned, _ => rfl
  | .pair a b, h => by
      rw [ValueType.leastSize, ← a.minSize_codec format h.1, ← b.minSize_codec format h.2]
      rfl
  | .entry k v, h => by
      rw [ValueType.leastSize, ← k.minSize_codec format h.1, ← v.minSize_codec format h.2]
      rfl
  | .tuple t rest, h => by
      rw [ValueType.leastSize, ← t.minSize_codec format h.1, ← rest.minSize_codec format h.2]
      rfl
  | .array n t, h =>
    (Codec.minSize_row _ n).trans (congrArg (n * ·) (t.minSize_codec format h.2))
  | .sequence _ _, h =>
    ValueType.codec_sequence_cases (motive := fun codec => codec.minSize = _) h (fun _ => rfl) rfl
  | .set _ _ _, _ => rfl
  | .map _ _ _ _, _ => rfl

theorem FieldTypes.minSize_codec (format : Format) :
    (ts : FieldTypes) → (h : ts.Serializable) → (ts.codec format h).minSize = ts.leastSize format
  | .nil, _ => rfl
  | .cons t rest, h => by
      rw [FieldTypes.leastSize, ← t.minSize_codec format h.1, ← rest.minSize_codec format h.2]
      rfl
end

mutual
/-- No codec succeeds once it comes to a length that claims too much, by recursion on the type. -/
theorem ValueType.codec_refuses (format : Format) :
    (t : ValueType) → (h : t.Serializable) → (t.codec format h).Refuses (t.claims format)
  | .scalar _, _ => Codec.refuses_never _
  | .enumeration _ _, _ => Codec.refuses_never _
  | .text .owned, _ =>
    Codec.contiguous_refuses format Codec.byte_reads (Codec.refuses_never _) Nat.one_pos
  | .pair a b, h => Codec.both_refuses (a.codec_reads format h.1) (a.codec_refuses format h.1)
      (b.codec_refuses format h.2)
  | .entry k v, h => Codec.both_refuses (k.codec_reads format h.1) (k.codec_refuses format h.1)
      (v.codec_refuses format h.2)
  | .tuple t rest, h => Codec.both_refuses (t.codec_reads format h.1) (t.codec_refuses format h.1)
      (rest.codec_refuses format h.2)
  | .array n t, h => Codec.row_refuses (t.codec_reads format h.2) (t.codec_refuses format h.2) n
  | .sequence kind t, h => by
      have hReads := t.codec_reads format h.2
      have hRefuses := t.codec_refuses format h.2
      rw [ValueType.claims, ← t.minSize_codec format h.2]
      refine ValueType.codec_sequence_cases (motive := fun codec => codec.Refuses _) h (fun hContiguous => ?_) ?_
      · exact Codec.contiguous_refuses format hReads hRefuses (t.minSize_pos_of_isContiguous hContiguous h.2)
      · exact Codec.container_refuses format hReads hRefuses _
  | .set lookup multi t, h => by
      rw [ValueType.claims, ← t.minSize_codec format h]
      exact Codec.container_refuses format (t.codec_reads format h) (t.codec_refuses format h) _
  | .map lookup multi k v, h => by
      rw [ValueType.claims, ← k.minSize_codec format h.1, ← v.minSize_codec format h.2]
      have hReads := k.codec_reads format h.1
      exact Codec.container_refuses format (Codec.both_reads hReads (v.codec_reads format h.2))
        (Codec.both_refuses hReads (k.codec_refuses format h.1) (v.codec_refuses format h.2)) _

theorem FieldTypes.codec_refuses (format : Format) :
    (ts : FieldTypes) → (h : ts.Serializable) → (ts.codec format h).Refuses (ts.claims format)
  | .nil, _ => Codec.refuses_never _
  | .cons t rest, h => Codec.both_refuses (t.codec_reads format h.1) (t.codec_refuses format h.1)
      (rest.codec_refuses format h.2)
end

namespace ValueType

/-- Decoding succeeds exactly on bytes that start with the wire format. It then consumes the one prefix
that is in the wire format, and yields the one value that this stands for. An excessive length field, at
any depth, is never part of a success, also when its product with the least size wraps around. -/
theorem decode_succeeds_iff_layout (format : Format) (t : ValueType) (h : t.Serializable)
    (target : t.Val) (bytes : Bytes) (hLength : bytes.length ≤ Bytes.longest) :
    (((t.codec format h).decode target bytes).stop = none ↔
      ∃ front v rest, bytes = front ++ rest ∧ t.layout format front v) ∧
    (∀ front v rest, bytes = front ++ rest → t.layout format front v →
      (t.codec format h).decode target bytes = ⟨v, rest, none⟩ ∧
      ∀ front' v' rest', bytes = front' ++ rest' → t.layout format front' v' →
        front' = front ∧ v' = v) ∧
    (∀ claim, t.claims format bytes claim → claim.Excessive →
      ((t.codec format h).decode target bytes).stop ≠ none) := by
  have hReads := t.codec_reads format h
  refine ⟨⟨fun hStop => ?_, ?_⟩, ?_, fun claim => t.codec_refuses format h target bytes claim hLength⟩
  · obtain ⟨front, hBytes, hFront⟩ := hReads.sound target bytes hStop
    exact ⟨front, _, _, hBytes, hFront⟩
  · intro h
    obtain ⟨front, v, rest, rfl, hFront⟩ := h
    rw [hReads.complete target front rest v hFront hLength]
  · intro front v rest hBytes hFront
    refine ⟨?_, fun front' v' rest' hBytes' hFront' =>
      layout_unique h hLength hBytes' hFront' hBytes hFront⟩
    rw [hBytes]
    exact hReads.complete target front rest v hFront (hBytes ▸ hLength)

/-- A length field of eight bytes that claims 2 ^ 62 numbers of four bytes. -/
def wrappingLength : Bytes := [0x40, 0, 0, 0, 0, 0, 0, 0]

/-- The least size of 2 ^ 62 such numbers is zero in 64 bits, so their length is accepted although no
byte follows it. Decoding them fails all the same. -/
theorem decode_stops_at_wrappingLength :
    wrappingLength.length ≤ Bytes.longest ∧
    Codec.decodeLength ⟨.big, .w64⟩ 4 wrappingLength = .accepted 0x4000000000000000 [] ∧
    (((sequence .list .int32).codec ⟨.big, .w64⟩ (by decide)).decode [] wrappingLength).stop ≠ none := by
  refine ⟨by decide, by decide, ?_⟩
  refine (decode_succeeds_iff_layout ⟨.big, .w64⟩ (sequence .list .int32) (by decide) []
    wrappingLength (by decide)).2.2 ⟨0x4000000000000000, 4, []⟩ (.inl ?_) (by decide)
  exact ⟨wrappingLength, rfl, ⟨rfl, by decide⟩, rfl⟩

end ValueType

end SerializerContract
