import SerializerContract.Channel
import SerializerContract.Proofs.Codec.Stall
import SerializerContract.Proofs.ValueType.Acceptance
import SerializerContract.Proofs.ValueType.Spelling

/-! What a decoding leaves behind that did not come to its end, for every type: the fields that it has read, the
bytes that are left, and the state of the target. -/
namespace SerializerContract

mutual
/-- How the decoding of a value can stop. A scalar or an enumeration value, a text and a vector of numbers are
kept. Of a tuple the parts before the one that cannot be read are there, and those after it are kept. Any other
container is kept until its length was accepted, and then holds the elements that were read. -/
def ValueType.stall (format : Format) : (t : ValueType) → Stall t.Val
  | .scalar s => .number s.size
  | .enumeration _ s => .number s.size
  | .text .owned => .contiguous format 1
  | .text .view => .never
  | .text .zeroTerminated => .never
  | .record _ _ => .never
  | .optional _ => .never
  | .pointer _ _ => .never
  | .pair a b => .both (a.spelling format) (a.stall format) (b.stall format)
  | .entry k v => .both (k.spelling format) (k.stall format) (v.stall format)
  | .tuple t rest => .both (t.spelling format) (t.stall format) (rest.stall format)
  | .array n t => .row (t.spelling format) (t.stall format) n
  | .sequence kind t =>
    if ValueType.isContiguous kind t then .contiguous format (t.leastSize format)
    else .container format (t.leastSize format) t.blank (t.spelling format) (t.stall format) id
  | .set lookup multi t =>
    .container format (t.leastSize format) t.blank (t.spelling format) (t.stall format)
      (lookup.ofList multi t id)
  | .map lookup multi k v =>
    .container format (k.leastSize format + v.leastSize format) (k.blank, v.blank)
      (.both (k.spelling format) (v.spelling format))
      (.both (k.spelling format) (k.stall format) (v.stall format)) (lookup.ofList multi k Prod.fst)

def FieldTypes.stall (format : Format) : (ts : FieldTypes) → Stall ts.Val
  | .nil => .never
  | .cons t rest => .both (t.spelling format) (t.stall format) (rest.stall format)
end

theorem Codec.blank_row {α : Type} (codec : Codec α) (n : Nat) :
    (row codec n).blank = Row.replicate codec.blank n := by
  induction n with
  | zero => rfl
  | succ n ih => exact congrArg (Prod.mk codec.blank) ih

mutual
/-- Elements of containers start as their type's blank value. -/
theorem ValueType.blank_codec (format : Format) :
    (t : ValueType) → (h : t.Serializable) → (t.codec format h).blank = t.blank
  | .scalar _, _ => rfl
  | .enumeration _ _, _ => rfl
  | .text .owned, _ => rfl
  | .pair a b, h => Prod.ext (a.blank_codec format h.1) (b.blank_codec format h.2)
  | .entry k v, h => Prod.ext (k.blank_codec format h.1) (v.blank_codec format h.2)
  | .tuple t rest, h => Prod.ext (t.blank_codec format h.1) (rest.blank_codec format h.2)
  | .array n t, h =>
    (Codec.blank_row _ n).trans (congrArg (Row.replicate · n) (t.blank_codec format h.2))
  | .sequence _ _, h =>
    ValueType.codec_sequence_cases (motive := fun codec => codec.blank = _) h (fun _ => rfl) rfl
  | .set _ _ _, _ => rfl
  | .map _ _ _ _, _ => rfl

theorem FieldTypes.blank_codec (format : Format) :
    (ts : FieldTypes) → (h : ts.Serializable) → (ts.codec format h).blank = ts.blank
  | .nil, _ => rfl
  | .cons t rest, h => Prod.ext (t.blank_codec format h.1) (rest.blank_codec format h.2)
end

/-- What is stored contiguously are numbers, each of one size. -/
theorem ValueType.sized_of_isContiguous {format : Format} {kind : SequenceKind} (t : ValueType)
    (hContiguous : isContiguous kind t = true) (h : t.Serializable) :
    (t.codec format h).Sized (t.codec format h).minSize := by
  cases t with
  | scalar s => exact Codec.number_sized format.order s.size
  | _ => cases kind <;> simp [isContiguous] at hContiguous

namespace ValueType

/-- Contiguous elements are read all at once, so a sequence of them can only stall as a whole. -/
theorem stall_sequence_contiguous {kind : SequenceKind} {t : ValueType}
    (hContiguous : isContiguous kind t = true) (format : Format) :
    (sequence kind t).stall format = .contiguous format (t.leastSize format) :=
  if_pos hContiguous

/-- Other elements are appended one by one, and the sequence stalls within the element that does. -/
theorem stall_sequence_appending {kind : SequenceKind} {t : ValueType}
    (hContiguous : ¬ isContiguous kind t = true) (format : Format) :
    (sequence kind t).stall format =
      .container format (t.leastSize format) t.blank (t.spelling format) (t.stall format) id :=
  if_neg hContiguous

end ValueType

mutual
/-- A decoding that fails stalls where its type says, with the target in the state that the type says. -/
theorem ValueType.codec_stalls (format : Format) :
    (t : ValueType) → (h : t.Serializable) → (t.codec format h).Stalls (t.stall format)
  | .scalar s, _ => Codec.number_stalls format.order s.size
  | .enumeration _ s, _ => Codec.number_stalls format.order s.size
  | .text .owned, _ => Codec.contiguous_stalls format Codec.byte_sized Nat.one_pos
  | .pair a b, h => Codec.both_stalls (a.codec_reads format h.1) (a.layout_spelledBy format h.1)
      (a.codec_stalls format h.1) (b.codec_stalls format h.2)
  | .entry k v, h => Codec.both_stalls (k.codec_reads format h.1) (k.layout_spelledBy format h.1)
      (k.codec_stalls format h.1) (v.codec_stalls format h.2)
  | .tuple t rest, h => Codec.both_stalls (t.codec_reads format h.1) (t.layout_spelledBy format h.1)
      (t.codec_stalls format h.1) (rest.codec_stalls format h.2)
  | .array n t, h => Codec.row_stalls (t.codec_reads format h.2) (t.layout_spelledBy format h.2)
      (t.codec_stalls format h.2) n
  | .sequence kind t, h => by
      have hReads := t.codec_reads format h.2
      have hSpelled := t.layout_spelledBy format h.2
      have hElement := t.codec_stalls format h.2
      by_cases hContiguous : ValueType.isContiguous kind t = true
      · rw [ValueType.stall_sequence_contiguous hContiguous, ← t.minSize_codec format h.2]
        exact ValueType.codec_sequence_contiguous hContiguous h ▸ Codec.contiguous_stalls format
          (t.sized_of_isContiguous hContiguous h.2) (t.minSize_pos_of_isContiguous hContiguous h.2)
      · rw [ValueType.stall_sequence_appending hContiguous, ← t.minSize_codec format h.2,
          ← t.blank_codec format h.2]
        exact ValueType.codec_sequence_appending hContiguous h ▸ Codec.container_stalls format hReads
          hSpelled hElement fun xs => (Codec.foldl_append_singleton xs []).symm
  | .set lookup multi t, h => by
      rw [ValueType.stall, ← t.minSize_codec format h, ← t.blank_codec format h]
      exact Codec.container_stalls format (t.codec_reads format h) (t.layout_spelledBy format h)
        (t.codec_stalls format h) fun _ => rfl
  | .map lookup multi k v, h => by
      have hReads := k.codec_reads format h.1
      have hSpelled := k.layout_spelledBy format h.1
      rw [ValueType.stall, ← k.minSize_codec format h.1, ← v.minSize_codec format h.2,
        ← k.blank_codec format h.1, ← v.blank_codec format h.2]
      exact Codec.container_stalls format (Codec.both_reads hReads (v.codec_reads format h.2))
        (Layout.both_spelledBy hSpelled (v.layout_spelledBy format h.2))
        (Codec.both_stalls hReads hSpelled (k.codec_stalls format h.1) (v.codec_stalls format h.2))
        fun _ => rfl

theorem FieldTypes.codec_stalls (format : Format) :
    (ts : FieldTypes) → (h : ts.Serializable) → (ts.codec format h).Stalls (ts.stall format)
  | .nil, _ => Codec.nothing_stalls
  | .cons t rest, h => Codec.both_stalls (t.codec_reads format h.1) (t.layout_spelledBy format h.1)
      (t.codec_stalls format h.1) (rest.codec_stalls format h.2)
end

namespace ValueType

/-- A number, a text or a vector of numbers is kept whenever its decoding stops. -/
theorem kept_of_stall {format : Format} {t : ValueType} {target left : t.Val} {fields : List Field}
    {rest : Bytes} {stop : Stop} (hStall : t.stall format target fields rest stop left)
    (hKind : t.kind = .arithmetic ∨ t.kind = .enumeration ∨ t.kind = .contiguous) : left = target := by
  cases t with
  | scalar s => exact hStall.2.2.2
  | enumeration name s => exact hStall.2.2.2
  | text kind =>
      cases kind with
      | owned => cases hStall <;> rfl
      | _ => exact hStall.elim
  | array n t => by_cases hNone : n = 0 <;> simp [kind, hNone] at hKind
  | sequence kind t =>
      by_cases hContiguous : isContiguous kind t = true
      · rw [stall_sequence_contiguous hContiguous] at hStall
        cases hStall <;> rfl
      · by_cases hPacked : isPacked kind t = true <;> simp [ValueType.kind, hContiguous, hPacked] at hKind
  | _ => simp [kind] at hKind

/-- A decoding that stops early has consumed just the fields that it read, and has left the target in the state of
a stall of the type: numbers, texts and vectors of numbers are kept, whatever their bytes and the width of the
length field. A channel keeps its cursor, and only the state of the target is seen through it. Wherever there is
a stall, decoding stops just there. -/
theorem decode_stops_with_stall (format : Format) (t : ValueType) (h : t.Serializable) (target : t.Val)
    (bytes : Bytes) (stop : Stop) (rest : Bytes) (left : t.Val) :
    ((t.codec format h).decode target bytes = ⟨left, rest, some stop⟩ →
      (∃ fields, bytes = Field.wire fields ++ rest ∧ t.stall format target fields rest stop left) ∧
      (t.kind = .arithmetic ∨ t.kind = .enumeration ∨ t.kind = .contiguous → left = target) ∧
      ∀ past, (InputChannel.readInto (t.codec format h)).outcome (target, ⟨past, bytes⟩) =
        (.error (InputChannel.failureOf stop), (left, ⟨past, bytes⟩))) ∧
    (∀ fields, bytes = Field.wire fields ++ rest → t.stall format target fields rest stop left →
      bytes.length ≤ Bytes.longest → (t.codec format h).decode target bytes = ⟨left, rest, some stop⟩) := by
  have hStalls := t.codec_stalls format h
  constructor
  · intro hDecode
    have hSound := hStalls.sound target bytes stop
    rw [hDecode] at hSound
    obtain ⟨fields, hBytes, hStall⟩ := hSound rfl
    refine ⟨⟨fields, hBytes, hStall⟩, kept_of_stall hStall, fun past => ?_⟩
    simp only [Action.outcome, InputChannel.readInto, hDecode]
  · rintro fields rfl hStall hLength
    exact hStalls.complete target fields rest stop left hStall hLength

/-- A number, and some texts behind it. -/
abbrev numberedTexts : ValueType := pair (.scalar .uint8) (sequence .list string)

def sevenAndOne : numberedTexts.Val :=
  show BitVec 8 × List Bytes from (7, [[65]])

def fiveAndTwo : numberedTexts.Val :=
  show BitVec 8 × List Bytes from (5, [[66], [67, 68]])

/-- The second of two texts claims nine bytes where there are none. The number and the first text have been read,
and nothing is left of what the target held. -/
theorem decode_stops_at_second_text :
    (numberedTexts.codec ⟨.big, .w16⟩ (by decide)).decode fiveAndTwo [7, 0, 2, 0, 1, 65, 0, 9] =
      ⟨sevenAndOne, [], some .shortage⟩ ∧
    ∃ fields, ([7, 0, 2, 0, 1, 65, 0, 9] : Bytes) = Field.wire fields ++ [] ∧
      numberedTexts.stall ⟨.big, .w16⟩ fiveAndTwo fields [] .shortage sevenAndOne := by
  have hDecode : (numberedTexts.codec ⟨.big, .w16⟩ (by decide)).decode fiveAndTwo
      [7, 0, 2, 0, 1, 65, 0, 9] = ⟨sevenAndOne, [], some .shortage⟩ := rfl
  exact ⟨hDecode, ((decode_stops_with_stall ⟨.big, .w16⟩ numberedTexts (by decide) fiveAndTwo _ .shortage []
    sevenAndOne).1 hDecode).1⟩

end ValueType

end SerializerContract
