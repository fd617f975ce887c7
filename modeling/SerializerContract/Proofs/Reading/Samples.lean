import SerializerContract.Proofs.Conformance.Geometry
import SerializerContract.Proofs.Conformance.Text
import SerializerContract.Proofs.Reading.Operations
import SerializerContract.Sample.Numbers

/-! Reading the values of the library from any source. A copied length field is the only thing that is
looked at when bytes are copied; a limit is checked before they are copied, and after they are decoded. -/
namespace SerializerContract

namespace Operations

/-! ## Counted values -/

section

variable {size : Nat} {check : Nat → Except Failure Unit} {field : Bytes} (hField : field.length = 4)

include hField in
/-- A length field is read as the number that it spells, and written as the same bytes. -/
theorem wordCodec_spells : ∃ v : BitVec 32, v.toNat = Codec.count field ∧ wordBytes v = field ∧
    wordCodec.Spells field v := by
  have hCount : (BitVec.ofNat 32 (Codec.count field)).toNat = Codec.count field := by
    rw [BitVec.toNat_ofNat]
    exact Nat.mod_eq_of_lt (Codec.count_lt hField)
  refine ⟨_, hCount, ?_, Codec.number_spells .network hField⟩
  rw [wordBytes, hCount]
  exact ByteOrder.toBytes_ofBytes .network hField

include hField in
/-- After the length field its check is all that is left before the rest is moved. -/
theorem rawCopyCounted_outcome (past rest : Bytes) (out : OutputChannel) :
    (rawCopyCounted size check).outcome (⟨past, field ++ rest⟩, out) =
      match check (Codec.count field) with
      | .ok () => (OutputChannel.move (Codec.count field * size)).outcome
          (⟨past ++ field, rest⟩, out.appended field)
      | .error failure => (.error failure, (⟨past ++ field, rest⟩, out)) := by
  obtain ⟨v, hCount, hBytes, hSpells⟩ := wordCodec_spells hField
  have hRead : (Action.onFirst (σ := OutputChannel) (InputChannel.read wordCodec)).outcome
      (⟨past, field ++ rest⟩, out) = (.ok v, (⟨past ++ field, rest⟩, out)) :=
    Action.onFirst_ok_iff.mpr ⟨InputChannel.read_of_spells hSpells past rest, rfl⟩
  have hWrite : (Action.onSecond (s := InputChannel) (OutputChannel.write wordCodec v)).outcome
      (⟨past ++ field, rest⟩, out) = (.ok (), (⟨past ++ field, rest⟩, out.appended field)) :=
    Action.onSecond_ok_iff.mpr ⟨hBytes ▸ OutputChannel.write_outcome (wordCodec_trips v) out, rfl⟩
  rw [rawCopyCounted, Action.outcome_bind, hRead]
  simp only [Action.outcome_bind, Action.outcome_ofExcept, hCount]
  cases check (Codec.count field) with
  | ok _ => simp only [hWrite]
  | error failure => rfl

include hField in
/-- The counted raw copy takes the field and all the elements it announces. -/
theorem rawCopyCounted_whole {body : Bytes} (hCheck : check (Codec.count field) = .ok ())
    (hBody : body.length = Codec.count field * size) (past suffix : Bytes) (out : OutputChannel) :
    (rawCopyCounted size check).outcome (⟨past, (field ++ body) ++ suffix⟩, out) =
      (.ok (), (⟨past ++ (field ++ body), suffix⟩, out.appended (field ++ body))) := by
  rw [List.append_assoc, rawCopyCounted_outcome hField, hCheck]
  simp only [OutputChannel.move_outcome hBody, OutputChannel.appended_appended, List.append_assoc]

include hField in
/-- The counted raw copy fails if fewer elements follow than announced. -/
theorem rawCopyCounted_fails_cut {rest : Bytes} (hShort : rest.length < Codec.count field * size)
    (past : Bytes) (out : OutputChannel) :
    (rawCopyCounted size check).Fails (⟨past, field ++ rest⟩, out) := by
  cases hCheck : check (Codec.count field) with
  | ok _ =>
      obtain ⟨failure, last, hMove⟩ := OutputChannel.move_fails hShort (past ++ field) (out.appended field)
      refine ⟨failure, last, ?_⟩
      rw [rawCopyCounted_outcome hField, hCheck]
      exact hMove
  | error failure =>
      refine ⟨failure, (⟨past ++ field, rest⟩, out), ?_⟩
      rw [rawCopyCounted_outcome hField, hCheck]

include hField in
/-- The check on the count comes before any element is moved. -/
theorem rawCopyCounted_fails_check {failure : Failure} (hCheck : check (Codec.count field) = .error failure)
    (past rest : Bytes) (out : OutputChannel) :
    (rawCopyCounted size check).Fails (⟨past, field ++ rest⟩, out) := by
  refine ⟨failure, (⟨past ++ field, rest⟩, out), ?_⟩
  rw [rawCopyCounted_outcome hField, hCheck]

end

/-- Without a whole count field there is nothing to copy. -/
theorem rawCopyCounted_fails_noField {size : Nat} {check : Nat → Except Failure Unit} {bytes : Bytes}
    (hShort : bytes.length < 4) (past : Bytes) (out : OutputChannel) :
    (rawCopyCounted size check).Fails (⟨past, bytes⟩, out) :=
  (InputChannel.read_fails ((Codec.number_sized .network 4).rejects bytes hShort) past).onFirst.bind _

/-- Copying a length field and as many elements agrees with decoding them. -/
theorem ofCodec_counted_agrees {σ ε : Type} {codec : Codec ε} {initial : List ε} {length : Int}
    (h : codec.Sized codec.minSize) (hPos : 0 < codec.minSize) (hSmall : codec.minSize ≤ 0x80000000)
    (bytes : Bytes) :
    (ofCodec (σ := σ) (.contiguous .network codec) initial length
      (rawCopyCounted codec.minSize anyLength)).Agrees Eq bytes := by
  cases Codec.counted codec.minSize bytes with
  | noField hShort =>
      exact .refused (ofCodec_refuses (Codec.contiguous_rejects_noField codec hShort)
        (rawCopyCounted_fails_noField hShort))
  | cut hField hShort =>
      exact .refused (ofCodec_refuses (Codec.contiguous_rejects_cut hSmall hField hShort)
        (rawCopyCounted_fails_cut hField hShort))
  | whole hField hBody =>
      obtain ⟨v, -, hSpells⟩ := Codec.contiguous_spells h hPos hSmall hField hBody
      exact .accepted (ofCodec_accepts hSpells (rawCopyCounted_whole hField rfl hBody)) _

end Operations

/-! ## Texts -/

namespace TextSerializer

variable {σ : Type} {limit : BitVec 32} {front bytes : Bytes} {v : Bytes}

/-- The three readings of the unbounded text serializer agree on all inputs. -/
theorem unbounded_agrees (bytes : Bytes) : (unbounded (σ := σ)).Agrees Eq bytes := by
  have hSized : Codec.byte.Sized Codec.byte.minSize := Codec.byte_sized
  exact Operations.ofCodec_counted_agrees hSized (by decide) (by decide) bytes

/-- A text is read in any case; its length is looked at afterwards. -/
theorem readBounded_outcome (h : stringCodec.Spells front v) (past suffix target : Bytes) (state : σ) :
    (readBounded limit).outcome ((target, ⟨past, front ++ suffix⟩), state) =
      (checkLength limit v.length, ((v, ⟨past ++ front, suffix⟩), state)) := by
  have hRead : (Action.onFirst (σ := σ) (InputChannel.readInto stringCodec)).outcome
      ((target, ⟨past, front ++ suffix⟩), state) = (.ok (), ((v, ⟨past ++ front, suffix⟩), state)) :=
    Action.onFirst_ok_iff.mpr ⟨InputChannel.readInto_of_decode (h target suffix), rfl⟩
  rw [readBounded, Action.outcome_bind, hRead]
  rfl

theorem readBounded_fails (h : stringCodec.Rejects bytes) (past target : Bytes) (state : σ) :
    (readBounded limit).Fails ((target, ⟨past, bytes⟩), state) :=
  (InputChannel.readInto_fails h target past).onFirst.bind _

theorem bounded_deserialize_outcome_eq (limit : BitVec 32) (input : InputChannel) (state : σ) :
    (bounded limit).deserialize.outcome (input, state) =
      let read := (readBounded limit).outcome (([], input), state)
      (read.1.map fun () => read.2.1.1, (read.2.1.2, read.2.2)) := rfl

/-- What cannot be read as a text within the limit is not read into a reuse target either. -/
theorem bounded_refuses
    (hCopy : ∀ past out, (Operations.rawCopyCounted 1 (checkLength limit)).Fails (⟨past, bytes⟩, out))
    (hRead : ∀ past target (state : σ), (readBounded limit).Fails ((target, ⟨past, bytes⟩), state)) :
    (bounded (σ := σ) limit).Refuses bytes where
  rawCopy past out _ := (hCopy past out).onFirst
  deserialize past state := by
    obtain ⟨failure, last, hFailed⟩ := hRead past [] state
    refine ⟨failure, (last.1.2, last.2), ?_⟩
    rw [bounded_deserialize_outcome_eq, hFailed]
    rfl
  deserializeInto past reuse state := (hRead past reuse state).bind _

/-- Within the limit the bounded serializer accepts a text in all three readings. -/
theorem bounded_accepts (h : stringCodec.Spells front v) (hLimit : v.length ≤ limit.toNat)
    (hCopy : ∀ past suffix out, (Operations.rawCopyCounted 1 (checkLength limit)).outcome
      (⟨past, front ++ suffix⟩, out) = (.ok (), (⟨past ++ front, suffix⟩, out.appended front))) :
    (bounded (σ := σ) limit).Accepts Eq front v where
  like_self := rfl
  rawCopy past suffix out _ := Action.onFirst_ok_iff.mpr ⟨hCopy past suffix out, rfl⟩
  deserialize past suffix state := by
    rw [bounded_deserialize_outcome_eq, readBounded_outcome h, checkLength_of_le hLimit]
    rfl
  deserializeInto past suffix reuse state := by
    have hRead : (readBounded limit).outcome ((reuse, ⟨past, front ++ suffix⟩), state) =
        (.ok (), ((v, ⟨past ++ front, suffix⟩), state)) := by
      rw [readBounded_outcome h, checkLength_of_le hLimit]
    exact ⟨v, rfl, Action.then_ok_iff.mpr ⟨_, hRead, rfl⟩⟩

/-- The limit is checked at different times, but against the same length. -/
theorem bounded_agrees (limit : BitVec 32) (bytes : Bytes) :
    (bounded (σ := σ) limit).Agrees Eq bytes := by
  cases Codec.counted 1 bytes with
  | noField hShort =>
      exact .refused (bounded_refuses (Operations.rawCopyCounted_fails_noField hShort) fun past target state =>
        readBounded_fails (Codec.contiguous_rejects_noField Codec.byte hShort) past target state)
  | cut hField hShort =>
      have hRejects : stringCodec.Rejects _ := Codec.contiguous_rejects_cut (by decide) hField hShort
      exact .refused (bounded_refuses (Operations.rawCopyCounted_fails_cut hField hShort)
        fun past target state => readBounded_fails hRejects past target state)
  | whole hField hBody =>
      obtain ⟨v, hCount, hSpells⟩ :=
        Codec.contiguous_spells Codec.byte_sized (by decide) (by decide) hField hBody
      by_cases hLimit : v.length ≤ limit.toNat
      · have hCheck := checkLength_of_le hLimit
        rw [hCount] at hCheck
        exact .accepted (bounded_accepts hSpells hLimit
          (Operations.rawCopyCounted_whole hField hCheck hBody)) _
      · have hLonger : checkLength limit v.length = .error _ := if_pos (Nat.not_le.mp hLimit)
        refine .refused (bounded_refuses (fun past out => ?_) fun past target state => ?_)
        · rw [List.append_assoc]
          exact Operations.rawCopyCounted_fails_check hField (hCount ▸ hLonger) past _ out
        · exact ⟨_, _, (readBounded_outcome hSpells past _ target state).trans (by rw [hLonger])⟩

/-- Both kinds of text serializers read, read in place and copy the same prefix or fail together. -/
theorem operations_agrees (x : TextSerializer) (bytes : Bytes) : x.operations.Agrees Eq bytes := by
  obtain ⟨id, config⟩ := x
  cases config with
  | unbounded => exact unbounded_agrees bytes
  | bounded limit => exact bounded_agrees limit bytes

end TextSerializer

/-! ## Lists of numbers -/

/-- A list is read without the scratch channel that it is written through. -/
theorem NumbersSerializer.plain_agrees (id : Nat) (bytes : Bytes) : (plain id).Agrees Eq bytes := by
  have hCodec : (Operations.ofCodec (σ := Store) codec [] variableLength
      (Operations.rawCopyCounted 8 Operations.anyLength)).Agrees Eq bytes :=
    Operations.ofCodec_counted_agrees (Codec.number_sized .network 8) (by decide) (by decide) bytes
  exact hCodec.congr rfl rfl rfl

/-! ## Points and circles -/

theorem PointSerializer.operations_agrees {σ : Type} (bytes : Bytes) :
    (operations (σ := σ)).Agrees Eq bytes := by
  have hSized : (Codec.both doubleCodec doubleCodec).Sized 16 :=
    (Codec.number_sized .network 8).both (Codec.number_sized .network 8)
  by_cases hShort : bytes.length < 16
  · have hRead : ∀ past, read.Fails ⟨past, bytes⟩ := fun past =>
      (InputChannel.read_fails (hSized.rejects bytes hShort) past).bind _
    exact .refused {
      rawCopy := fun past out _ => (OutputChannel.move_fails hShort past out).onFirst
      deserialize := fun past _ => (hRead past).onFirst
      deserializeInto := fun past _ _ => (hRead past).onSecond.onFirst.bind _ }
  · obtain ⟨front, suffix, rfl, hFront⟩ := Codec.exists_front (Nat.not_lt.mp hShort)
    obtain ⟨⟨x, y⟩, hSpells⟩ := hSized.spells front hFront
    have hRead : ∀ past suffix, read.outcome ⟨past, front ++ suffix⟩ = (.ok ⟨x, y⟩, ⟨past ++ front, suffix⟩) :=
      fun past suffix => Action.bind_ok_iff.mpr ⟨(x, y), _, InputChannel.read_of_spells hSpells past suffix, rfl⟩
    refine .accepted (v := ⟨x, y⟩) ?_ suffix
    exact {
      like_self := rfl
      rawCopy := fun past suffix out _ =>
        Action.onFirst_ok_iff.mpr ⟨OutputChannel.move_outcome hFront past suffix out, rfl⟩
      deserialize := fun past suffix _ => Action.onFirst_ok_iff.mpr ⟨hRead past suffix, rfl⟩
      deserializeInto := fun past suffix _ _ => ⟨⟨x, y⟩, rfl, Action.bind_ok_iff.mpr ⟨_, _,
        Action.onFirst_ok_iff.mpr ⟨Action.onSecond_ok_iff.mpr ⟨hRead past suffix, rfl⟩, rfl⟩, rfl⟩⟩ }

/-- A circle is read as its radius, whether or not there is a circle in the reuse target. -/
theorem CircleSerializer.operations_agrees {σ : Type} (bytes : Bytes) :
    (operations (σ := σ)).Agrees (fun v w => ∃ radius, HasRadius v radius ∧ HasRadius w radius) bytes := by
  have hSized : doubleCodec.Sized 8 := Codec.number_sized .network 8
  by_cases hShort : bytes.length < 8
  · have hRead : ∀ past, (InputChannel.read doubleCodec).Fails ⟨past, bytes⟩ :=
      InputChannel.read_fails (hSized.rejects bytes hShort)
    exact .refused {
      rawCopy := fun past out _ => (OutputChannel.move_fails hShort past out).onFirst
      deserialize := fun past _ => (hRead past).onFirst.bind _
      deserializeInto := fun past _ _ => (hRead past).onSecond.onFirst.bind _ }
  · obtain ⟨front, suffix, rfl, hFront⟩ := Codec.exists_front (Nat.not_lt.mp hShort)
    obtain ⟨radius, hSpells⟩ := hSized.spells front hFront
    have hRead := InputChannel.read_of_spells hSpells
    refine .accepted (v := some (circle radius)) ?_ suffix
    exact {
      like_self := ⟨radius, hasRadius_circle radius, hasRadius_circle radius⟩
      rawCopy := fun past suffix out _ =>
        Action.onFirst_ok_iff.mpr ⟨OutputChannel.move_outcome hFront past suffix out, rfl⟩
      deserialize := fun past suffix _ => Action.bind_ok_iff.mpr ⟨radius, _,
        Action.onFirst_ok_iff.mpr ⟨hRead past suffix, rfl⟩, rfl⟩
      deserializeInto := fun past suffix reuse _ => ⟨withRadius radius reuse,
        ⟨radius, hasRadius_circle radius, hasRadius_withRadius radius reuse⟩, Action.bind_ok_iff.mpr ⟨_, _,
          Action.onFirst_ok_iff.mpr ⟨Action.onSecond_ok_iff.mpr ⟨hRead past suffix, rfl⟩, rfl⟩, rfl⟩⟩ }

end SerializerContract
