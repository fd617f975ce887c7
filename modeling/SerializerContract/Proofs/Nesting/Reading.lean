import SerializerContract.Proofs.Nesting.Basic
import SerializerContract.Proofs.Reading.Optional
import SerializerContract.Proofs.Reading.Samples

/-! Reading a value from any source, through any number of wrappers. However the value is read, the same bytes
are taken, and the same sources are refused. -/
namespace SerializerContract

namespace Nesting

variable {f : Family}

/-- The flags that are read from a source are yes or no: there is one at each level, until one says that the
value is null or the source ends. -/
def FlagsNormal : {f : Family} → Nesting f → Bytes → Prop
  | _, number, _ => True
  | _, text _, _ => True
  | _, numbers, _ => True
  | _, point, _ => True
  | _, circle, _ => True
  | _, nullable _ _ _, [] => True
  | _, nullable inner _ _, flag :: rest =>
      flag = Nullable.flagByte true ∨ flag = Nullable.flagByte false ∧ inner.FlagsNormal rest

/-- At each level there is a flag, and then what the wrapped serializer agrees on. -/
theorem agrees (s : Nesting f) {x : f.Serializer} {store : Store} (hLive : s.world.live x store)
    {bytes : Bytes} (hFlags : s.FlagsNormal bytes) :
    (f.contract.operations x).Agrees f.Same bytes := by
  induction s generalizing bytes with
  | number =>
      have hPlain : Family.number.contract.operations x = NumberSerializer.plain :=
        NumberSerializer.operations_of_plain hLive
      rw [hPlain]
      exact Operations.ofCodec_agrees (Codec.number_sized .network 4) bytes
  | text config => exact TextSerializer.operations_agrees x bytes
  | numbers =>
      obtain ⟨id, kind⟩ := x
      obtain ⟨rfl, -⟩ := hLive
      exact NumbersSerializer.plain_agrees id bytes
  | point => exact PointSerializer.operations_agrees bytes
  | circle => exact CircleSerializer.operations_agrees bytes
  | @nullable f inner padding padded ih =>
      have hWrapper : (Family.nullable f).contract.operations x =
          Nullable.operations (f.contract.operations x.config.inner) padding :=
        World.optional_operations hLive
      rw [hWrapper]
      cases bytes with
      | nil => exact .refused Nullable.operations_refuses_nil
      | cons flag rest =>
          exact Nullable.operations_agrees (hFlags.imp_right fun hValue => ⟨hValue.1, ih hLive.1 hValue.2⟩)

/-- However a value is read from a source whose flags are yes or no, the same happens. If it can be read in
one way, it can be read in all three: they take the same bytes, which are copied as they are, and yield the
same value, into whatever reuse target and whatever was copied before. It is the value of these bytes in front
of anything, so it is read again from the copy. If it cannot be read in one way, all three fail. -/
theorem readings_agree (s : Nesting f) {x : f.Serializer} {store : Store} (hLive : s.world.live x store)
    {bytes : Bytes} (hFlags : s.FlagsNormal bytes) :
    (f.contract.operations x).Refuses bytes ∨
      ∃ front suffix v, bytes = front ++ suffix ∧ (f.contract.operations x).Accepts f.Same front v := by
  cases s.agrees hLive hFlags with
  | refused hRefuses => exact .inl hRefuses
  | accepted hAccepts suffix => exact .inr ⟨_, suffix, _, rfl, hAccepts⟩

/-- A text inside two wrappers is taken up to its last byte, however it is read. -/
theorem readings_agree_short_texts :
    shortTexts.world.live shortTextSerializer ⟨[{}, {}, {}], 0, 0⟩ ∧
      shortTexts.FlagsNormal [0, 0, 0, 0, 0, 2, 97, 98, 9] ∧
      ((Family.contract _).operations shortTextSerializer).Accepts (Family.Same _)
        [0, 0, 0, 0, 0, 2, 97, 98] (some (some [97, 98])) := by
  have hFlags : shortTexts.FlagsNormal [0, 0, 0, 0, 0, 2, 97, 98, 9] :=
    .inr ⟨rfl, .inr ⟨rfl, trivial⟩⟩
  have hRead : ((Family.contract _).operations shortTextSerializer).deserialize.outcome
      (⟨[], [0, 0, 0, 0, 0, 2, 97, 98, 9]⟩, {}) =
        (.ok (some (some [97, 98])), (⟨[0, 0, 0, 0, 0, 2, 97, 98], [9]⟩, {})) := rfl
  refine ⟨shortTextSerializer_live, hFlags, ?_⟩
  obtain hRefuses | ⟨front, suffix, v, hBytes, hAccepts⟩ :=
    readings_agree shortTexts shortTextSerializer_live hFlags
  · exact absurd hRead ((hRefuses.deserialize [] {}).not_ok _ _)
  · have hSame := hRead.symm.trans (hBytes ▸ hAccepts.deserialize [] suffix {})
    obtain ⟨hValue, hRest⟩ := Prod.mk.inj hSame
    obtain rfl := Except.ok.inj hValue
    obtain rfl := (InputChannel.mk.inj (Prod.mk.inj hRest).1).1
    exact hAccepts

end Nesting

end SerializerContract
