import SerializerContract.Proofs.Nesting.Basic

/-! Round trips through any number of wrappers. A wrapper chooses between the two ways of reading, and of
copying, of what it wraps: it needs both of them, and offers both. -/
namespace SerializerContract

namespace World

variable {A S N : Type} {t : ValueType} {W : World Store S N t.Val} {C : Contract Store A t S N}
    {padding : Nat} {ofAny : A → Option (WrapperSnapshot N)}

/-- Serializers that copy, write and read the values that they are about, and refuse to write others. -/
structure Transports (W : World Store S N t.Val) (C : Contract Store A t S N) : Prop where
  copies : W.Copies C
  copiesInto : W.CopiesInto C
  serializes : W.Serializes C
  deserializes : W.Deserializes C
  readsIntoTarget : W.ReadsIntoTarget C
  writesOnly : W.WritesOnly C

theorem Handles.transports {κ : Type} {W : World Store (Object κ) N t.Val}
    {C : Contract Store A t (Object κ) N} (h : W.Handles C) (hOnly : W.WritesOnly C) : W.Transports C :=
  { h with writesOnly := hOnly }

/-- Wrapping keeps values transported, as long as the padding and the room allow the null form. -/
theorem Transports.optional (h : W.Transports C) (hPadding : padding ≤ 0x7fffffff)
    (hRoom : W.room ≤ Bytes.longest) : (W.optional padding).Transports (Wrapper.contract C ofAny) where
  copies := optional_copies h.copies
  copiesInto := optional_copiesInto h.copies h.copiesInto
  serializes := optional_serializes h.serializes hPadding hRoom
  deserializes := optional_deserializes h.deserializes
  readsIntoTarget := optional_readsIntoTarget h.deserializes h.readsIntoTarget
  writesOnly := optional_writesOnly h.writesOnly

end World

namespace Nesting

variable {f : Family}

/-- The nestings transport every value of their domain, by induction on the levels. -/
theorem transports (s : Nesting f) : s.world.Transports f.contract := by
  induction s with
  | number => exact NumberSerializer.world_handles.transports NumberSerializer.world_writesOnly
  | text config => exact (TextSerializer.world_handles config).transports TextSerializer.world_writesOnly
  | numbers => exact NumbersSerializer.world_handles.transports NumbersSerializer.world_writesOnly
  | point => exact (PointSerializer.world_handles _).transports PointSerializer.world_writesOnly
  | circle => exact (CircleSerializer.world_handles _).transports CircleSerializer.world_writesOnly
  | nullable inner padding padded ih => exact ih.optional padded (Nat.le_of_eq inner.world_room)

/-- What a serializer does with a value: the value is written as its bytes behind anything that is there,
and read back from them in front of anything. It is read and copied by itself, or into any reuse target,
whatever that holds; then the target is what is returned. The serializer can be used again after each of
these. -/
structure Carries (s : Nesting f) (x : f.Serializer) (v : f.Value) (store : Store) : Prop where
  serialize : ∀ out : OutputChannel, out.size + (s.written v).length ≤ Bytes.longest →
    ((f.contract.operations x).serialize v).Succeeds (out, store) fun _ last =>
      last.1 = out.appended (s.written v) ∧ s.world.live x last.2
  deserialize : ∀ (input : InputChannel) suffix, input.rest = s.written v ++ suffix →
    input.rest.length ≤ Bytes.longest →
    (f.contract.operations x).deserialize.Succeeds (input, store) fun read last =>
      f.Same v read ∧ last.1.rest = suffix ∧ s.world.live x last.2
  deserializeInto : ∀ reuse (input : InputChannel) suffix, input.rest = s.written v ++ suffix →
    input.rest.length ≤ Bytes.longest →
    (f.contract.operations x).deserializeInto.Succeeds ((reuse, input), store) fun returned last =>
      returned = .target ∧ f.Same v last.1.1 ∧ last.1.2.rest = suffix ∧ s.world.live x last.2
  copy : ((f.contract.operations x).copy v).Succeeds store fun copied last =>
    f.Same v copied ∧ s.world.live x last
  copyInto : ∀ reuse, ((f.contract.operations x).copyInto v).Succeeds (reuse, store) fun returned last =>
    returned = .target ∧ f.Same v last.1 ∧ s.world.live x last.2

/-- A live serializer of a nesting carries each of its values. -/
theorem carries (s : Nesting f) {x : f.Serializer} {v : f.Value} {store : Store}
    (hLive : s.world.live x store) (hDomain : s.world.domain v) : s.Carries x v store := by
  have hTransports := s.transports
  have hLike := s.world_like
  have hRoom := s.world_room
  have hBytes := s.world_bytes x v
  constructor
  · intro out hFits
    apply (hTransports.serializes x store v out hLive hDomain (by rwa [hBytes, hRoom])).mono
    intro _ last hWritten
    exact ⟨hBytes ▸ hWritten.1, hWritten.2.live x hLive⟩
  · intro input suffix hInput hFits
    rw [← hBytes] at hInput
    apply (hTransports.deserializes x store v input suffix hLive hDomain hInput (hRoom ▸ hFits)).mono
    intro read last hRead
    exact ⟨hLike ▸ hRead.1, hRead.2.1, hRead.2.2.live x hLive⟩
  · intro reuse input suffix hInput hFits
    rw [← hBytes] at hInput
    apply (hTransports.readsIntoTarget x store v reuse input suffix hLive hDomain hInput
      (hRoom ▸ hFits)).mono
    intro returned last hRead
    exact ⟨hRead.1, hLike ▸ hRead.2.1, hRead.2.2.1, hRead.2.2.2.live x hLive⟩
  · apply (hTransports.copies x store v hLive hDomain).mono
    intro copied last hCopied
    exact ⟨hLike ▸ hCopied.1, hCopied.2.live x hLive⟩
  · intro reuse
    apply (hTransports.copiesInto x store v reuse hLive hDomain).mono
    intro returned last hCopied
    exact ⟨hCopied.1, hLike ▸ hCopied.2.1, hCopied.2.2.live x hLive⟩

/-- A value that was written once was written as its bytes, and from then on is carried as long as the
serializer can be used. -/
theorem carries_of_serialize (s : Nesting f) {x : f.Serializer} {v : f.Value} {out later : OutputChannel}
    {store last : Store} (hLive : s.world.live x store)
    (hWritten : ((f.contract.operations x).serialize v).outcome (out, store) = (.ok (), (later, last))) :
    later = out.appended (s.written v) ∧ s.world.live x last ∧
      ∀ state, s.world.live x state → s.Carries x v state := by
  obtain ⟨hDomain, hOut, hKeeps⟩ := s.transports.writesOnly x store v out _ hLive hWritten
  rw [s.world_bytes] at hOut
  exact ⟨hOut, hKeeps.live x hLive, fun state hState => s.carries hState hDomain⟩

/-- Null inside is written behind another byte, and carried from then on. -/
theorem carries_of_serialize_null_inside :
    ((Family.contract _).operations shortTextSerializer |>.serialize (some none)).outcome
        (⟨[7]⟩, ⟨[{}, {}, {}], 0, 0⟩) = (.ok (), (⟨[7, 0, 1, 0, 0, 0, 0]⟩, ⟨[{}, {}, {}], 0, 0⟩)) ∧
      shortTexts.Carries shortTextSerializer (some none) ⟨[{}, {}, {}], 0, 0⟩ := by
  have hWritten : ((Family.contract _).operations shortTextSerializer |>.serialize (some none)).outcome
      (⟨[7]⟩, ⟨[{}, {}, {}], 0, 0⟩) =
        (.ok (), (⟨[7, 0, 1, 0, 0, 0, 0]⟩, ⟨[{}, {}, {}], 0, 0⟩)) := rfl
  exact ⟨hWritten, (carries_of_serialize shortTexts shortTextSerializer_live hWritten).2.2 _
    shortTextSerializer_live⟩

end Nesting

end SerializerContract
