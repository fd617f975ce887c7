import SerializerContract.Proofs.Channel

/-! Snapshots in bytes. What is written for a snapshot is read back as one, as far as its payload is, and
whatever is behind it is left. -/
namespace SerializerContract

namespace Registry

variable {σ A : Type} (registry : Registry σ A) {id other : Bytes} (factory : Factory σ A)

/-- The last registration of an identifier counts. -/
theorem find_register : (registry.register id factory).find id = some factory := List.lookup_cons_self

theorem find_register_of_ne (h : id ≠ other) :
    (registry.register other factory).find id = registry.find id := by
  change List.lookup id ((other, factory) :: registry.factories) = _
  rw [List.lookup_cons, beq_eq_false_iff_ne.mpr h]
  rfl

end Registry

namespace Contract

variable {σ A S N : Type} {t : ValueType} (C : Contract σ A t S N) {registry : Registry σ A}
    {n : N} {payload : Bytes} {state : σ}

/-- A registry makes what the factory of an id makes, if that belongs to the family. -/
theorem instantiate_succeeds {id : Bytes} {factory : Factory σ A} {post : N → σ → Prop}
    (hFind : registry.find id = some factory)
    (hFactory : factory.Succeeds state fun made last =>
      ∃ a m, made = some a ∧ C.ofAny a = some m ∧ post m last) :
    (C.instantiate registry id).Succeeds state post := by
  have hMade : (registry.instantiate id).Succeeds state fun a last =>
      ∃ m, C.ofAny a = some m ∧ post m last := by
    rw [Registry.instantiate, hFind]
    apply hFactory.bind
    intro made middle hMade
    obtain ⟨a, m, rfl, hOf, hPost⟩ := hMade
    exact Action.pure_succeeds ⟨m, hOf, hPost⟩
  apply hMade.bind
  intro a last hLast
  obtain ⟨m, hOf, hPost⟩ := hLast
  rw [hOf]
  exact Action.pure_succeeds hPost

/-- The bytes of a snapshot: its id, its version, and a payload with its length. -/
def framed (n : N) (payload : Bytes) : Bytes :=
  textBytes (C.snapshotId n) ++ (wordBytes (BitVec.ofInt 32 (C.snapshotVersion n)) ++
    (wordBytes (BitVec.ofNat 32 payload.length) ++ payload))

theorem length_framed_le (hId : (C.snapshotId n).length ≤ Width.w32.maximum)
    (hPayload : payload.length ≤ Width.w32.maximum) : (C.framed n payload).length ≤ Bytes.longest := by
  simp only [framed, List.length_append, length_textBytes, length_wordBytes]
  have hFits : 4 + Width.w32.maximum + (4 + (4 + Width.w32.maximum)) ≤ Bytes.longest := by decide
  omega

/-- A snapshot whose payload can be written is written with its frame around it. -/
theorem writeSnapshot_succeeds (kept : σ → Prop) {out : OutputChannel}
    (hId : (C.snapshotId n).length ≤ Width.w32.maximum)
    (hPayload : (C.writePayload n).Succeeds ({}, state) fun _ last => last.1.data = payload ∧ kept last.2) :
    (C.writeSnapshot n).Succeeds (out, state) fun _ last =>
      last.1 = out.appended (C.framed n payload) ∧ kept last.2 := by
  apply hPayload.withLocal.onSecond.bind
  intro written middle hWritten
  obtain ⟨⟨hData, hKept⟩, rfl⟩ := hWritten
  refine ⟨(), (_, middle.2), Action.onFirst_ok_iff.mpr ⟨?_, rfl⟩, rfl, hKept⟩
  refine Action.then_ok_iff.mpr ⟨_, OutputChannel.write_outcome (stringCodec_trips hId) _, ?_⟩
  refine Action.then_ok_iff.mpr ⟨_, OutputChannel.write_outcome (wordCodec_trips _) _, ?_⟩
  refine Action.then_ok_iff.mpr ⟨_, OutputChannel.write_outcome (wordCodec_trips _) _, ?_⟩
  rw [OutputChannel.writeRaw_outcome, OutputChannel.appended_appended, OutputChannel.appended_appended,
    OutputChannel.appended_appended, OutputChannel.size, hData]
  rfl

/-- A snapshot is read back if an empty snapshot of its type reads the payload, all of it. -/
theorem readSnapshot_succeeds (post : N → σ → Prop) {input : InputChannel} {suffix : Bytes}
    (hInput : input.rest = C.framed n payload ++ suffix) (hLength : input.rest.length ≤ Bytes.longest)
    (hId : (C.snapshotId n).length ≤ Width.w32.maximum) (hPayload : payload.length ≤ Width.w32.maximum)
    (hRead : (C.instantiate registry (C.snapshotId n)).Succeeds state fun made middle =>
      (C.readPayload (BitVec.ofInt 32 (C.snapshotVersion n)).toInt registry).Succeeds
        ((made, InputChannel.ofBytes payload), middle) fun _ last =>
          last.1.2.rest = [] ∧ post last.1.1 last.2) :
    (C.readSnapshot registry).Succeeds (input, state) fun read last =>
      last.1.rest = suffix ∧ post read last.2 := by
  rw [framed, List.append_assoc, List.append_assoc, List.append_assoc] at hInput
  have hLength₁ := Codec.length_le_of_append (hInput ▸ hLength)
  have hLength₂ := Codec.length_le_of_append hLength₁
  apply (InputChannel.read_succeeds (stringCodec_trips hId) hInput hLength).onFirst.bind
  intro id middle hMiddle
  obtain ⟨⟨rfl, hRest₁⟩, hState₁⟩ := hMiddle
  apply (InputChannel.read_succeeds (wordCodec_trips _) hRest₁ (hRest₁ ▸ hLength₁)).onFirst.bind
  intro version middle hMiddle
  obtain ⟨⟨rfl, hRest₂⟩, hState₂⟩ := hMiddle
  apply (InputChannel.read_succeeds (wordCodec_trips _) hRest₂ (hRest₂ ▸ hLength₂)).onFirst.bind
  intro length middle hMiddle
  obtain ⟨⟨rfl, hRest₃⟩, hState₃⟩ := hMiddle
  have hCount : payload.length = (BitVec.ofNat 32 payload.length).toNat := by
    rw [BitVec.toNat_ofNat, Nat.mod_eq_of_lt]
    exact Nat.lt_of_le_of_lt hPayload (by decide)
  apply (InputChannel.readRaw_succeeds hCount hRest₃).onFirst.bind
  intro bytes middle hMiddle
  obtain ⟨⟨rfl, hRest₄⟩, hState₄⟩ := hMiddle
  have hState := hState₄.trans (hState₃.trans (hState₂.trans hState₁))
  obtain ⟨input', state'⟩ := middle
  obtain rfl : state' = state := hState
  refine Action.Succeeds.mono (Action.Succeeds.onSecond ?_) fun read last hLast =>
    ⟨hLast.2 ▸ hRest₄, hLast.1⟩
  refine hRead.bind fun made middle hMade => hMade.withLocal.bind fun read last hLast => ?_
  dsimp only
  rw [if_neg (not_not_intro (InputChannel.available_of_rest hLast.1))]
  exact Action.pure_succeeds hLast.2

end Contract

end SerializerContract
