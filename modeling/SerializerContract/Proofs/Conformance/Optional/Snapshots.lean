import SerializerContract.Proofs.Conformance.Optional.Values

/-! The snapshots of wrappers. A snapshot nests the whole snapshot of what is wrapped, so it is written and read
back if the one inside is. -/
namespace SerializerContract

variable {A S N : Type} {t : ValueType}

namespace World

variable {W : World Store S N t.Val} {C : Contract Store A t S N} {padding : Nat}
    {ofAny : A → Option (WrapperSnapshot N)} {registry : Registry Store A} {snapshotBytes : Bytes}

/-- The payload of the snapshot of a wrapper: its padding, and the snapshot of what it wraps. -/
def nestedPayload (padding : Nat) (snapshotBytes : Bytes) : Bytes :=
  wordBytes (BitVec.ofInt 32 padding) ++ snapshotBytes

theorem length_nestedPayload (padding : Nat) (snapshotBytes : Bytes) :
    (nestedPayload padding snapshotBytes).length = 4 + snapshotBytes.length := by
  rw [nestedPayload, List.length_append, length_wordBytes]

/-- The bytes of the snapshot of a wrapper. -/
def nestedBytes (C : Contract Store A t S N) (ofAny : A → Option (WrapperSnapshot N)) (padding : Nat)
    (snapshotBytes : Bytes) : Bytes :=
  (Wrapper.contract C ofAny).framed {} (nestedPayload padding snapshotBytes)

theorem length_nestedBytes : (nestedBytes C ofAny padding snapshotBytes).length =
    ((Wrapper.contract C ofAny).snapshotId {}).length + 16 + snapshotBytes.length := by
  simp only [nestedBytes, Contract.framed, List.length_append, length_textBytes, length_wordBytes,
    length_nestedPayload]
  omega

theorem writePayload_succeeds (padding : Nat) {m : N} {x : S} {store : Store}
    (hWrites : W.WritesSnapshots C snapshotBytes)
    (hDescribes : W.describes m x store) :
    (WrapperSnapshot.writePayload C ⟨some m, padding⟩).Succeeds ({}, store) fun _ last =>
      last.1.data = nestedPayload padding snapshotBytes ∧ W.Keeps store last.2 := by
  apply (OutputChannel.write_succeeds (wordCodec_trips (BitVec.ofInt 32 padding)) {}).onFirst.bind
  intro _ middle hWritten
  obtain ⟨out, store'⟩ := middle
  obtain ⟨rfl, rfl⟩ := hWritten
  apply (hWrites m x store' _ hDescribes).mono
  intro _ last hWritten
  obtain ⟨hOut, hKeeps⟩ := hWritten
  rw [OutputChannel.appended_appended] at hOut
  exact ⟨congrArg OutputChannel.data hOut, hKeeps⟩

theorem readPayload_succeeds {m : N} {x : S} {store : Store} (made : WrapperSnapshot N)
    (hReads : W.ReadsSnapshots C registry snapshotBytes) (hDescribes : W.describes m x store)
    (hPadding : padding ≤ 0x7fffffff)
    (hBytes : (nestedPayload padding snapshotBytes).length ≤ Width.w32.maximum) :
    (WrapperSnapshot.readPayload C registry).Succeeds
      ((made, InputChannel.ofBytes (nestedPayload padding snapshotBytes)), store) fun _ last =>
        last.1.2.rest = [] ∧ (∃ read, last.1.1 = ⟨some read, padding⟩ ∧ W.describes read x last.2) ∧
          W.Keeps store last.2 := by
  have hLongest : (nestedPayload padding snapshotBytes).length ≤ Bytes.longest :=
    Nat.le_trans hBytes (by decide)
  have hInput : (InputChannel.ofBytes (nestedPayload padding snapshotBytes)).rest =
      wordBytes (BitVec.ofInt 32 padding) ++ (snapshotBytes ++ []) := by
    rw [List.append_nil]
    rfl
  obtain ⟨word, input, hWord, rfl, hRest⟩ :=
    InputChannel.read_succeeds (wordCodec_trips (BitVec.ofInt 32 padding)) hInput hLongest
  have hShorter : input.rest.length ≤ Bytes.longest := by
    rw [hRest, List.append_nil]
    rw [length_nestedPayload] at hLongest
    omega
  obtain ⟨read, ⟨input', last⟩, hRead, hEnd, hDescribes, hKeeps⟩ :=
    hReads m x store input [] hDescribes hRest hShorter
  refine ⟨(), ((⟨some read, padding⟩, input'), last), ?_, hEnd, ⟨read, rfl, hDescribes⟩, hKeeps⟩
  simp only [Action.outcome, WrapperSnapshot.readPayload] at hWord hRead ⊢
  rw [hWord]
  have hRange : -2 ^ 31 ≤ (padding : Int) ∧ (padding : Int) < 2 ^ 31 := by omega
  have hSame := BitVec.toInt_ofInt_eq_self (by decide : 0 < 32) hRange.1 hRange.2
  simp only [hRead, hSame]

theorem optional_snapshots (h : W.Snapshots C) : (W.optional padding).Snapshots (Wrapper.contract C ofAny) := by
  intro x store hLive
  change (do
    return some ⟨← C.snapshot x.config.inner, x.config.padding⟩ :
      Action Store (Option (WrapperSnapshot N))).Succeeds store _
  rw [hLive.2.1]
  apply (h x.config.inner store hLive.1).bind
  intro _ last hTaken
  obtain ⟨m, rfl, hDescribes, hKeeps⟩ := hTaken
  exact Action.pure_succeeds ⟨_, rfl, ⟨m, rfl, hDescribes⟩, hKeeps.optional⟩

theorem optional_writesSnapshots (padding : Nat) (hWrites : W.WritesSnapshots C snapshotBytes)
    (hId : ((Wrapper.contract C ofAny).snapshotId {}).length ≤ Width.w32.maximum) :
    (W.optional padding).WritesSnapshots (Wrapper.contract C ofAny)
      (nestedBytes C ofAny padding snapshotBytes) := by
  intro n x store out hDescribes
  obtain ⟨m, rfl, hDescribes⟩ := hDescribes
  have hPayload := writePayload_succeeds padding hWrites hDescribes
  apply ((Wrapper.contract C ofAny).writeSnapshot_succeeds (n := ⟨some m, padding⟩) (W.Keeps store) hId
    hPayload).mono
  intro _ last hWritten
  exact ⟨hWritten.1, hWritten.2.optional⟩

theorem optional_readsSnapshots (hReads : W.ReadsSnapshots C registry snapshotBytes)
    (hKeeps : ∀ before after, before.Grows after → W.Keeps before after)
    (hPadding : padding ≤ 0x7fffffff)
    (hId : ((Wrapper.contract C ofAny).snapshotId {}).length ≤ Width.w32.maximum)
    (hBytes : (nestedPayload padding snapshotBytes).length ≤ Width.w32.maximum)
    (hRegistered : (Wrapper.contract C ofAny).Registered registry
      ((Wrapper.contract C ofAny).snapshotId {}) fun _ => True) :
    (W.optional padding).ReadsSnapshots (Wrapper.contract C ofAny) registry
      (nestedBytes C ofAny padding snapshotBytes) := by
  intro n x store input suffix hDescribes hInput hRoom
  obtain ⟨m, -, hDescribes⟩ := hDescribes
  have hPayload : ((Wrapper.contract C ofAny).instantiate registry
      ((Wrapper.contract C ofAny).snapshotId {})).Succeeds store fun made middle =>
        (WrapperSnapshot.readPayload C registry).Succeeds
          ((made, InputChannel.ofBytes (nestedPayload padding snapshotBytes)), middle) fun _ last =>
            last.1.2.rest = [] ∧ (W.optional padding).describes last.1.1 x last.2 ∧ W.Keeps store last.2 := by
    apply (hRegistered store).mono
    intro made middle hMade
    have hMiddle := hKeeps store middle hMade.2
    apply (readPayload_succeeds made hReads (hMiddle.describes m _ hDescribes) hPadding hBytes).mono
    intro _ last hRead
    exact ⟨hRead.1, hRead.2.1, hMiddle.trans hRead.2.2⟩
  apply ((Wrapper.contract C ofAny).readSnapshot_succeeds
    (fun read last => (W.optional padding).describes read x last ∧ W.Keeps store last) hInput hRoom hId hBytes
    hPayload).mono
  intro read last hLast
  exact ⟨hLast.1, hLast.2.1, hLast.2.2.optional⟩

end World

end SerializerContract
