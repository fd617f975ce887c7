import SerializerContract.Proofs.Conformance.Values

/-! The checks of streams. Whatever is written one after the other is read back one after the other: the
bytes of the samples still to come are always exactly what is left in the channel. -/
namespace SerializerContract

namespace World

variable {σ A S N ρ : Type} {t : ValueType} {C : Contract σ A t S N} {W : World σ S N t.Val}
    {suite : Suite C} {state : σ} {x : S}

/-- Bytes of a value are read back, whatever is carried along and whatever is behind them. -/
def ReadsBy (W : World σ S N t.Val) (x : S)
    (reads : t.Val → (ρ × InputChannel) × σ → (ρ × InputChannel) × σ → Prop) : Prop :=
  ∀ state v carried (input : InputChannel) suffix, W.live x state → W.domain v →
    input.rest = W.bytes x v ++ suffix → input.rest.length ≤ W.room →
      ∃ w carried' input' last, reads w ((carried, input), state) ((carried', input'), last) ∧
        W.like v w ∧ input'.rest = suffix ∧ W.Keeps state last

/-- Reading into nothing reads each value from its bytes. -/
theorem Deserializes.readsBy (h : W.Deserializes C) (x : S) :
    W.ReadsBy x (Suite.ReadsNew (C.operations x)) := by
  intro state v carried input suffix hLive hDomain hInput hRoom
  obtain ⟨w, ⟨input', last⟩, hOutcome, hRead⟩ := h x state v input suffix hLive hDomain hInput hRoom
  exact ⟨w, (), input', last, hOutcome, hRead⟩

/-- Reading into the last value reads each value from its bytes. -/
theorem DeserializesInto.readsBy (h : W.DeserializesInto C) (x : S) :
    W.ReadsBy x (Suite.ReadsReusing (C.operations x)) := by
  intro state v target input suffix hLive hDomain hInput hRoom
  obtain ⟨returned, ⟨⟨held, input'⟩, last⟩, hOutcome, hRead⟩ :=
    h x state v target input suffix hLive hDomain hInput hRoom
  exact ⟨_, held, input', last, ⟨returned, hOutcome, rfl⟩, hRead⟩

/-- Reading into new values reads each value from its bytes. -/
theorem Creates.readsBy {accepts : t.Val → Bool} (hCreates : W.Creates C accepts)
    (h : W.DeserializesInto C) (x : S) : W.ReadsBy x (Suite.ReadsFresh (C.operations x)) := by
  intro state v carried input suffix hLive hDomain hInput hRoom
  obtain ⟨target, middle, hCreate, -, -, hMiddle⟩ := hCreates x state hLive
  obtain ⟨w, held, input', last, hRead, hLike, hRest, hLast⟩ :=
    h.readsBy x middle v target input suffix (hMiddle.live x hLive) hDomain hInput hRoom
  exact ⟨w, (), input', last, ⟨target, held, middle, hCreate, hRead⟩, hLike, hRest, hMiddle.trans hLast⟩

/-! ## Streams of samples -/

/-- Steps that every sample allows, and that keep what is known, can be taken one after the other. -/
theorem successive_of_keeps {κ : Type} {step : t.Val → κ → κ → Prop} (stateOf : κ → σ)
    (samples : List t.Val)
    (hStep : ∀ v ∈ samples, ∀ before, W.live x (stateOf before) →
      ∃ after, step v before after ∧ W.Keeps (stateOf before) (stateOf after))
    (before : κ) (hLive : W.live x (stateOf before)) :
    ∃ after, Successive step samples before after ∧ W.Keeps (stateOf before) (stateOf after) := by
  induction samples generalizing before with
  | nil => exact ⟨before, .nil before, Keeps.refl W _⟩
  | cons v rest ih =>
      obtain ⟨middle, hFirst, hMiddle⟩ := hStep v List.mem_cons_self before hLive
      obtain ⟨after, hRest, hAfter⟩ := ih (fun w hw => hStep w (List.mem_cons_of_mem v hw)) middle
        (hMiddle.live x hLive)
      exact ⟨after, .cons hFirst hRest, hMiddle.trans hAfter⟩

/-- Samples are written one after the other as the bytes of each. -/
theorem serializes_stream (hSerializes : W.Serializes C) (samples : List t.Val)
    (hDomain : ∀ v ∈ samples, W.domain v) (hLive : W.live x state) (out : OutputChannel)
    (hRoom : out.size + (W.stream x samples).length ≤ W.room) :
    ∃ last, Successive (Suite.Serializes (C.operations x)) samples (out, state)
      (out.appended (W.stream x samples), last) ∧ W.Keeps state last := by
  induction samples generalizing out state with
  | nil => exact ⟨state, by simpa using Successive.nil _, Keeps.refl W state⟩
  | cons v rest ih =>
      rw [stream_cons, List.length_append] at hRoom
      obtain ⟨_, ⟨_, middle⟩, hOutcome, rfl, hMiddle⟩ :=
        hSerializes x state v out hLive (hDomain v List.mem_cons_self) (by omega)
      obtain ⟨last, hRest, hLast⟩ := ih (fun w hw => hDomain w (List.mem_cons_of_mem v hw))
        (hMiddle.live x hLive) (out.appended (W.bytes x v)) (by
          rw [OutputChannel.size_appended]
          omega)
      rw [OutputChannel.appended_appended] at hRest
      exact ⟨last, .cons hOutcome hRest, hMiddle.trans hLast⟩

/-- The bytes of samples are copied one value at a time, and as they are. -/
theorem rawCopies_stream (hRawCopies : W.RawCopies C) (samples : List t.Val)
    (hDomain : ∀ v ∈ samples, W.domain v) (hLive : W.live x state) (source : InputChannel)
    (target : OutputChannel) (hSource : source.rest = W.stream x samples)
    (hRoom : target.size + (W.stream x samples).length ≤ W.room) :
    ∃ source' last, Successive (Suite.RawCopies (C.operations x)) samples ((source, target), state)
      ((source', target.appended (W.stream x samples)), last) ∧ source'.rest = [] ∧
        W.Keeps state last := by
  induction samples generalizing source target state with
  | nil =>
      exact ⟨source, state, by simpa using Successive.nil _, hSource, Keeps.refl W state⟩
  | cons v rest ih =>
      rw [stream_cons] at hSource hRoom
      rw [List.length_append] at hRoom
      obtain ⟨_, ⟨⟨source', _⟩, middle⟩, hOutcome, hSource', rfl, hMiddle⟩ :=
        hRawCopies x state v source _ target hLive (hDomain v List.mem_cons_self) hSource
          (by rw [hSource, List.length_append]; omega) (by omega)
      obtain ⟨source'', last, hRest, hEnd, hLast⟩ :=
        ih (fun w hw => hDomain w (List.mem_cons_of_mem v hw)) (hMiddle.live x hLive) source'
          (target.appended (W.bytes x v)) hSource' (by
            rw [OutputChannel.size_appended]
            omega)
      rw [OutputChannel.appended_appended] at hRest
      exact ⟨source'', last, .cons hOutcome hRest, hEnd, hMiddle.trans hLast⟩

section Reading

variable {reads : t.Val → (ρ × InputChannel) × σ → (ρ × InputChannel) × σ → Prop}

/-- One value is read back from the front of what is left. -/
theorem readsBack_step (hSupplies : W.Supplies suite) (hWrites : W.WritesSome) (hReads : W.ReadsBy x reads)
    {v : t.Val} (carried : ρ) (input : InputChannel) {suffix : Bytes} (hLive : W.live x state)
    (hDomain : W.domain v) (hInput : input.rest = W.bytes x v ++ suffix)
    (hRoom : input.rest.length ≤ W.room) :
    ∃ carried' input' last, suite.ReadsBack reads v ((carried, input), state)
      ((carried', input'), last) ∧ input'.rest = suffix ∧ W.Keeps state last := by
  obtain ⟨w, carried', input', last, hRead, hLike, hRest, hLast⟩ :=
    hReads state v carried input suffix hLive hDomain hInput hRoom
  have hAvailable : input.available ≠ 0 := by
    have hPositive := List.length_pos_iff.mpr (hWrites x state v hLive hDomain)
    rw [InputChannel.available, hInput, List.length_append]
    omega
  exact ⟨carried', input', last, ⟨hAvailable, w, hRead, hSupplies.compares v w hDomain hLike⟩, hRest,
    hLast⟩

/-- Whatever way of reading is used, the stream of some samples is read back as equal values to its end. -/
theorem readsBack_stream (hSupplies : W.Supplies suite) (hWrites : W.WritesSome)
    (hReads : W.ReadsBy x reads) (samples : List t.Val) (hDomain : ∀ v ∈ samples, W.domain v)
    (hLive : W.live x state) (carried : ρ) (input : InputChannel)
    (hInput : input.rest = W.stream x samples) (hRoom : input.rest.length ≤ W.room) :
    ∃ carried' input' last, Successive (suite.ReadsBack reads) samples ((carried, input), state)
      ((carried', input'), last) ∧ input'.rest = [] ∧ W.Keeps state last := by
  induction samples generalizing carried input state with
  | nil => exact ⟨carried, input, state, .nil _, hInput, Keeps.refl W state⟩
  | cons v rest ih =>
      rw [stream_cons] at hInput
      obtain ⟨carried', input', middle, hStep, hRest, hMiddle⟩ := readsBack_step hSupplies hWrites hReads
        carried input hLive (hDomain v List.mem_cons_self) hInput hRoom
      obtain ⟨carried'', input'', last, hOthers, hEnd, hLast⟩ :=
        ih (fun w hw => hDomain w (List.mem_cons_of_mem v hw)) (hMiddle.live x hLive) carried' input' hRest
          (by rw [hInput, List.length_append] at hRoom; rw [hRest]; omega)
      exact ⟨carried'', input'', last, .cons hStep hOthers, hEnd, hMiddle.trans hLast⟩

/-- All samples of the fixture are read back from their stream. -/
theorem readsBackAll_stream (hSupplies : W.Supplies suite) (hWrites : W.WritesSome)
    (hReads : W.ReadsBy x reads) (hLive : W.live x state) (carried : ρ) :
    ∃ last, suite.ReadsBackAll reads carried
      (OutputChannel.appended {} (W.stream x suite.fixture.samples)).inputView state last ∧
        W.Keeps state last := by
  obtain ⟨carried', input', last, hStream, hEnd, hLast⟩ := readsBack_stream hSupplies hWrites hReads _
    hSupplies.samples hLive carried (.ofBytes (W.stream x suite.fixture.samples)) rfl
    (Nat.le_of_lt (hSupplies.room x state hLive))
  exact ⟨last, ⟨carried', input', hStream, InputChannel.available_of_rest hEnd⟩, hLast⟩

/-- A sample is serialized into a channel of its own and read back. -/
theorem readsBackAlone_step (hSupplies : W.Supplies suite) (hSerializes : W.Serializes C)
    (hWrites : W.WritesSome) (hReads : W.ReadsBy x reads) {v : t.Val}
    (hSample : v ∈ suite.fixture.samples) (before : ρ × σ) (hLive : W.live x before.2) :
    ∃ after, suite.ReadsBackAlone (C.operations x) reads v before after ∧ W.Keeps before.2 after.2 := by
  obtain ⟨carried, state⟩ := before
  have hDomain := hSupplies.samples v hSample
  have hRoom := Nat.le_of_lt (hSupplies.room_sample hLive hSample)
  obtain ⟨_, ⟨_, written⟩, hOutcome, rfl, hWritten⟩ :=
    hSerializes x state v {} hLive hDomain (by rwa [OutputChannel.size_empty, Nat.zero_add])
  obtain ⟨carried', input', last, hStep, hEnd, hLast⟩ := readsBack_step hSupplies hWrites hReads carried
    (.ofBytes (W.bytes x v)) (hWritten.live x hLive) hDomain (List.append_nil _).symm hRoom
  exact ⟨(carried', last),
    ⟨_, input', written, hOutcome, hStep, InputChannel.available_of_rest hEnd⟩, hWritten.trans hLast⟩

end Reading

/-- A sample is serialized, copied whole, and the copy is read back. -/
theorem copiesBackAlone_step (hSupplies : W.Supplies suite) (hSerializes : W.Serializes C)
    (hWrites : W.WritesSome) (hRawCopies : W.RawCopies C)
    (hReads : W.ReadsBy x (Suite.ReadsFresh (C.operations x))) {v : t.Val}
    (hSample : v ∈ suite.fixture.samples) (hLive : W.live x state) :
    ∃ last, suite.CopiesBackAlone (C.operations x) v state last ∧ W.Keeps state last := by
  have hDomain := hSupplies.samples v hSample
  have hRoom := Nat.le_of_lt (hSupplies.room_sample hLive hSample)
  have hEmpty : OutputChannel.size {} + (W.bytes x v).length ≤ W.room := by
    rwa [OutputChannel.size_empty, Nat.zero_add]
  obtain ⟨_, ⟨_, written⟩, hOutcome, rfl, hWritten⟩ := hSerializes x state v {} hLive hDomain hEmpty
  have hLive' := hWritten.live x hLive
  obtain ⟨_, ⟨⟨source, _⟩, copied⟩, hCopy, hSource, rfl, hCopied⟩ := hRawCopies x written v
    (.ofBytes (W.bytes x v)) [] {} hLive' hDomain (List.append_nil _).symm hRoom
    hEmpty
  obtain ⟨_, input, last, hStep, hEnd, hLast⟩ := readsBack_step hSupplies hWrites hReads ()
    (.ofBytes (W.bytes x v)) (hCopied.live x hLive') hDomain (List.append_nil _).symm hRoom
  exact ⟨last, ⟨_, written, source, _, copied, input, hOutcome, hCopy,
    InputChannel.available_of_rest hSource, hStep, InputChannel.available_of_rest hEnd⟩,
    (hWritten.trans hCopied).trans hLast⟩

/-! ## The checks -/

section Checks

variable {accepts : t.Val → Bool} (hSupplies : W.Supplies suite) (hValid : W.valid state)
    (hSerializes : W.Serializes C) (hWrites : W.WritesSome)

include hSupplies hValid hSerializes hWrites

/-- Every sample that is written on its own is read back into a new value. -/
theorem checkIndividually_passes (hCreates : W.Creates C accepts) (hDeserializes : W.DeserializesInto C) :
    suite.checkIndividually.Succeeds state fun _ last => W.Keeps state last := by
  obtain ⟨_, served, hServed, x, rfl, hLive, hKeeps⟩ := hSupplies.creates state hValid
  obtain ⟨after, hRun, hAfter⟩ := successive_of_keeps Prod.snd suite.fixture.samples
    (fun v hSample => readsBackAlone_step hSupplies hSerializes hWrites
      (hCreates.readsBy hDeserializes x) hSample) ((), served) hLive
  exact ⟨(), after.2, Suite.checkIndividually_ok_iff.mpr ⟨x, served, hServed, hRun⟩, hKeeps.trans hAfter⟩

/-- Every sample that is written on its own is read back into the last one. -/
theorem checkIndividuallyReusing_passes (hCreates : W.Creates C accepts)
    (hDeserializes : W.DeserializesInto C) :
    suite.checkIndividuallyReusing.Succeeds state fun _ last => W.Keeps state last := by
  obtain ⟨_, served, hServed, x, rfl, hLive, hKeeps⟩ := hSupplies.creates state hValid
  obtain ⟨target, created, hCreate, -, -, hCreated⟩ := hCreates x served hLive
  obtain ⟨after, hRun, hAfter⟩ := successive_of_keeps Prod.snd suite.fixture.samples
    (fun v hSample => readsBackAlone_step hSupplies hSerializes hWrites (hDeserializes.readsBy x) hSample)
    (target, created) (hCreated.live x hLive)
  exact ⟨(), after.2, Suite.checkIndividuallyReusing_ok_iff.mpr
    ⟨x, served, hServed, target, created, hCreate, after.1, hRun⟩, hKeeps.trans (hCreated.trans hAfter)⟩

/-- Samples that are written one after the other are read back in their order. -/
theorem checkSequence_passes (hDeserializes : W.Deserializes C) :
    suite.checkSequence.Succeeds state fun _ last => W.Keeps state last := by
  obtain ⟨_, served, hServed, x, rfl, hLive, hKeeps⟩ := hSupplies.creates state hValid
  obtain ⟨written, hWritten, hMiddle⟩ := serializes_stream hSerializes _ hSupplies.samples hLive {}
    (by simpa using Nat.le_of_lt (hSupplies.room x served hLive))
  obtain ⟨last, hRun, hLast⟩ := readsBackAll_stream hSupplies hWrites (hDeserializes.readsBy x)
    (hMiddle.live x hLive) ()
  exact ⟨(), last, Suite.checkSequence_ok_iff.mpr ⟨x, served, hServed, _, written, hWritten, hRun⟩,
    hKeeps.trans (hMiddle.trans hLast)⟩

/-- Samples that are written one after the other are read back into one value. -/
theorem checkSequenceReusing_passes (hCreates : W.Creates C accepts)
    (hDeserializes : W.DeserializesInto C) :
    suite.checkSequenceReusing.Succeeds state fun _ last => W.Keeps state last := by
  obtain ⟨_, served, hServed, x, rfl, hLive, hKeeps⟩ := hSupplies.creates state hValid
  obtain ⟨written, hWritten, hMiddle⟩ := serializes_stream hSerializes _ hSupplies.samples hLive {}
    (by simpa using Nat.le_of_lt (hSupplies.room x served hLive))
  obtain ⟨target, created, hCreate, -, -, hCreated⟩ := hCreates x written (hMiddle.live x hLive)
  obtain ⟨last, hRun, hLast⟩ := readsBackAll_stream hSupplies hWrites (hDeserializes.readsBy x)
    ((hMiddle.trans hCreated).live x hLive) target
  exact ⟨(), last, Suite.checkSequenceReusing_ok_iff.mpr
    ⟨x, served, hServed, _, written, hWritten, target, created, hCreate, hRun⟩,
    hKeeps.trans ((hMiddle.trans hCreated).trans hLast)⟩

/-- Every sample that is copied raw is read back from its copy. -/
theorem checkRawCopy_passes (hCreates : W.Creates C accepts) (hDeserializes : W.DeserializesInto C)
    (hRawCopies : W.RawCopies C) :
    suite.checkRawCopy.Succeeds state fun _ last => W.Keeps state last := by
  obtain ⟨_, served, hServed, x, rfl, hLive, hKeeps⟩ := hSupplies.creates state hValid
  obtain ⟨last, hRun, hLast⟩ := successive_of_keeps id suite.fixture.samples
    (fun v hSample served hLive => copiesBackAlone_step hSupplies hSerializes hWrites hRawCopies
      (hCreates.readsBy hDeserializes x) hSample hLive) served hLive
  exact ⟨(), last, Suite.checkRawCopy_ok_iff.mpr ⟨x, served, hServed, hRun⟩, hKeeps.trans hLast⟩

/-- Samples that are copied raw one after the other are read back from the copies. -/
theorem checkRawCopySequence_passes (hCreates : W.Creates C accepts)
    (hDeserializes : W.DeserializesInto C) (hRawCopies : W.RawCopies C) :
    suite.checkRawCopySequence.Succeeds state fun _ last => W.Keeps state last := by
  obtain ⟨_, served, hServed, x, rfl, hLive, hKeeps⟩ := hSupplies.creates state hValid
  have hRoom : OutputChannel.size {} + (W.stream x suite.fixture.samples).length ≤ W.room := by
    simpa using Nat.le_of_lt (hSupplies.room x served hLive)
  obtain ⟨written, hWritten, hMiddle⟩ :=
    serializes_stream hSerializes _ hSupplies.samples hLive {} hRoom
  obtain ⟨source, copied, hCopy, hSource, hCopied⟩ := rawCopies_stream hRawCopies _ hSupplies.samples
    (hMiddle.live x hLive) (.ofBytes (W.stream x suite.fixture.samples)) {} rfl hRoom
  obtain ⟨last, hRun, hLast⟩ := readsBackAll_stream hSupplies hWrites (hCreates.readsBy hDeserializes x)
    ((hMiddle.trans hCopied).live x hLive) ()
  exact ⟨(), last, Suite.checkRawCopySequence_ok_iff.mpr ⟨x, served, hServed, _, written, hWritten, source,
    _, copied, hCopy, InputChannel.available_of_rest hSource, hRun⟩,
    hKeeps.trans ((hMiddle.trans hCopied).trans hLast)⟩

end Checks

end World

end SerializerContract
