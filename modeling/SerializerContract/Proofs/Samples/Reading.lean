import SerializerContract.Proofs.Reading.Samples
import SerializerContract.Proofs.Samples.Basic

/-! Failed readings. A channel is moved, and a reuse target assigned, only once a value has been decoded whole; so
a reading that fails leaves both as they were. The exception are texts with a limit: their length is looked at
when they have been read, and by then the channel has moved and the target is lost. -/
namespace SerializerContract

/-! ## Actions that change nothing when they fail -/

namespace Action

variable {σ s α β : Type}

/-- Whenever the action fails, the state is what it was. -/
def AllOrNothing (action : Action σ α) (state : σ) : Prop :=
  ∀ failure last, action.outcome state = (.error failure, last) → last = state

theorem not_fails_of_ok {action : Action σ α} {state last : σ} {a : α}
    (h : action.outcome state = (.ok a, last)) : ¬ action.Fails state :=
  fun hFails => hFails.not_ok a last h

namespace AllOrNothing

variable {state : σ} {part : s}

/-- What the action does not see cannot be changed by it, so all or nothing stays that. -/
theorem onFirst {action : Action s α} (h : action.AllOrNothing part) :
    (Action.onFirst action).AllOrNothing (part, state) := by
  intro failure last hOutcome
  have hResult : (action part).1 = .error failure := congrArg Prod.fst hOutcome
  have hLast : ((action part).2, state) = last := congrArg Prod.snd hOutcome
  rw [← hLast, h failure (action part).2 (Prod.ext hResult rfl)]

theorem onSecond {action : Action σ α} (h : action.AllOrNothing state) :
    (Action.onSecond action).AllOrNothing (part, state) := by
  intro failure last hOutcome
  have hResult : (action state).1 = .error failure := congrArg Prod.fst hOutcome
  have hLast : (part, (action state).2) = last := congrArg Prod.snd hOutcome
  rw [← hLast, h failure (action state).2 (Prod.ext hResult rfl)]

/-- What cannot fail may come afterwards. -/
theorem bind {first : Action σ α} {next : α → Action σ β} (h : first.AllOrNothing state)
    (hNext : ∀ a middle, ¬ (next a).Fails middle) : (first >>= next).AllOrNothing state := by
  intro failure last hOutcome
  rw [outcome_bind] at hOutcome
  cases hFirst : first.outcome state with
  | mk result middle =>
      rw [hFirst] at hOutcome
      cases result with
      | ok a => exact absurd ⟨failure, last, hOutcome⟩ (hNext a middle)
      | error thrown =>
          obtain rfl := (Prod.mk.inj hOutcome).2
          exact h thrown _ hFirst

end AllOrNothing

end Action

/-! ## Codecs -/

namespace Codec

variable {α ε : Type}

/-- A target is replaced by a value that was decoded whole, and kept otherwise; in neither case does it matter
what the target was. -/
def Replaces (codec : Codec α) : Prop :=
  ∀ target bytes, codec.decode target bytes =
    match codec.decode codec.blank bytes with
    | ⟨v, rest, none⟩ => ⟨v, rest, none⟩
    | ⟨_, rest, some stop⟩ => ⟨target, rest, some stop⟩

/-- A number overwrites its target only once all its bytes are there. -/
theorem number_replaces (order : ByteOrder) (n : Nat) : (number order n).Replaces := by
  intro target bytes
  simp only [number]
  cases splitFront n bytes <;> rfl

/-- A contiguous sequence is read whole into its target or not at all. -/
theorem contiguous_replaces (format : Format) (codec : Codec ε) : (contiguous format codec).Replaces := by
  intro target bytes
  simp only [contiguous]
  cases decodeLength format codec.minSize bytes with
  | rejected rest => rfl
  | accepted n rest =>
      by_cases hTooLong : mostElements codec.minSize < n
      · simp only [if_pos hTooLong]
      · simp only [if_neg hTooLong]
        rcases codec.decodeMany n rest with ⟨v, rest', _ | stop⟩ <;> rfl

end Codec

namespace InputChannel

variable {α : Type} {codec : Codec α} {input after : InputChannel}

/-- A read that fails has not advanced the input. -/
theorem read_allOrNothing (codec : Codec α) (input : InputChannel) : (read codec).AllOrNothing input := by
  intro failure last hOutcome
  simp only [Action.outcome, read] at hOutcome
  split at hOutcome
  · exact (Prod.mk.inj hOutcome).2.symm
  · simp at hOutcome

/-- Into a target the same is read as without one, and only if something is read the target is changed. -/
theorem readInto_outcome (h : codec.Replaces) (target : α) (input : InputChannel) :
    (readInto codec).outcome (target, input) =
      match (read codec).outcome input with
      | (.ok v, after) => (.ok (), (v, after))
      | (.error failure, after) => (.error failure, (target, after)) := by
  simp only [Action.outcome, readInto, read, h target input.rest]
  rcases codec.decode codec.blank input.rest with ⟨v, rest, _ | stop⟩ <;> rfl

/-- A read into a target that fails has changed neither the target nor the input. -/
theorem readInto_allOrNothing (h : codec.Replaces) (target : α) (input : InputChannel) :
    (readInto codec).AllOrNothing (target, input) := by
  intro failure last hOutcome
  rw [readInto_outcome h] at hOutcome
  cases hRead : (read codec).outcome input with
  | mk result after =>
      rw [hRead] at hOutcome
      cases result with
      | ok v => nomatch (Prod.mk.inj hOutcome).1
      | error thrown => rw [← (Prod.mk.inj hOutcome).2, read_allOrNothing codec input thrown after hRead]

end InputChannel

/-! ## Operations -/

namespace Operations

variable {σ α : Type}

/-- A reading that fails leaves the channel and the reuse target as they were. -/
structure ReadsAllOrNothing (operations : Operations σ α) (input : InputChannel) : Prop where
  deserialize : ∀ state, operations.deserialize.AllOrNothing (input, state)
  deserializeInto : ∀ reuse state, operations.deserializeInto.AllOrNothing ((reuse, input), state)

/-- The reading fails when the channel has moved behind a value and the value is in the reuse target. -/
structure ReadsAndFails (operations : Operations σ α) (input : InputChannel) (v : α) (after : InputChannel)
    (failure : Failure) : Prop where
  deserialize : ∀ state, operations.deserialize.outcome (input, state) = (.error failure, (after, state))
  deserializeInto : ∀ reuse state,
    operations.deserializeInto.outcome ((reuse, input), state) = (.error failure, ((v, after), state))

/-- Both readings of a codec that replaces its target are all or nothing. -/
theorem ofCodec_readsAllOrNothing {codec : Codec α} (h : codec.Replaces) (initial : α) (length : Int)
    (rawCopy : Action (InputChannel × OutputChannel) Unit) (input : InputChannel) :
    (ofCodec (σ := σ) codec initial length rawCopy).ReadsAllOrNothing input where
  deserialize _ := (InputChannel.read_allOrNothing codec input).onFirst
  deserializeInto reuse _ :=
    (InputChannel.readInto_allOrNothing h reuse input).onFirst.bind fun _ _ => Action.not_fails_of_ok rfl

end Operations

/-! ## Points and circles -/

theorem PointSerializer.operations_readsAllOrNothing {σ : Type} (input : InputChannel) :
    (operations (σ := σ)).ReadsAllOrNothing input := by
  have hRead : read.AllOrNothing input :=
    (InputChannel.read_allOrNothing _ input).bind fun _ _ => Action.not_fails_of_ok rfl
  exact {
    deserialize := fun _ => hRead.onFirst
    deserializeInto := fun _ _ => hRead.onSecond.onFirst.bind fun _ _ => Action.not_fails_of_ok rfl }

theorem CircleSerializer.operations_readsAllOrNothing {σ : Type} (input : InputChannel) :
    (operations (σ := σ)).ReadsAllOrNothing input := by
  have hRead := InputChannel.read_allOrNothing doubleCodec input
  exact {
    deserialize := fun _ => hRead.onFirst.bind fun _ _ => Action.not_fails_of_ok rfl
    deserializeInto := fun _ _ => hRead.onSecond.onFirst.bind fun _ _ => Action.not_fails_of_ok rfl }

/-! ## Texts -/

namespace TextSerializer

variable {σ : Type} {limit : BitVec 32} {input after : InputChannel} {v : Bytes} {failure : Failure}

theorem codec_replaces : stringCodec.Replaces := Codec.contiguous_replaces .network .byte

/-- A text is read as without a limit, and then the limit is checked. -/
theorem readBounded_outcome_eq (limit : BitVec 32) (target : Bytes) (input : InputChannel) (state : σ) :
    (readBounded limit).outcome ((target, input), state) =
      match (InputChannel.read stringCodec).outcome input with
      | (.ok v, after) => (checkLength limit v.length, ((v, after), state))
      | (.error failure, after) => (.error failure, ((target, after), state)) := by
  have hInto := InputChannel.readInto_outcome codec_replaces target input
  have hFirst : (Action.onFirst (InputChannel.readInto stringCodec)).outcome ((target, input), state) =
      match (InputChannel.readInto stringCodec).outcome (target, input) with
      | (result, part) => (result, (part, state)) := rfl
  rw [readBounded, Action.outcome_bind, hFirst, hInto]
  rcases (InputChannel.read stringCodec).outcome input with ⟨_ | v, after⟩ <;> rfl

/-- The bounded read is all or nothing wherever the length check passes on what is read. -/
theorem readBounded_allOrNothing
    (hWithin : ∀ v after, (InputChannel.read stringCodec).outcome input = (.ok v, after) →
      checkLength limit v.length = .ok ()) (target : Bytes) (state : σ) :
    (readBounded limit).AllOrNothing ((target, input), state) := by
  intro failure last hOutcome
  rw [readBounded_outcome_eq] at hOutcome
  cases hText : (InputChannel.read stringCodec).outcome input with
  | mk result after =>
      rw [hText] at hOutcome
      cases result with
      | ok v =>
          have hChecked := hWithin v after hText
          exact nomatch hChecked.symm.trans (Prod.mk.inj hOutcome).1
      | error thrown =>
          obtain rfl := InputChannel.read_allOrNothing stringCodec input thrown after hText
          exact (Prod.mk.inj hOutcome).2.symm

theorem bounded_readsAllOrNothing
    (hWithin : ∀ v after, (InputChannel.read stringCodec).outcome input = (.ok v, after) →
      checkLength limit v.length = .ok ()) :
    (bounded (σ := σ) limit).ReadsAllOrNothing input := by
  constructor
  · intro state failure last hOutcome
    rw [bounded_deserialize_outcome_eq] at hOutcome
    cases hBounded : (readBounded limit).outcome (([], input), state) with
    | mk result last' =>
        rw [hBounded] at hOutcome
        cases result with
        | ok _ => nomatch (Prod.mk.inj hOutcome).1
        | error thrown =>
            obtain rfl := readBounded_allOrNothing hWithin [] state thrown last' hBounded
            exact (Prod.mk.inj hOutcome).2.symm
  · intro reuse state
    exact (readBounded_allOrNothing hWithin reuse state).bind fun _ _ => Action.not_fails_of_ok rfl

/-- A text beyond the limit is consumed, and in the target, before it is refused. -/
theorem bounded_readsAndFails (hRead : (InputChannel.read stringCodec).outcome input = (.ok v, after))
    (hRefused : checkLength limit v.length = .error failure) :
    (bounded (σ := σ) limit).ReadsAndFails input v after failure := by
  have hBounded (target : Bytes) (state : σ) :
      (readBounded limit).outcome ((target, input), state) = (.error failure, ((v, after), state)) := by
    rw [readBounded_outcome_eq, hRead]
    exact congrArg (Prod.mk · ((v, after), state)) hRefused
  constructor
  · intro state
    rw [bounded_deserialize_outcome_eq, hBounded]
    rfl
  · intro reuse state
    have hInto : (bounded (σ := σ) limit).deserializeInto = readBounded limit >>= fun _ => return .target := rfl
    rw [hInto, Action.outcome_bind, hBounded]

/-- A text is behind its length field. -/
theorem position_lt_of_read (hRead : (InputChannel.read stringCodec).outcome input = (.ok v, after)) :
    input.position < after.position := by
  have hReads := Codec.contiguous_reads .network Codec.byte_reads (by decide)
  obtain ⟨front, w, after', hPasses, hLayout, hOutcome⟩ | ⟨failure, hOutcome⟩ :=
    InputChannel.read_cases hReads input
  · obtain rfl : after' = after := (Prod.mk.inj (hOutcome.symm.trans hRead)).2
    have hField : 4 ≤ front.length := hReads.least front w hLayout
    rw [hPasses.position]
    omega
  · nomatch (Prod.mk.inj (hOutcome.symm.trans hRead)).1

end TextSerializer

namespace Sample

variable {f : Family}

/-- The channel is in front of a whole text that the limit refuses. What is given of it is the text, the channel
behind it, and the failure that names its length. -/
def Overlong : {f : Family} → Sample f → InputChannel → f.Value → InputChannel → Failure → Prop
  | _, text (.bounded limit), input, v, after, failure =>
      (InputChannel.read stringCodec).outcome input = (.ok v, after) ∧
        TextSerializer.checkLength limit (List.length (α := UInt8) v) = .error failure
  | _, _, _, _, _, _ => False

/-- A sample serializer reads all or nothing on every input that holds no overlong text. -/
theorem operations_readsAllOrNothing (s : Sample f) (id : Nat) {input : InputChannel}
    (hNone : ∀ v after failure, ¬ s.Overlong input v after failure) :
    (s.operations id).ReadsAllOrNothing input := by
  cases s with
  | number => exact Operations.ofCodec_readsAllOrNothing (Codec.number_replaces .network 4) _ _ _ input
  | text config =>
      cases config with
      | unbounded => exact Operations.ofCodec_readsAllOrNothing TextSerializer.codec_replaces _ _ _ input
      | bounded limit =>
          apply TextSerializer.bounded_readsAllOrNothing
          intro v after hRead
          cases hChecked : TextSerializer.checkLength limit v.length with
          | ok _ => rfl
          | error failure => exact absurd ⟨hRead, hChecked⟩ (hNone v after failure)
  | numbers =>
      have hCodec := Operations.ofCodec_readsAllOrNothing (σ := Store)
        (Codec.contiguous_replaces .network (.number .network 8)) [] variableLength
        (Operations.rawCopyCounted 8 Operations.anyLength) input
      exact ⟨hCodec.deserialize, hCodec.deserializeInto⟩
  | point => exact PointSerializer.operations_readsAllOrNothing input
  | circle => exact CircleSerializer.operations_readsAllOrNothing input

/-- On an overlong text the input has moved although the reading failed. -/
theorem operations_readsAndFails (s : Sample f) (id : Nat) {input after : InputChannel} {v : f.Value}
    {failure : Failure} (h : s.Overlong input v after failure) :
    input.position < after.position ∧ (s.operations id).ReadsAndFails input v after failure := by
  cases s with
  | text config =>
      cases config with
      | unbounded => exact h.elim
      | bounded limit =>
          obtain ⟨hRead, hRefused⟩ := h
          exact ⟨TextSerializer.position_lt_of_read hRead, TextSerializer.bounded_readsAndFails hRead hRefused⟩
  | number | numbers | point | circle => exact h.elim

/-- A reading that fails leaves its source and the reuse target as they were, unless it was of a whole text with
more bytes than the limit. Such a text has been read by then: the source is behind it, and it is in the reuse
target. -/
theorem failed_readings (s : Sample f) {x : f.Serializer} (h : s.Configures x) (input : InputChannel) :
    ((∀ v after failure, ¬ s.Overlong input v after failure) → (f.contract.operations x).ReadsAllOrNothing input) ∧
    ∀ v after failure, s.Overlong input v after failure →
      input.position < after.position ∧ (f.contract.operations x).ReadsAndFails input v after failure := by
  rw [s.operations_eq h]
  constructor
  · exact s.operations_readsAllOrNothing (f.objectId x)
  · intro v after failure hOverlong
    exact s.operations_readsAndFails (f.objectId x) hOverlong

/-- Of a text that is cut off nothing is read. One that is longer than two bytes is read and then refused. -/
theorem failed_readings_short_texts :
    let texts : Sample .text := .text (.bounded 2)
    let serializer : Family.text.Serializer := (⟨0, .bounded 2⟩ : TextSerializer)
    let operations := Family.text.contract.operations serializer
    texts.Configures serializer ∧ operations.ReadsAllOrNothing (.ofBytes [0, 0, 0, 2, 97]) ∧
      operations.ReadsAndFails (.ofBytes [0, 0, 0, 3, 97, 98, 99]) ([97, 98, 99] : Bytes)
        ⟨[0, 0, 0, 3, 97, 98, 99], []⟩ (.serialization "String of length 3 exceeds the limit of 2") := by
  intro texts serializer operations
  have hConfigured : texts.Configures serializer := rfl
  refine ⟨hConfigured, ?_, ?_⟩
  · apply (failed_readings texts hConfigured _).1
    rintro v after failure ⟨hRead, -⟩
    nomatch (Prod.mk.inj hRead).1
  · exact ((failed_readings texts hConfigured _).2 _ _ _ ⟨rfl, rfl⟩).2

/-- A text that is refused is lost from its source, and the value in the reuse target is lost too. -/
theorem refused_text_taken :
    let operations := Family.text.contract.operations (⟨0, .bounded 2⟩ : TextSerializer)
    let source : InputChannel := .ofBytes [0, 0, 0, 3, 97, 98, 99]
    let reuse : Bytes := [120]
    ∃ failure held after, operations.deserializeInto.outcome ((reuse, source), {}) =
        (.error failure, ((held, after), {})) ∧
      held ≠ reuse ∧ after.position ≠ source.position := by
  intro operations source reuse
  have hLost : ([97, 98, 99] : Bytes) ≠ reuse := by decide
  exact ⟨_, _, ⟨[0, 0, 0, 3, 97, 98, 99], []⟩, rfl, hLost, by decide⟩

end Sample

end SerializerContract
