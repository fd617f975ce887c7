import SerializerContract.Proofs.Conformance.World

/-! Optional values over a conforming serializer. A flag byte and the bytes of the value, or padding, are
what is written, read back and copied, in front of anything else. -/
namespace SerializerContract

namespace Nullable

variable {σ α : Type} {inner : Operations σ α} {padding : Nat} {input : InputChannel} {state : σ}
    {suffix : Bytes}

/-- The byte that says whether a value is null. -/
def flagByte (isNull : Bool) : UInt8 := if isNull then 1 else 0

/-- The flag is written as one byte. -/
theorem writeFlag_outcome (isNull : Bool) (out : OutputChannel) :
    (writeFlag isNull).outcome out = (.ok (), out.appended [flagByte isNull]) := by
  cases isNull <;> rfl

theorem appended_of_writeFlag {isNull : Bool} {out last : OutputChannel} {later : σ}
    (h : (Action.onFirst (writeFlag isNull)).outcome (out, state) = (.ok (), (last, later))) :
    last = out.appended [flagByte isNull] ∧ state = later := by
  obtain ⟨hFlag, hSame⟩ := Action.onFirst_ok_iff.mp h
  rw [writeFlag_outcome] at hFlag
  exact ⟨(Prod.mk.inj hFlag).2.symm, hSame⟩

theorem readFlag_outcome {isNull : Bool} (h : input.rest = flagByte isNull :: suffix) :
    readFlag.outcome input = (.ok isNull, input.advanceTo suffix) := by
  have hRead : (InputChannel.read boolCodec).outcome input =
      (.ok (if isNull then 1 else 0), input.advanceTo suffix) := by
    simp only [Action.outcome, InputChannel.read, boolCodec, Codec.number, h,
      show flagByte isNull :: suffix = [flagByte isNull] ++ suffix from rfl,
      Codec.splitFront_append (List.length_singleton : [flagByte isNull].length = 1)]
    cases isNull <;> rfl
  rw [readFlag, Action.outcome_bind, hRead]
  cases isNull <;> rfl

/-- The flag is read from its byte. -/
theorem readFlag_succeeds {isNull : Bool} (h : input.rest = flagByte isNull :: suffix) :
    readFlag.Succeeds input fun read last => read = isNull ∧ last.rest = suffix :=
  ⟨isNull, input.advanceTo suffix, readFlag_outcome h, rfl, rfl⟩

/-! ## Reuse targets -/

/-- The wrapped operation works on the value inside, and whatever it leaves there is put back. -/
theorem withInner_outcome {β ρ : Type} (old : α) (action : Action ((α × ρ) × σ) β) (reuse : Option α) (part : ρ)
    (state : σ) : (withInner old action).outcome ((reuse, part), state) =
      ((action.outcome ((old, part), state)).1,
        ((some (action.outcome ((old, part), state)).2.1.1, (action.outcome ((old, part), state)).2.1.2),
          (action.outcome ((old, part), state)).2.2)) := rfl

/-- The value in the reuse target is lent to the wrapped serializer, and is what is held afterwards. -/
theorem copyInto_lent_outcome {v old held : α} {result : Except Failure (Returned α)} {last : σ}
    (hInner : (inner.copyInto v).outcome (old, state) = (result, (held, last))) :
    (copyInto inner (some v)).outcome (some old, state) = (result.map fun _ => .target, (some held, last)) := by
  simp only [Action.outcome, copyInto] at hInner ⊢
  rw [hInner]

/-- Where there is no value inside yet, a copy is made and put there. -/
theorem copyInto_new_outcome {v copied : α} {last : σ}
    (hInner : (inner.copy v).outcome state = (.ok copied, last)) :
    (copyInto inner (some v)).outcome (none, state) = (.ok .target, (some copied, last)) := by
  simp only [Action.outcome, copyInto] at hInner ⊢
  rw [hInner]

theorem copyInto_new_throws_outcome {v : α} {failure : Failure} {last : σ}
    (hInner : (inner.copy v).outcome state = (.error failure, last)) :
    (copyInto inner (some v)).outcome (none, state) = (.error failure, (none, last)) := by
  simp only [Action.outcome, copyInto] at hInner ⊢
  rw [hInner]

theorem readFlag_into_outcome {isNull : Bool} (h : input.rest = flagByte isNull :: suffix) (reuse : Option α) :
    (Action.onFirst (s := Option α × InputChannel) (σ := σ) (Action.onSecond readFlag)).outcome
      ((reuse, input), state) = (.ok isNull, ((reuse, input.advanceTo suffix), state)) :=
  Action.onFirst_ok_iff.mpr ⟨Action.onSecond_ok_iff.mpr ⟨readFlag_outcome h, rfl⟩, rfl⟩

/-- The value in the reuse target is lent to the wrapped serializer, and is what is held afterwards. -/
theorem deserializeInto_lent_outcome {old held : α} {returned : Returned α} {input' : InputChannel} {last : σ}
    (hInput : input.rest = flagByte false :: suffix)
    (hInner : inner.deserializeInto.outcome ((old, input.advanceTo suffix), state) =
      (.ok returned, ((held, input'), last))) :
    (deserializeInto inner padding).outcome ((some old, input), state) =
      (.ok .target, ((some held, input'), last)) := by
  have hLent : (withInner old inner.deserializeInto).outcome ((some old, input.advanceTo suffix), state) =
      (.ok returned, ((some held, input'), last)) := by
    rw [withInner_outcome, hInner]
  rw [deserializeInto, Action.outcome_bind, readFlag_into_outcome hInput]
  simp only [Bool.false_eq_true, if_false]
  refine Action.bind_ok_iff.mpr ⟨_, _, rfl, ?_⟩
  exact Action.bind_ok_iff.mpr ⟨_, _, hLent, rfl⟩

/-- A reuse target that holds null is given a new value. -/
theorem deserializeInto_new_outcome {v : α} {input' : InputChannel} {last : σ}
    (hInput : input.rest = flagByte false :: suffix)
    (hInner : inner.deserialize.outcome (input.advanceTo suffix, state) = (.ok v, (input', last))) :
    (deserializeInto inner padding).outcome ((none, input), state) =
      (.ok .target, ((some v, input'), last)) := by
  have hNew : (Action.zoom (fun x : (Option α × InputChannel) × σ => (x.1.2, x.2))
      (fun x y => ((y.1.1, x.1), x.2)) inner.deserialize).outcome ((none, input.advanceTo suffix), state) =
      (.ok v, ((none, input'), last)) := by
    rw [Action.zoom_outcome, hInner]
  rw [deserializeInto, Action.outcome_bind, readFlag_into_outcome hInput]
  simp only [Bool.false_eq_true, if_false]
  refine Action.bind_ok_iff.mpr ⟨_, _, rfl, ?_⟩
  exact Action.bind_ok_iff.mpr ⟨_, _, hNew, rfl⟩

end Nullable

namespace World

variable {σ A S N : Type} {t : ValueType} {C : Contract σ A t S N} {W : World σ S N t.Val}
    {state : σ} {x : S} {v : t.Val}

/-! ## Null -/

/-- What a wrapper writes for null. -/
def nullBytes (padding : Nat) : Bytes := Nullable.flagByte true :: Bytes.zeros padding

theorem length_nullBytes (padding : Nat) : (nullBytes padding).length = 1 + padding := by
  rw [nullBytes, List.length_cons, Bytes.zeros, List.length_replicate, Nat.add_comm]

/-- Null is written as a flag and the padding. -/
theorem serialize_none_succeeds (inner : Operations σ t.Val) {padding : Nat} {out : OutputChannel}
    (hRoom : out.size + (nullBytes padding).length ≤ OutputChannel.capacity)
    (hMemory : padding ≤ Bytes.mostMemory) :
    (Nullable.serialize inner padding none).Succeeds (out, state) fun _ last =>
      last.1 = out.appended (nullBytes padding) ∧ last.2 = state := by
  rw [length_nullBytes] at hRoom
  have hFlag := Action.onFirst_ok_iff.mpr
    ⟨Nullable.writeFlag_outcome true out, (rfl : state = state)⟩
  have hSkip := OutputChannel.skip_outcome (out.appended [Nullable.flagByte true])
    (by rw [OutputChannel.size_appended, List.length_singleton]; omega) hMemory
  refine ⟨(), _, Action.then_ok_iff.mpr ⟨_, hFlag, Action.onFirst_ok_iff.mpr ⟨hSkip, rfl⟩⟩, ?_, rfl⟩
  rw [OutputChannel.appended_appended]
  rfl

/-- Null is read from a flag and the padding. -/
theorem deserialize_none_succeeds (inner : Operations σ t.Val) {padding : Nat}
    {input : InputChannel} {suffix : Bytes}
    (hInput : input.rest = nullBytes padding ++ suffix) :
    (Nullable.deserialize inner padding).Succeeds (input, state) fun w last =>
      w = none ∧ last.1.rest = suffix ∧ last.2 = state := by
  apply (Nullable.readFlag_succeeds hInput).onFirst.bind
  intro isNull middle hRead
  obtain ⟨input', state⟩ := middle
  obtain ⟨⟨rfl, hRest⟩, rfl⟩ := hRead
  apply (InputChannel.skip_succeeds List.length_replicate hRest).onFirst.bind
  intro _ last hSkipped
  exact Action.pure_succeeds ⟨rfl, hSkipped⟩

/-- Null is read into any target. -/
theorem deserializeInto_none_succeeds (inner : Operations σ t.Val) {padding : Nat}
    {input : InputChannel} {suffix : Bytes}
    (hInput : input.rest = nullBytes padding ++ suffix) (reuse : Option t.Val) :
    (Nullable.deserializeInto inner padding).Succeeds ((reuse, input), state) fun returned last =>
      returned = .target ∧ last.1.1 = none ∧ last.1.2.rest = suffix ∧ last.2 = state := by
  have hZeros : (input.advanceTo (Bytes.zeros padding ++ suffix)).rest = Bytes.zeros padding ++ suffix := rfl
  obtain ⟨_, input', hSkip, hRest⟩ := InputChannel.skip_succeeds List.length_replicate hZeros
  refine ⟨.target, ((none, input'), state), ?_, rfl, rfl, hRest, rfl⟩
  rw [Nullable.deserializeInto, Action.outcome_bind, Nullable.readFlag_into_outcome hInput]
  simp only [if_true]
  refine Action.then_ok_iff.mpr ⟨((reuse, input'), state), ?_, rfl⟩
  exact Action.onFirst_ok_iff.mpr ⟨Action.onSecond_ok_iff.mpr ⟨hSkip, rfl⟩, rfl⟩

/-! ## Values -/

/-- What a wrapper writes for a value. -/
def valueBytes (W : World σ S N t.Val) (x : S) (v : t.Val) : Bytes :=
  Nullable.flagByte false :: W.bytes x v

theorem length_valueBytes (W : World σ S N t.Val) (x : S) (v : t.Val) :
    (W.valueBytes x v).length = 1 + (W.bytes x v).length := by
  rw [valueBytes, List.length_cons, Nat.add_comm]

/-- A value is written as a flag and what the wrapped serializer writes. -/
theorem serialize_some_succeeds (padding : Nat) (hSerializes : W.Serializes C) (hLive : W.live x state)
    (hDomain : W.domain v) {out : OutputChannel}
    (hRoom : out.size + (W.valueBytes x v).length ≤ W.room) :
    (Nullable.serialize (C.operations x) padding (some v)).Succeeds (out, state) fun _ last =>
      last.1 = out.appended (W.valueBytes x v) ∧ W.Keeps state last.2 := by
  rw [length_valueBytes] at hRoom
  have hFlag := Action.onFirst_ok_iff.mpr
    ⟨Nullable.writeFlag_outcome false out, (rfl : state = state)⟩
  obtain ⟨_, last, hOutcome, hWritten, hKeeps⟩ := hSerializes x state v
    (out.appended [Nullable.flagByte false]) hLive hDomain
    (by rw [OutputChannel.size_appended, List.length_singleton]; omega)
  refine ⟨(), last, Action.then_ok_iff.mpr ⟨_, hFlag, hOutcome⟩, ?_, hKeeps⟩
  rw [hWritten, OutputChannel.appended_appended]
  rfl

/-- A value is read from a flag and what the wrapped serializer reads. -/
theorem deserialize_some_succeeds (padding : Nat) (hDeserializes : W.Deserializes C) (hLive : W.live x state)
    (hDomain : W.domain v) {input : InputChannel} {suffix : Bytes}
    (hInput : input.rest = W.valueBytes x v ++ suffix) (hRoom : input.rest.length ≤ W.room) :
    (Nullable.deserialize (C.operations x) padding).Succeeds (input, state) fun w last =>
      ∃ u, w = some u ∧ W.like v u ∧ last.1.rest = suffix ∧ W.Keeps state last.2 := by
  apply (Nullable.readFlag_succeeds hInput).onFirst.bind
  intro isNull middle hRead
  obtain ⟨input', state⟩ := middle
  obtain ⟨⟨rfl, hRest⟩, rfl⟩ := hRead
  have hRest : input'.rest = W.bytes x v ++ suffix := hRest
  have hShorter : input'.rest.length ≤ W.room := by
    rw [hInput, List.length_append, length_valueBytes] at hRoom
    rw [hRest, List.length_append]
    omega
  apply (hDeserializes x state v input' suffix hLive hDomain hRest hShorter).bind
  intro u last hRead
  exact Action.pure_succeeds ⟨u, rfl, hRead⟩

/-- A copy of a value in any reuse target, also in one that holds null. -/
theorem copyInto_some_succeeds (hCopies : W.Copies C) (hCopiesInto : W.CopiesInto C)
    (hLive : W.live x state) (hDomain : W.domain v) (reuse : Option t.Val) :
    (Nullable.copyInto (C.operations x) (some v)).Succeeds (reuse, state) fun returned last =>
      returned = .target ∧ ∃ u, last.1 = some u ∧ W.like v u ∧ W.Keeps state last.2 := by
  cases reuse with
  | none =>
      obtain ⟨u, last, hOutcome, hCopied⟩ := hCopies x state v hLive hDomain
      exact ⟨.target, (some u, last), Nullable.copyInto_new_outcome hOutcome, rfl, u, rfl, hCopied⟩
  | some old =>
      obtain ⟨returned, ⟨held, last⟩, hOutcome, -, hCopied⟩ := hCopiesInto x state v old hLive hDomain
      exact ⟨.target, (some held, last), Nullable.copyInto_lent_outcome hOutcome, rfl, held, rfl, hCopied⟩

/-! ## Optional values -/

/-- What a wrapper writes for an optional value. -/
def optionalBytes (W : World σ S N t.Val) (x : S) (padding : Nat) : Option t.Val → Bytes
  | none => nullBytes padding
  | some v => W.valueBytes x v

/-- Optional values are written as the bytes of the wrapper. -/
theorem serialize_succeeds {padding : Nat} (hSerializes : W.Serializes C) (hLive : W.live x state)
    {v : Option t.Val}
    (hDomain : ∀ u ∈ v, W.domain u) (hPadding : padding ≤ 0x7fffffff) {out : OutputChannel}
    (hRoom : out.size + (W.optionalBytes x padding v).length ≤ W.room) (hLongest : W.room ≤ Bytes.longest) :
    (Nullable.serialize (C.operations x) padding v).Succeeds (out, state) fun _ last =>
      last.1 = out.appended (W.optionalBytes x padding v) ∧ W.Keeps state last.2 := by
  cases v with
  | none =>
      have hMemory : padding ≤ Bytes.mostMemory := Nat.le_trans hPadding (by decide)
      apply (serialize_none_succeeds (C.operations x) (Nat.le_trans hRoom hLongest) hMemory).mono
      intro _ last hWritten
      obtain ⟨hOut, hSame⟩ := hWritten
      exact ⟨hOut, hSame ▸ Keeps.refl W state⟩
  | some u => exact serialize_some_succeeds padding hSerializes hLive (hDomain u rfl) hRoom

/-- Optional values are read back from the bytes of the wrapper. -/
theorem deserialize_succeeds {padding : Nat} (hDeserializes : W.Deserializes C) (hLive : W.live x state)
    {v : Option t.Val}
    (hDomain : ∀ u ∈ v, W.domain u) {input : InputChannel} {suffix : Bytes}
    (hInput : input.rest = W.optionalBytes x padding v ++ suffix) (hRoom : input.rest.length ≤ W.room) :
    (Nullable.deserialize (C.operations x) padding).Succeeds (input, state) fun w last =>
      Option.Rel W.like v w ∧ last.1.rest = suffix ∧ W.Keeps state last.2 := by
  cases v with
  | none =>
      apply (deserialize_none_succeeds (C.operations x) hInput).mono
      intro w last hRead
      obtain ⟨rfl, hRest, hSame⟩ := hRead
      exact ⟨.none, hRest, hSame ▸ Keeps.refl W state⟩
  | some u =>
      apply (deserialize_some_succeeds padding hDeserializes hLive (hDomain u rfl) hInput hRoom).mono
      intro w last hRead
      obtain ⟨u', rfl, hLike, hRest⟩ := hRead
      exact ⟨.some hLike, hRest⟩

end World

end SerializerContract
