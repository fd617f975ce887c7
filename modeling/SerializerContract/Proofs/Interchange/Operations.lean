import SerializerContract.Proofs.Reading.Optional
import SerializerContract.Proofs.Reading.Samples
import SerializerContract.Proofs.Schedules.OwnCells

/-! Serializers that do the same. Each of their operations has the same outcome and leaves the same in the channels
and the reuse target that it is given, in whatever states the two are asked; what becomes of the states is their
own affair. A wrapper hands this on from what it wraps. -/
namespace SerializerContract

namespace Duplication

variable {σ l s α β : Type} {valid : σ → Prop}

open SerializerContract.Action

theorem Alike.ofExcept (result : Except Failure α) :
    Alike valid (Action.ofExcept result : Action (l × σ) α) (Action.ofExcept result) :=
  fun given state other hState hOther => ⟨result, given, state, other, rfl, rfl, hState, hOther⟩

theorem Alike.pure (a : α) : Alike valid (Pure.pure a : Action (l × σ) α) (Pure.pure a) :=
  .ofExcept (.ok a)

/-- Alike actions followed by alike continuations are alike, whatever the first ones return. -/
theorem Alike.bind {first second : Action (l × σ) α} {next next' : α → Action (l × σ) β}
    (h : Alike valid first second) (hNext : ∀ a, Alike valid (next a) (next' a)) :
    Alike valid (first >>= next) (second >>= next') := by
  intro given state other hState hOther
  obtain ⟨result, after, state', other', hFirst, hSecond, hState', hOther'⟩ := h given state other hState hOther
  rw [outcome_bind, outcome_bind, hFirst, hSecond]
  cases result with
  | ok a => exact hNext a after state' other' hState' hOther'
  | error failure => exact ⟨.error failure, after, state', other', rfl, rfl, hState', hOther'⟩

/-- A local state that the two start with is the same for both in the end. -/
theorem Alike.withLocal {init : s} {first second : Action (s × σ) α} (h : Alike valid first second) :
    Alike valid (Action.onSecond (Action.withLocal init first) : Action (l × σ) (α × s))
      (Action.onSecond (Action.withLocal init second)) := by
  intro given state other hState hOther
  obtain ⟨result, after, state', other', hFirst, hSecond, hState', hOther'⟩ := h init state other hState hOther
  refine ⟨result.map fun a => (a, after), given, state', other', ?_, ?_, hState', hOther'⟩
  · rw [onSecond_outcome, withLocal_outcome, hFirst]
  · rw [onSecond_outcome, withLocal_outcome, hSecond]

end Duplication

open Duplication (Alike)

/-- Operations that do the same, each in any valid state. -/
structure Operations.DoSame {σ α : Type} (valid : σ → Prop) (first second : Operations σ α) : Prop where
  create : Alike valid (Action.onSecond first.create : Action (Unit × σ) α) (Action.onSecond second.create)
  copy : ∀ v, Alike valid (Action.onSecond (first.copy v) : Action (Unit × σ) α) (Action.onSecond (second.copy v))
  copyInto : ∀ v, Alike valid (first.copyInto v) (second.copyInto v)
  rawCopy : Alike valid first.rawCopy second.rawCopy
  length : Alike valid (Action.onSecond first.length : Action (Unit × σ) Int) (Action.onSecond second.length)
  serialize : ∀ v, Alike valid (first.serialize v) (second.serialize v)
  deserialize : Alike valid first.deserialize second.deserialize
  deserializeInto : Alike valid first.deserializeInto second.deserializeInto

/-! ## Operations that keep no state -/

section

variable {σ α : Type} {valid : σ → Prop}

/-- An action that has one outcome for what it is given, and keeps the state. -/
theorem Duplication.Alike.of_told {l : Type} {action : Action (l × σ) α} (told : l → Except Failure α × l)
    (h : ∀ given state, action.outcome (given, state) = ((told given).1, ((told given).2, state))) :
    Alike valid action action :=
  fun given state other hState hOther =>
    ⟨(told given).1, (told given).2, state, other, h given state, h given other, hState, hOther⟩

theorem Operations.intoTarget_alike (v : α) : Alike valid (intoTarget (σ := σ) v) (intoTarget v) :=
  .of_told (fun _ => (.ok .target, v)) fun _ _ => rfl

/-- The operations of a codec do not depend on the serializer at all. -/
theorem Operations.ofCodec_doSame (codec : Codec α) (initial : α) (length : Int)
    (rawCopy : Action (InputChannel × OutputChannel) Unit) :
    (ofCodec (σ := σ) codec initial length rawCopy).DoSame valid (ofCodec codec initial length rawCopy) where
  create := .pure initial
  copy v := .pure v
  copyInto v := intoTarget_alike v
  rawCopy := .onFirst rawCopy
  length := .pure length
  serialize v := .onFirst (OutputChannel.write codec v)
  deserialize := .onFirst _
  deserializeInto := .bind (.onFirst _) fun _ => .pure _

theorem TextSerializer.bounded_doSame (limit : BitVec 32) :
    (bounded (σ := σ) limit).DoSame valid (bounded limit) := by
  have hRead : Alike valid (readBounded (σ := σ) limit) (readBounded limit) := by
    refine .bind (.onFirst _) fun _ => ?_
    exact .of_told (fun given => (checkLength limit given.1.length, given)) fun _ _ => rfl
  exact { Operations.ofCodec_doSame stringCodec [] variableLength
      (Operations.rawCopyCounted 1 Operations.anyLength) with
    rawCopy := .onFirst _
    serialize := fun v => .bind (.ofExcept _) fun _ => .onFirst _
    deserialize := by
      intro input state other hState hOther
      obtain ⟨result, after, state', other', hFirst, hSecond, hState', hOther'⟩ :=
        hRead ([], input) state other hState hOther
      refine ⟨result.map fun () => after.1, after.2, state', other', ?_, ?_, hState', hOther'⟩
      · rw [bounded_deserialize_outcome_eq, hFirst]
      · rw [bounded_deserialize_outcome_eq, hSecond]
    deserializeInto := .bind hRead fun _ => .pure _ }

theorem PointSerializer.operations_doSame : (operations (σ := σ)).DoSame valid operations where
  create := .pure _
  copy v := .pure v
  copyInto v := Operations.intoTarget_alike v
  rawCopy := .onFirst _
  length := .pure 16
  serialize _ := .onFirst _
  deserialize := .onFirst _
  deserializeInto := .bind (.onFirst _) fun _ => .onFirst _

theorem CircleSerializer.operations_doSame : (operations (σ := σ)).DoSame valid operations where
  create := .pure _
  copy v := by
    refine .of_told (fun given => ((radiusOf v).map fun radius => some (circle radius), given)) fun given state => ?_
    rcases h : radiusOf v with failure | radius
    · simp only [operations, h]
      rfl
    · simp only [operations, h]
      rfl
  copyInto v := .bind (.ofExcept _) fun radius =>
    .of_told (fun target => (.ok .target, withRadius radius target)) fun _ _ => rfl
  rawCopy := .onFirst _
  length := .pure 8
  serialize _ := .bind (.ofExcept _) fun _ => .onFirst _
  deserialize := .bind (.onFirst _) fun _ => .pure _
  deserializeInto := .bind (.onFirst _) fun _ => .onFirst _

end

/-- Each writes by way of its own cell, and what was left there does not show. -/
theorem NumbersSerializer.plain_doSame {id id' bound : Nat} (h : id < bound) (h' : id' < bound) :
    (plain id).DoSame (HasCells bound) (plain id') :=
  { Operations.ofCodec_doSame codec [] variableLength (Operations.rawCopyCounted 8 Operations.anyLength) with
    serialize := writeThroughScratch_alike h h' }

end SerializerContract
