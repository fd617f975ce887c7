import SerializerContract.Nullable.Contract
import SerializerContract.Proofs.Interchange.Operations

/-! Wrappers of serializers that do the same do the same, if their paddings are equal. A wrapper adds a flag and a
padding of its own, and otherwise does what it wraps does, on the value that it holds or lends. -/
namespace SerializerContract

open Duplication (Alike)

namespace Nullable

variable {σ α β ρ : Type} {valid : σ → Prop} {first second : Operations σ α} {padding : Nat}

/-- Running both on the value inside the optional keeps them alike. -/
theorem withInner_alike (old : α) {action other : Action ((α × ρ) × σ) β} (h : Alike valid action other) :
    Alike valid (withInner old action) (withInner old other) := by
  intro given state state' hState hState'
  obtain ⟨result, ⟨held, rest⟩, last, last', hFirst, hSecond, hLast, hLast'⟩ :=
    h (old, given.2) state state' hState hState'
  refine ⟨result, (some held, rest), last, last', ?_, ?_, hLast, hLast'⟩
  · rw [withInner_outcome, hFirst]
  · rw [withInner_outcome, hSecond]

theorem some_alike {action other : Action σ α}
    (h : Alike valid (Action.onSecond action : Action (ρ × σ) α) (Action.onSecond other)) :
    Alike valid (Action.onSecond (do return some (← action)) : Action (ρ × σ) (Option α))
      (Action.onSecond (do return some (← other))) := by
  rw [Action.onSecond_bind, Action.onSecond_bind]
  exact h.bind fun a => .pure (some a)

/-- Copying into a target is alike under wrapping: the inner copy runs exactly when there is a value. -/
theorem copyInto_alike (h : first.DoSame valid second) (v : Option α) :
    Alike valid (copyInto first v) (copyInto second v) := by
  intro reuse state other hState hOther
  cases v with
  | none => exact ⟨.ok .target, none, state, other, rfl, rfl, hState, hOther⟩
  | some u =>
  cases reuse with
  | some old =>
      obtain ⟨result, held, last, last', hFirst, hSecond, hLast, hLast'⟩ :=
        h.copyInto u old state other hState hOther
      exact ⟨result.map fun _ => .target, some held, last, last', copyInto_lent_outcome hFirst,
        copyInto_lent_outcome hSecond, hLast, hLast'⟩
  | none =>
      obtain ⟨result, last, last', hFirst, hSecond, hLast, hLast'⟩ := (h.copy u).second hState hOther
      cases result with
      | ok copied =>
          exact ⟨.ok .target, some copied, last, last', copyInto_new_outcome hFirst, copyInto_new_outcome hSecond,
            hLast, hLast'⟩
      | error failure =>
          exact ⟨.error failure, none, last, last', copyInto_new_throws_outcome hFirst,
            copyInto_new_throws_outcome hSecond, hLast, hLast'⟩

theorem assign_alike (v : Option α) : Alike valid (assign (σ := σ) (ρ := ρ) v) (assign v) :=
  .of_told (fun given => (.ok (), (v, given.2))) fun _ _ => rfl

/-- Reading beside a reuse target that holds nothing. -/
theorem zoom_alike {action other : Action (ρ × σ) β} (h : Alike valid action other) :
    Alike valid (Action.zoom (fun x : (Option α × ρ) × σ => (x.1.2, x.2)) (fun x y => ((y.1.1, x.1), x.2)) action)
      (Action.zoom (fun x => (x.1.2, x.2)) (fun x y => ((y.1.1, x.1), x.2)) other) := by
  intro given state state' hState hState'
  obtain ⟨result, rest, last, last', hFirst, hSecond, hLast, hLast'⟩ := h given.2 state state' hState hState'
  refine ⟨result, (given.1, rest), last, last', ?_, ?_, hLast, hLast'⟩
  · rw [Action.zoom_outcome, hFirst]
  · rw [Action.zoom_outcome, hSecond]

/-- The flag is read the same way by both, and the inner reads are alike. -/
theorem deserializeInto_alike (h : first.DoSame valid second) :
    Alike valid (deserializeInto first padding) (deserializeInto second padding) := by
  refine .bind (.onFirst _) fun isNull => ?_
  cases isNull with
  | true => exact .bind (.onFirst _) fun _ => .bind (assign_alike none) fun _ => .pure _
  | false =>
      intro ⟨reuse, input⟩
      -- The reuse target decides what is done, and both look at the same one.
      cases reuse with
      | some old => exact (withInner_alike old h.deserializeInto).bind (fun _ => .pure Returned.target) (some old, input)
      | none =>
          exact (zoom_alike h.deserialize).bind
            (fun v => .bind (assign_alike (some v)) fun _ => .pure Returned.target) (none, input)

/-- Wrapped serializers do the same whenever the serializers they wrap do. -/
theorem operations_doSame (h : first.DoSame valid second) :
    (operations first padding).DoSame valid (operations second padding) where
  create := some_alike h.create
  copy
    | none => .pure none
    | some v => some_alike (h.copy v)
  copyInto := copyInto_alike h
  rawCopy := by
    refine .bind (.onFirst _) fun isNull => .bind (.onFirst _) fun _ => ?_
    cases isNull with
    | true => exact .onFirst _
    | false => exact h.rawCopy
  length := .pure _
  serialize
    | none => .bind (.onFirst _) fun _ => .onFirst _
    | some v => .bind (.onFirst _) fun _ => h.serialize v
  deserialize := by
    refine .bind (.onFirst _) fun isNull => ?_
    cases isNull with
    | true => exact .bind (.onFirst _) fun _ => .pure none
    | false => exact h.deserialize.bind fun v => .pure (some v)
  deserializeInto := deserializeInto_alike h

end Nullable

end SerializerContract
