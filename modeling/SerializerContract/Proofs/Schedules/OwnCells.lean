import SerializerContract.Proofs.Conformance.Numbers
import SerializerContract.Proofs.Schedules.Apart
import SerializerContract.Proofs.Schedules.Cycles

/-! Serializers of lists of numbers write by way of a channel in their own cell. Their duplicates have cells of
their own, so they share nothing that changes; and what was left in a channel does not show in what they do. -/
namespace SerializerContract

namespace Duplication

variable {σ V l β : Type} {valid : σ → Prop} {part : Nat → σ → V} {i : Nat}

/-- An operation on a channel alone is confined to any part of the state. -/
theorem Confined.onFirst (action : Action l β) : Confined valid part i (Action.onFirst action : Action (l × σ) β) where
  told _ _ _ _ _ hPart := ⟨rfl, rfl, hPart⟩
  stays _ _ hValid := hValid
  kept _ _ _ _ _ := rfl

theorem Alike.onFirst (action : Action l β) :
    Alike valid (Action.onFirst action : Action (l × σ) β) (Action.onFirst action) :=
  fun given state other hValid hOther =>
    ⟨(action given).1, (action given).2, state, other, rfl, rfl, hValid, hOther⟩

end Duplication

namespace NumbersSerializer

open Duplication

/-- What writing a list leads to does not depend on the store; it leaves a channel in the cell. -/
theorem writeThroughScratch_outcome (v : List (BitVec 64)) (out : OutputChannel) :
    ∃ result after scratch, ∀ id (store : Store), id < store.cells.length →
      (writeThroughScratch id v).outcome (out, store) = (result, (after, store.withScratch id scratch)) := by
  by_cases hComplete : (codec.encode v).complete = true
  · exact ⟨_, _, _, fun id store hCell => (writeThroughScratch_emits v out hCell).trans (if_pos hComplete)⟩
  · exact ⟨_, _, _, fun id store hCell => (writeThroughScratch_emits v out hCell).trans (if_neg hComplete)⟩

variable {A : Type} {ofAny : A → Option NumbersKind} {bound : Nat}

/-- The stores in which some first cells are there. -/
def HasCells (bound : Nat) (store : Store) : Prop := bound ≤ store.cells.length

theorem operations_serialize (x : NumbersSerializer) :
    ((contract ofAny).operations x).serialize = writeThroughScratch x.id := by
  rw [operations_eq]
  rfl

theorem operations_deserialize (x : NumbersSerializer) :
    ((contract ofAny).operations x).deserialize = Action.onFirst (InputChannel.read codec) := by
  rw [operations_eq]
  rfl

theorem operations_copy (x : NumbersSerializer) : ((contract ofAny).operations x).copy = pure := by
  rw [operations_eq]
  rfl

/-- What a worker does with a serializer is confined to the serializer's cell. -/
theorem owns_cell {x : NumbersSerializer} {first i : Nat} (hId : x.id = first + i) (hCell : x.id < bound) :
    Owns (contract ofAny) (HasCells bound) (fun j store => store.cell (first + j)) i x where
  serialize v := by
    rw [operations_serialize]
    constructor
    · intro out store other hStore hOther hPart
      obtain ⟨result, after, scratch, hOutcome⟩ := writeThroughScratch_outcome v out
      have hIn : x.id < store.cells.length := Nat.lt_of_lt_of_le hCell hStore
      have hInOther : x.id < other.cells.length := Nat.lt_of_lt_of_le hCell hOther
      rw [hOutcome x.id store hIn, hOutcome x.id other hInOther]
      refine ⟨rfl, rfl, ?_⟩
      rw [← hId, Store.cell_withScratch_self hIn, Store.cell_withScratch_self hInOther, hId, hPart]
    · intro out store hStore
      obtain ⟨result, after, scratch, hOutcome⟩ := writeThroughScratch_outcome v out
      rw [hOutcome x.id store (Nat.lt_of_lt_of_le hCell hStore)]
      exact Nat.le_trans hStore (Nat.le_of_eq (Store.length_withScratch store x.id scratch).symm)
    · intro out store hStore j hOther
      obtain ⟨result, after, scratch, hOutcome⟩ := writeThroughScratch_outcome v out
      rw [hOutcome x.id store (Nat.lt_of_lt_of_le hCell hStore)]
      exact Store.cell_withScratch_of_ne store (by omega) scratch
  deserialize := by
    rw [operations_deserialize]
    exact .onFirst _
  copy v := by
    rw [operations_copy]
    exact ⟨fun _ _ _ _ _ hPart => ⟨rfl, rfl, hPart⟩, fun _ _ hStore => hStore, fun _ _ _ _ _ => rfl⟩

/-- Which cell serves as the scratch buffer cannot be seen in what is written. -/
theorem writeThroughScratch_alike {id id' : Nat} (h : id < bound) (h' : id' < bound) (v : List (BitVec 64)) :
    Alike (HasCells bound) (writeThroughScratch id v) (writeThroughScratch id' v) := by
  intro out store other hStore hOther
  obtain ⟨result, after, scratch, hOutcome⟩ := writeThroughScratch_outcome v out
  refine ⟨result, after, store.withScratch id scratch, other.withScratch id' scratch,
    hOutcome id store (Nat.lt_of_lt_of_le h hStore), hOutcome id' other (Nat.lt_of_lt_of_le h' hOther), ?_, ?_⟩
  · rwa [HasCells, Store.length_withScratch]
  · rwa [HasCells, Store.length_withScratch]

/-- Serializers with cells do the same, whatever is in them. -/
theorem actAlike {x y : NumbersSerializer} (hx : x.id < bound) (hy : y.id < bound) :
    ActAlike (contract ofAny) (HasCells bound) x y where
  serialize v := by
    rw [operations_serialize, operations_serialize]
    exact writeThroughScratch_alike hx hy v
  deserialize := by
    rw [operations_deserialize, operations_deserialize]
    exact .onFirst _
  copy v := by
    rw [operations_copy, operations_copy]
    exact fun _ store other hStore hOther => ⟨.ok v, (), store, other, rfl, rfl, hStore, hOther⟩

end NumbersSerializer

end SerializerContract
