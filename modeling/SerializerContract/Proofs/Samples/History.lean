import SerializerContract.Proofs.Samples.Writing

/-! Histories of calls. All that is left of a call, whether it succeeded or failed, is what it did to the store. No
call gives up a cell, so a serializer keeps its own however long it is used; and that is all it needs to write. -/
namespace SerializerContract

/-! ## Actions that give up no cell -/

namespace Action

variable {κ s α β : Type} {store : κ → Store}

/-- Whatever the action comes to, the cells of the store in its state are still there. -/
def KeepsCells (store : κ → Store) (action : Action κ α) : Prop :=
  ∀ state, (store state).Grows (store (action.outcome state).2)

namespace KeepsCells

theorem ofExcept (store : κ → Store) (result : Except Failure α) : KeepsCells store (ofExcept result) :=
  fun _ => .refl _

theorem onFirst (action : Action s α) : KeepsCells Prod.snd (onFirst action : Action (s × Store) α) :=
  fun _ => .refl _

/-- Running one action after another keeps the cells if both do. -/
theorem bind {first : Action κ α} {next : α → Action κ β} (hFirst : KeepsCells store first)
    (hNext : ∀ a, KeepsCells store (next a)) : KeepsCells store (first >>= next) := by
  intro state
  have hMiddle := hFirst state
  rw [outcome_bind]
  cases hOutcome : first.outcome state with
  | mk result middle =>
      rw [hOutcome] at hMiddle
      cases result with
      | ok a => exact hMiddle.trans (hNext a middle)
      | error failure => exact hMiddle

theorem make {κ : Type} (config : κ) : KeepsCells id (Object.make config) := by
  intro store
  obtain ⟨x, last, hOutcome, hNew⟩ := Object.make_succeeds config store
  rw [hOutcome]
  exact hNew.grows

end KeepsCells

end Action

open SerializerContract.Action (KeepsCells)

/-- Serializers with these operations keep all cells. -/
structure Operations.KeepCells {α : Type} (operations : Operations Store α) : Prop where
  serialize : ∀ v, KeepsCells Prod.snd (operations.serialize v)
  deserialize : KeepsCells Prod.snd operations.deserialize
  deserializeInto : KeepsCells Prod.snd operations.deserializeInto
  copy : ∀ v, KeepsCells id (operations.copy v)
  copyInto : ∀ v, KeepsCells Prod.snd (operations.copyInto v)
  rawCopy : KeepsCells Prod.snd operations.rawCopy

/-- A codec has no store to change. -/
theorem Operations.ofCodec_keepCells {α : Type} (codec : Codec α) (initial : α) (length : Int)
    (rawCopy : Action (InputChannel × OutputChannel) Unit) : (ofCodec codec initial length rawCopy).KeepCells where
  serialize _ := .onFirst _
  deserialize := .onFirst _
  deserializeInto := .bind (.onFirst _) fun _ _ => .refl _
  copy _ _ := .refl _
  copyInto _ _ := .refl _
  rawCopy := .onFirst _

theorem TextSerializer.bounded_keepCells (limit : BitVec 32) : (bounded limit).KeepCells := by
  have hRead : KeepsCells Prod.snd (readBounded (σ := Store) limit) :=
    .bind (.onFirst _) fun _ => .bind (fun _ => .refl _) fun _ => .ofExcept _ _
  exact {
    serialize := fun _ => .bind (.ofExcept _ _) fun _ => .onFirst _
    deserialize := fun (input, store) => hRead (([], input), store)
    deserializeInto := .bind hRead fun _ _ => .refl _
    copy := fun _ _ => .refl _
    copyInto := fun _ _ => .refl _
    rawCopy := .onFirst _ }

/-- Writing through the scratch buffer changes the contents of a cell and never how many there are. -/
theorem NumbersSerializer.writeThroughScratch_keepsCells (id : Nat) (v : List (BitVec 64)) :
    KeepsCells Prod.snd (writeThroughScratch id v) := by
  refine .bind (fun state => ?_) fun _ => .bind (fun _ => .refl _) fun _ => .onFirst _
  exact Nat.le_of_eq (Store.length_withScratch state.2 id _).symm

theorem NumbersSerializer.plain_keepCells (id : Nat) : (plain id).KeepCells :=
  { Operations.ofCodec_keepCells codec [] variableLength (Operations.rawCopyCounted 8 Operations.anyLength) with
    serialize := writeThroughScratch_keepsCells id }

theorem PointSerializer.operations_keepCells : (operations (σ := Store)).KeepCells where
  serialize _ := .onFirst _
  deserialize := .onFirst _
  deserializeInto := .bind (.onFirst _) fun _ => .onFirst _
  copy _ _ := .refl _
  copyInto _ _ := .refl _
  rawCopy := .onFirst _

theorem CircleSerializer.operations_keepCells : (operations (σ := Store)).KeepCells where
  serialize _ := .bind (.ofExcept _ _) fun _ => .onFirst _
  deserialize := .bind (.onFirst _) fun _ _ => .refl _
  deserializeInto := .bind (.onFirst _) fun _ => .onFirst _
  copy _ := .bind (.ofExcept _ _) fun _ _ => .refl _
  copyInto _ := .bind (.ofExcept _ _) fun _ _ => .refl _
  rawCopy := .onFirst _

/-! ## Calls -/

/-- A call of a serializer, with all that it is given. -/
inductive Call (α : Type) where
  | serialize (v : α) (out : OutputChannel)
  | deserialize (input : InputChannel)
  | deserializeInto (reuse : α) (input : InputChannel)
  | copy (v : α)
  | copyInto (v reuse : α)
  | rawCopy (input : InputChannel) (out : OutputChannel)
  | duplicate

namespace Contract

variable {A S N : Type} {t : ValueType} (C : Contract Store A t S N) (x : S)

/-- The store after a call, whether it succeeded or failed. -/
def after (store : Store) : Call t.Val → Store
  | .serialize v out => (((C.operations x).serialize v).outcome (out, store)).2.2
  | .deserialize input => ((C.operations x).deserialize.outcome (input, store)).2.2
  | .deserializeInto reuse input => ((C.operations x).deserializeInto.outcome ((reuse, input), store)).2.2
  | .copy v => (((C.operations x).copy v).outcome store).2
  | .copyInto v reuse => (((C.operations x).copyInto v).outcome (reuse, store)).2.2
  | .rawCopy input out => ((C.operations x).rawCopy.outcome ((input, out), store)).2.2
  | .duplicate => ((C.duplicate x).outcome store).2

/-- The store after some calls, one after the other. -/
def afterAll (store : Store) (calls : List (Call t.Val)) : Store := calls.foldl (C.after x) store

variable {C x}

/-- A call leaves the store at least as large as it was, also when it fails. -/
theorem grows_after (hOperations : (C.operations x).KeepCells) (hDuplicate : KeepsCells id (C.duplicate x))
    (store : Store) (call : Call t.Val) : store.Grows (C.after x store call) := by
  cases call with
  | serialize v out => exact hOperations.serialize v (out, store)
  | deserialize input => exact hOperations.deserialize (input, store)
  | deserializeInto reuse input => exact hOperations.deserializeInto ((reuse, input), store)
  | copy v => exact hOperations.copy v store
  | copyInto v reuse => exact hOperations.copyInto v (reuse, store)
  | rawCopy input out => exact hOperations.rawCopy ((input, out), store)
  | duplicate => exact hDuplicate store

/-- However many calls there were, the store has all the cells that it had before them. -/
theorem grows_afterAll (hOperations : (C.operations x).KeepCells) (hDuplicate : KeepsCells id (C.duplicate x))
    (store : Store) (calls : List (Call t.Val)) : store.Grows (C.afterAll x store calls) := by
  induction calls generalizing store with
  | nil => exact .refl store
  | cons call rest ih => exact (grows_after hOperations hDuplicate store call).trans (ih (C.after x store call))

end Contract

namespace Sample

variable {f : Family}

/-- Whichever sample serializer it is, its operations keep the cells of the others. -/
theorem operations_keepCells (s : Sample f) (id : Nat) : (s.operations id).KeepCells := by
  cases s with
  | number => exact Operations.ofCodec_keepCells ..
  | text config =>
      cases config with
      | unbounded => exact Operations.ofCodec_keepCells ..
      | bounded limit => exact TextSerializer.bounded_keepCells limit
  | numbers => exact NumbersSerializer.plain_keepCells id
  | point => exact PointSerializer.operations_keepCells
  | circle => exact CircleSerializer.operations_keepCells

/-- A duplicate may add a cell and removes none. -/
theorem duplicate_keepsCells (s : Sample f) {x : f.Serializer} (h : s.Configures x) :
    KeepsCells id (f.contract.duplicate x) := by
  have hMake {κ : Type} (config : κ) : KeepsCells id (do return some (← Object.make config)) :=
    .bind (.make config) fun _ _ => .refl _
  cases s with
  | number =>
      obtain ⟨id, kind⟩ := x
      obtain rfl : kind = .plain := h
      exact fun _ => .refl _
  | text | numbers | point | circle => exact hMake _

/-- Whatever a serializer was used for before, and whether that succeeded or failed: it writes the encoding of the
value behind what is there, or it refuses the value and has written nothing. Which of the two is decided by the
value and by the configured limit. -/
theorem serialize_after_history (s : Sample f) {x : f.Serializer} (hConfigured : s.Configures x) {store : Store}
    (hCell : f.objectId x < store.cells.length) (history : List (Call f.Value)) (v : f.Value)
    (out : OutputChannel) :
    ((f.contract.operations x).serialize v).Puts (s.written v) out (f.contract.afterAll x store history) := by
  have hOperations : (f.contract.operations x).KeepCells :=
    s.operations_eq hConfigured ▸ s.operations_keepCells (f.objectId x)
  have hGrows := Contract.grows_afterAll hOperations (s.duplicate_keepsCells hConfigured) store history
  rw [s.operations_eq hConfigured]
  exact s.serialize_puts v out (Nat.lt_of_lt_of_le hCell hGrows)

/-- A list and a cut off source were handled before, and the list is still in the scratch channel. -/
theorem serialize_after_history_numbers :
    let serializer : Family.numbers.Serializer := (⟨0, .plain⟩ : NumbersSerializer)
    let store : Store := ⟨[{}], 0, 0⟩
    let earlier : List (BitVec 64) := [7, 8]
    let history : List (Call Family.numbers.Value) :=
      [.serialize earlier {}, .deserialize (.ofBytes [0, 0, 0, 1]), .duplicate]
    let later := Family.numbers.contract.afterAll serializer store history
    let v : List (BitVec 64) := [1]
    Sample.numbers.Configures serializer ∧ Family.numbers.objectId serializer < store.cells.length ∧
      (later.cell 0).scratch.data.length = 20 ∧
      ((Family.numbers.contract.operations serializer).serialize v).Puts
        (.ok [0, 0, 0, 1, 0, 0, 0, 0, 0, 0, 0, 1]) ⟨[9]⟩ later := by
  intro serializer store earlier history later v
  have hConfigured : Sample.numbers.Configures serializer := rfl
  have hCell : Family.numbers.objectId serializer < store.cells.length := Nat.one_pos
  have hWritten : Sample.numbers.written v = .ok [0, 0, 0, 1, 0, 0, 0, 0, 0, 0, 0, 1] := by
    change NumbersSerializer.codec.encoding [1] = _
    rfl
  refine ⟨hConfigured, hCell, rfl, ?_⟩
  rw [← hWritten]
  exact serialize_after_history .numbers hConfigured hCell history v ⟨[9]⟩

end Sample

end SerializerContract
