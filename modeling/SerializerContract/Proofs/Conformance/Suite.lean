import SerializerContract.Proofs.Conformance.Duplication
import SerializerContract.Proofs.Conformance.Nullability
import SerializerContract.Proofs.Conformance.Number
import SerializerContract.Proofs.Conformance.Streams

/-! The suite raises no false alarm. Every check follows from the contract alone, and none of them takes
back what the next one needs. -/
namespace SerializerContract

namespace World

variable {σ A S N : Type} {t : ValueType} {C : Contract σ A t S N} {W : World σ S N t.Val}
    {suite : Suite C} {state : σ}

/-- Checks that pass in every valid state, and keep what is known, pass one after the other. -/
theorem runAll_results {properties : List (Property σ)} (hValid : W.valid state)
    (hPasses : ∀ property ∈ properties, ∀ state, W.valid state →
      property.check.Succeeds state fun _ last => W.Keeps state last) :
    ((Property.runAll properties).run state).1 =
      properties.map fun property => ⟨property.name, true, ""⟩ := by
  induction properties generalizing state with
  | nil => rfl
  | cons property rest ih =>
      obtain ⟨_, last, hOutcome, hLast⟩ := hPasses property List.mem_cons_self state hValid
      have hRest := ih (hLast.valid hValid) fun other hOther =>
        hPasses other (List.mem_cons_of_mem property hOther)
      have hRun : property.run.run state = (⟨property.name, true, ""⟩, last) := by
        change property.run state = _
        rw [Property.run, hOutcome]
      change (property.run.run state).1 :: ((Property.runAll rest).run (property.run.run state).2).1 = _
      rw [hRun, hRest]
      rfl

/-- The report lists the results of the checks in order. -/
theorem runAll_run (suite : Suite C) (state : σ) :
    (suite.runAll.run state).1 = ⟨((Property.runAll suite.properties).run state).1⟩ := rfl

/-- Every check of a conforming serializer passes, and keeps what is known. -/
theorem properties_pass (h : W.Conforms C suite.registry suite.fixture.acceptsInstance)
    (hSupplies : W.Supplies suite) (hAffords : W.Affords suite) (hValid : W.valid state) :
    ∀ property ∈ suite.properties, property.check.Succeeds state fun _ last => W.Keeps state last := by
  simp only [Suite.properties, List.forall_mem_cons]
  refine ⟨checkInstantiate_passes hSupplies hValid h.creates,
    checkSnapshotInstantiation_passes hSupplies hValid h.snapshots h.registers,
    checkReconfigure_passes hSupplies hValid h.snapshots h.rereadsSnapshots h.restores h.resolves
      h.compares,
    checkLength_passes hSupplies hValid h.measures h.length_ne_zero,
    checkCopy_passes hSupplies hValid h.copies,
    checkCopyIntoNew_passes hSupplies hValid h.creates h.copiesInto,
    checkCopyIntoReused_passes hSupplies hValid h.creates h.copiesInto,
    checkIndividually_passes hSupplies hValid h.serializes h.writesSome h.creates h.deserializesInto,
    checkIndividuallyReusing_passes hSupplies hValid h.serializes h.writesSome h.creates
      h.deserializesInto,
    checkSequence_passes hSupplies hValid h.serializes h.writesSome h.deserializes,
    checkSequenceReusing_passes hSupplies hValid h.serializes h.writesSome h.creates h.deserializesInto,
    checkRawCopy_passes hSupplies hValid h.serializes h.writesSome h.creates h.deserializesInto
      h.rawCopies,
    checkRawCopySequence_passes hSupplies hValid h.serializes h.writesSome h.creates h.deserializesInto
      h.rawCopies,
    checkClone_passes hSupplies hValid h.snapshots h.rereadsSnapshots h.restores h.compares,
    checkNullability_passes h.like_trans h.domain_like h.serializes h.deserializes h.copies
      h.copiesInto h.hasLength hSupplies h.measures h.duplicates h.length_lt hValid,
    checkDuplicate_passes hAffords h.duplicates hSupplies h.like_trans h.domain_like h.serializes
      h.deserializes.readsOwn h.copies h.compares hValid, ?_⟩
  intro _ h
  cases h

/-- The suite raises no false alarm. All sixteen checks of a conforming serializer pass. Its duplicates
never fail beside each other, in whatever order they take their steps, and however often each of them
takes the samples. -/
theorem runAll_passes_of_conforms (h : W.Conforms C suite.registry suite.fixture.acceptsInstance)
    (hSupplies : W.Supplies suite) (hAffords : W.Affords suite) (hValid : W.valid state) :
    (suite.runAll.run state).1 =
      ⟨suite.properties.map fun property => ⟨property.name, true, ""⟩⟩ ∧
    ∀ (serializers : List (S × List t.Val)) (schedule : List Nat),
      (∀ entry ∈ serializers, W.live entry.1 state ∧ ∀ v ∈ entry.2, v ∈ suite.fixture.samples) →
      ∀ worker ∈ (Duplication.follow C suite.checker schedule
        (serializers.map fun entry => { serializer := entry.1, samples := entry.2 }) state).1,
        worker.failure = none := by
  constructor
  · have hResults := runAll_results hValid fun property hProperty state hValid =>
      properties_pass h hSupplies hAffords hValid property hProperty
    change SuiteReport.mk ((Property.runAll suite.properties).run state).1 = _
    rw [hResults]
  · intro serializers schedule hLive worker hWorker
    refine ((follow_workersOk h.like_trans h.domain_like hSupplies h.serializes h.deserializes h.copies
      schedule ?_).1 worker hWorker).failure
    intro worker hWorker
    obtain ⟨⟨x, samples⟩, hEntry, rfl⟩ := List.mem_map.mp hWorker
    obtain ⟨hLive, hSamples⟩ := hLive _ hEntry
    exact ⟨hLive, fun v hv => hSupplies.samples v (hSamples v hv),
      fun v hv => Nat.le_of_lt (hSupplies.room_sample hLive (hSamples v hv)), fun _ _ => rfl, rfl⟩

/-- Plain serializers of numbers keep the contract, and pass all checks. -/
theorem runAll_passes_plain_numbers :
    NumberSerializer.world.Conforms (NumberSerializer.contract (Family.snapshotOf .number))
      NumberSerializer.plainRegistry (fun _ => true) ∧
    NumberSerializer.world.Supplies (NumberSerializer.plainSuite [1, -7] {}) ∧
    NumberSerializer.world.Affords (NumberSerializer.plainSuite [1, -7] {}) ∧
    NumberSerializer.world.valid {} ∧
    ((NumberSerializer.plainSuite [1, -7] {}).runAll.run {}).1 =
      ⟨(NumberSerializer.plainSuite [1, -7] {}).properties.map fun property => ⟨property.name, true, ""⟩⟩ := by
  have hConforms := NumberSerializer.world_conforms NumberSerializer.plainRegistry_registered
  have hSupplies : NumberSerializer.world.Supplies (NumberSerializer.plainSuite [1, -7] {}) :=
    NumberSerializer.plainSuite_supplied {} (by decide)
  have hAffords : NumberSerializer.world.Affords (NumberSerializer.plainSuite [1, -7] {}) :=
    NumberSerializer.plainSuite_afforded (List.cons_ne_nil 1 [-7]) rfl rfl rfl
  have hValid : NumberSerializer.world.valid {} := trivial
  exact ⟨hConforms, hSupplies, hAffords, hValid,
    (runAll_passes_of_conforms hConforms hSupplies hAffords hValid).1⟩

end World

end SerializerContract
