import SerializerContract.Proofs.Detection.Defects
import SerializerContract.Proofs.Detection.Fixtures

/-! The suite on serializers of numbers with one defect. What is known of every check is whether it passes,
with any samples and any number of workers. -/
namespace SerializerContract

namespace Defect

open NumberSerializer (contract)

variable {A : Type} {ofAny : A → Option NumberSnapshot} {d : Defect}

/-- A fixture that is about serializers with a defect, and declares the length of a number. -/
structure Tests (d : Defect) (fixture : Fixture (contract ofAny)) (options : RunOptions) : Prop
    extends fixture.Presents options (.defective d) (.defective d) where
  length : fixture.length = 4
  /-- There is room for all samples in one channel, however often they are written. -/
  room : fixture.samples.length * 8 < Bytes.longest

/-- A suite that was prepared from such a fixture. -/
structure Suited (d : Defect) (suite : Suite (contract ofAny)) : Prop
    extends suite.Presents (.defective d) (.defective d) where
  length : suite.fixture.length = 4
  room : suite.fixture.samples.length * 8 < Bytes.longest

/-- The suite that is prepared for a defect fits it. -/
theorem Tests.suited {fixture : Fixture (contract ofAny)} {options : RunOptions} (h : d.Tests fixture options)
    (store : Store) : (Suite.prepare fixture {} options).Succeeds store fun suite _ => d.Suited suite := by
  apply (Suite.presents_of_prepare h.toPresents store).mono
  intro suite _ hPrepared
  obtain ⟨rfl, hPresents⟩ := hPrepared
  exact ⟨hPresents, h.length, h.room⟩

variable {suite : Suite (contract ofAny)} {store : Store}

namespace Suited

variable (h : d.Suited suite)

include h

theorem supplies (alike : NumberSerializer → NumberSerializer → Prop) : (d.world alike).Supplies suite := by
  refine h.toPresents.supplies h.length (fun _ _ => trivial) ?_ ?_
  · intro v w _ hLike
    obtain rfl : v = w := hLike
    exact (Checker.equals_int32 v v).trans (Checker.decide_self (α := BitVec 32) v)
  · have hEmitted : d.emitted ≤ 8 := by cases d <;> decide
    have hLength := d.length_flatMap_bytes suite.fixture.samples
    exact Nat.lt_of_le_of_lt (Nat.le_trans (Nat.le_of_eq hLength) (Nat.mul_le_mul_left _ hEmitted)) h.room

/-! ## Values -/

theorem checkInstantiate_passes : suite.checkInstantiate.Passes store := by
  have hCreates : (d.world d.Agree).Creates (contract ofAny) fun _ => true := world_creates
  rw [← h.fixture.accepts] at hCreates
  exact (World.checkInstantiate_passes (h.supplies d.Agree) trivial hCreates).passes

theorem checkCopy_passes : suite.checkCopy.Passes store :=
  (World.checkCopy_passes (h.supplies d.Agree) trivial world_copies).passes

theorem checkCopyIntoNew_passes : suite.checkCopyIntoNew.Passes store :=
  (World.checkCopyIntoNew_passes (h.supplies d.Agree) trivial world_creates world_copiesInto).passes

theorem checkCopyIntoReused_passes : suite.checkCopyIntoReused.Passes store :=
  (World.checkCopyIntoReused_passes (h.supplies d.Agree) trivial world_creates world_copiesInto).passes

omit h in
theorem four_ne_zero : (d.world d.Agree).length ≠ 0 := by
  have hLength : (4 : Int) ≠ 0 := by decide
  exact hLength

/-- A wrong length is found, and nothing else by this check. -/
theorem checkLength_passes_iff : suite.checkLength.Passes store ↔ d.reported = 4 := by
  constructor
  · intro hPasses
    refine Decidable.byContradiction fun hOther => ?_
    have hLength (x : NumberSerializer) (hLive : ∃ store, (d.world d.Agree).live x store) :
        ((contract ofAny).operations x).length = pure d.reported := by
      obtain ⟨_, hLive⟩ := hLive
      rw [NumberSerializer.operations_of_defective hLive.1, NumberSerializer.defective_length]
    have hDeclared : d.reported ≠ suite.fixture.length := by rwa [h.length]
    exact (World.checkLength_fails (h.supplies d.Agree) trivial hLength hDeclared).not_passes hPasses
  · intro hReported
    exact (World.checkLength_passes (h.supplies d.Agree) trivial (world_measures hReported)
      four_ne_zero).passes

/-! ## Streams -/

section Streams

variable (hShared : d ≠ .sharedScratch)

include hShared

theorem transfers {x : NumberSerializer} {served : Store}
    (hCreated : suite.fixture.createSerializer.outcome store = (.ok (some x), served)) :
    ((contract ofAny).operations x).Transfers d.emitted d.consumed d.moved :=
  NumberSerializer.operations_transfers hShared (h.config_of_created hCreated)

/-- Values read on their own show whether as many bytes are read as written. -/
theorem checkIndividually_passes_iff : suite.checkIndividually.Passes store ↔ d.emitted = d.consumed := by
  constructor
  · intro ⟨_, hOutcome⟩
    exact Suite.emitted_eq_of_checkIndividually h.fixture.samples_ne (fun _ _ => h.transfers hShared) hOutcome
  · intro hBalanced
    exact (World.checkIndividually_passes (h.supplies d.Agree) trivial (world_serializes hShared)
      (world_writesSome hBalanced) world_creates (world_readsIntoTarget hBalanced).deserializesInto).passes

theorem checkIndividuallyReusing_passes_iff :
    suite.checkIndividuallyReusing.Passes store ↔ d.emitted = d.consumed := by
  constructor
  · intro ⟨_, hOutcome⟩
    exact Suite.emitted_eq_of_checkIndividuallyReusing h.fixture.samples_ne
      (fun _ _ => h.transfers hShared) hOutcome
  · intro hBalanced
    exact (World.checkIndividuallyReusing_passes (h.supplies d.Agree) trivial
      (world_serializes hShared) (world_writesSome hBalanced) world_creates
      (world_readsIntoTarget hBalanced).deserializesInto).passes

/-- A sequence shows whether as many bytes are read as written. -/
theorem checkSequence_passes_iff : suite.checkSequence.Passes store ↔ d.emitted = d.consumed := by
  constructor
  · intro ⟨_, hOutcome⟩
    exact Suite.emitted_eq_of_checkSequence h.fixture.samples_ne (fun _ _ => h.transfers hShared) hOutcome
  · intro hBalanced
    exact (World.checkSequence_passes (h.supplies d.Agree) trivial (world_serializes hShared)
      (world_writesSome hBalanced) (world_deserializes hBalanced)).passes

theorem checkSequenceReusing_passes_iff :
    suite.checkSequenceReusing.Passes store ↔ d.emitted = d.consumed := by
  constructor
  · intro ⟨_, hOutcome⟩
    exact Suite.emitted_eq_of_checkSequenceReusing h.fixture.samples_ne
      (fun _ _ => h.transfers hShared) hOutcome
  · intro hBalanced
    exact (World.checkSequenceReusing_passes (h.supplies d.Agree) trivial (world_serializes hShared)
      (world_writesSome hBalanced) world_creates (world_readsIntoTarget hBalanced).deserializesInto).passes

/-- A raw copy shows whether as many bytes are moved as written and read. -/
theorem checkRawCopy_passes_iff :
    suite.checkRawCopy.Passes store ↔ d.emitted = d.moved ∧ d.moved = d.consumed := by
  constructor
  · intro ⟨_, hOutcome⟩
    exact Suite.emitted_eq_of_checkRawCopy h.fixture.samples_ne (fun _ _ => h.transfers hShared) hOutcome
  · intro ⟨hMoved, hConsumed⟩
    have hBalanced := hMoved.trans hConsumed
    exact (World.checkRawCopy_passes (h.supplies d.Agree) trivial (world_serializes hShared)
      (world_writesSome hBalanced) world_creates (world_readsIntoTarget hBalanced).deserializesInto
      (world_rawCopies hMoved)).passes

/-- A sequence of raw copies shows whether as many bytes are moved as written and read. -/
theorem checkRawCopySequence_passes_iff :
    suite.checkRawCopySequence.Passes store ↔ d.emitted = d.moved ∧ d.moved = d.consumed := by
  constructor
  · intro ⟨_, hOutcome⟩
    exact Suite.emitted_eq_of_checkRawCopySequence h.fixture.samples_ne
      (fun _ _ => h.transfers hShared) hOutcome
  · intro ⟨hMoved, hConsumed⟩
    have hBalanced := hMoved.trans hConsumed
    exact (World.checkRawCopySequence_passes (h.supplies d.Agree) trivial (world_serializes hShared)
      (world_writesSome hBalanced) world_creates (world_readsIntoTarget hBalanced).deserializesInto
      (world_rawCopies hMoved)).passes

end Streams

/-! ## Snapshots -/

section Snapshots

variable (hOverlong : d ≠ .overlong)

include hOverlong

theorem checkSnapshotInstantiation_passes : suite.checkSnapshotInstantiation.Passes store :=
  (World.checkSnapshotInstantiation_passes (h.supplies d.Agree) trivial
    (World.ofObjects_snapshots (described hOverlong))
    (World.ofObjects_registers (described hOverlong) h.registered)).passes

/-- A snapshot that rejects every serializer is found, and so is a serializer that differs from whatever its
snapshot restores. -/
theorem checkReconfigure_passes_iff :
    suite.checkReconfigure.Passes store ↔ d ≠ .incompatibleSnapshot ∧ d ≠ .identity := by
  have hDescribed : (contract ofAny).Described (.defective d) (.defective d) [] (· = .defective d) :=
    described hOverlong
  constructor
  · intro hPasses
    refine ⟨?_, ?_⟩
    · intro hIncompatible
      subst hIncompatible
      refine (World.checkReconfigure_fails (h.supplies (Agree .incompatibleSnapshot)) trivial
        (World.ofObjects_snapshots hDescribed) (World.ofObjects_rereadsSnapshots hDescribed h.registered)
        ?_).not_passes hPasses
      intro n x y store property hDescribes _ _
      obtain rfl := hDescribes
      exact World.judgeSnapshot_fails_of_incompatible rfl
    · intro hIdentity
      subst hIdentity
      have hNew (x y : NumberSerializer) (hOrder : x.id < y.id) : y.id ≠ x.id := Nat.ne_of_gt hOrder
      refine (World.checkReconfigure_fails (h.supplies fun x y => x.id ≠ y.id) trivial
        (World.ofObjects_snapshots hDescribed) (World.ofObjects_rereadsSnapshots hDescribed h.registered)
        ?_).not_passes hPasses
      intro n x y store property hDescribes hLive hLive'
      exact World.judgeSnapshot_fails_of_distinguishes
        (World.ofObjects_resolves hDescribed hNew fun y hConfig => .inl (resolve_eq nofun hConfig))
        (World.ofObjects_restores hDescribed hNew) world_distinguishes hDescribes hLive hLive'
  · intro ⟨hIncompatible, hIdentity⟩
    have hNew (x y : NumberSerializer) (_ : x.id < y.id) : d.Agree y x := fun h => absurd h hIdentity
    exact (World.checkReconfigure_passes (h.supplies d.Agree) trivial (World.ofObjects_snapshots hDescribed)
      (World.ofObjects_rereadsSnapshots hDescribed h.registered) (World.ofObjects_restores hDescribed hNew)
      (World.ofObjects_resolves hDescribed hNew fun y hConfig => .inl (resolve_eq hIncompatible hConfig))
      world_compares).passes

/-- Cloning finds only the serializer that equals nothing but itself. -/
theorem checkClone_passes_iff : suite.checkClone.Passes store ↔ d ≠ .identity := by
  have hDescribed : (contract ofAny).Described (.defective d) (.defective d) [] (· = .defective d) :=
    described hOverlong
  constructor
  · intro hPasses hIdentity
    subst hIdentity
    have hNew (x y : NumberSerializer) (hOrder : x.id < y.id) : y.id ≠ x.id := Nat.ne_of_gt hOrder
    exact (World.checkClone_fails (h.supplies fun x y => x.id ≠ y.id) trivial
      (World.ofObjects_snapshots hDescribed) (World.ofObjects_rereadsSnapshots hDescribed h.registered)
      (World.ofObjects_restores hDescribed hNew) (fun _ _ _ => Ne.symm) world_distinguishes).not_passes hPasses
  · intro hIdentity
    have hNew (x y : NumberSerializer) (_ : x.id < y.id) : d.Agree y x := fun h => absurd h hIdentity
    exact (World.checkClone_passes (h.supplies d.Agree) trivial (World.ofObjects_snapshots hDescribed)
      (World.ofObjects_rereadsSnapshots hDescribed h.registered) (World.ofObjects_restores hDescribed hNew)
      world_compares).passes

end Snapshots

/-! ## Duplicates -/

section Duplicates

variable (hShared : d ≠ .sharedScratch)

include hShared

/-- The probe of null finds a wrong length, wrong amounts of bytes, and a missing duplicate. -/
theorem checkNullability_passes_iff : suite.checkNullability.Passes store ↔
    (d.emitted : Int) = d.reported ∧ d.emitted = d.consumed ∧ d ≠ .nullDuplicate := by
  constructor
  · intro ⟨_, hOutcome⟩
    obtain ⟨x, served, hCreated, hProbe⟩ := Suite.probe_of_checkNullability hOutcome
    have hConfig := h.config_of_created hCreated
    have hPositive : 0 < d.reported := by cases d <;> decide
    have hBound : d.reported < 0x7fffffff := by cases d <;> decide
    have hDuplicate (y : NumberSerializer) (duplicated : Store)
        (hDuplicated : ((contract ofAny).duplicate x).outcome served = (.ok (some y), duplicated)) :
        ((contract ofAny).operations y).Transfers d.emitted d.consumed d.moved ∧
          ((contract ofAny).operations y).length = pure d.reported := by
      have hSame := (config_of_duplicate hConfig hDuplicated).1
      refine ⟨NumberSerializer.operations_transfers hShared hSame, ?_⟩
      rw [NumberSerializer.operations_of_defective hSame, NumberSerializer.defective_length]
    obtain ⟨hReported, hBalanced⟩ :=
      Suite.emitted_eq_of_probe h.fixture.samples_ne hPositive hBound hDuplicate hProbe
    obtain ⟨y, duplicated, hDuplicated⟩ := Suite.duplicate_of_probe hProbe
    exact ⟨hReported, hBalanced, (config_of_duplicate hConfig hDuplicated).2⟩
  · intro ⟨hReported, hBalanced, hNull⟩
    have hMeasures : (d.world d.Agree).Measures (contract ofAny) :=
      world_measures (by rw [← hReported, (emitted_eq_four hBalanced).1]; rfl)
    have hLength : (d.world d.Agree).length < 0x7fffffff := (by decide : (4 : Int) < 0x7fffffff)
    have hProbed : suite.checkNullability.Succeeds store fun _ _ => True := by
      apply (h.getSerializer_succeeds _).bind
      intro x served hNew
      have hDuplicate : ((contract ofAny).duplicate x).Succeeds served fun duplicate last =>
          ∃ y, duplicate = some y ∧ (d.world d.Agree).live y last ∧
            (d.world d.Agree).Reports ((contract ofAny).operations x).length last ∧ True := by
        apply (duplicate_succeeds hNull hNew).mono
        intro _ last hDuplicated
        obtain ⟨y, hSome, hLive, hGrows⟩ := hDuplicated
        have hSource : (d.world d.Agree).live x last :=
          (world_keeps hGrows).live x ⟨hNew.config, hNew.id_lt⟩
        exact ⟨y, hSome, hLive, hMeasures.reports hSource, trivial⟩
      refine Suite.reported_succeeds ((World.probe_succeeds (h.supplies d.Agree).judges (fun _ _ _ => Eq.trans)
        (fun _ _ _ _ => trivial) (world_serializes hShared) (world_deserializes hBalanced) world_copies
        world_copiesInto (world_hasLength hBalanced) hMeasures hLength hDuplicate).mono fun _ _ _ => trivial)
    exact hProbed.passes

omit hShared in
/-- The duplicate that is compared is the only one, so there is none for the first worker. -/
theorem checkDuplicate_fails_of_throwing (hThrowing : d = .throwingDuplicate) :
    suite.checkDuplicate.Fails store := by
  subst hThrowing
  apply (h.getSerializer_succeeds _).bind_fails
  intro x served hNew
  refine Suite.guarded_fails ?_
  apply (throwingDuplicate_succeeds hNew.config (by rw [hNew.cell])).bind_fails
  intro _ duplicated hDuplicated
  obtain ⟨y, rfl, hConfig, -, -, hCounted⟩ := hDuplicated
  have hEqual : ((contract ofAny).equals y x).Succeeds duplicated fun equal last =>
      equal = true ∧ last = duplicated := by
    rw [equals_eq (hConfig.trans hNew.config) hNew.config nofun]
    exact Action.pure_succeeds ⟨rfl, rfl⟩
  apply hEqual.bind_fails
  intro _ _ hEqual
  obtain ⟨rfl, rfl⟩ := hEqual
  have hInput : Duplication.checkInput (some x) suite.fixture.samples suite.options = .ok x := by
    simp [Duplication.checkInput, h.fixture.samples_ne, h.fixture.usable]
  apply (Action.ofExcept_succeeds hInput).bind_fails
  intro z _ hChecked
  obtain ⟨rfl, rfl⟩ := hChecked
  exact Duplication.run_fails (RunOptions.workers_ne_zero h.fixture.usable) h.fixture.workers
    (throwingDuplicate_fails hNew.config (hCounted hNew.id_lt))

/-- The check of duplicates finds those that are missing or fail, and a worker that reads more than it wrote. -/
theorem checkDuplicate_passes_iff : suite.checkDuplicate.Passes store ↔
    d.consumed ≤ d.emitted ∧ d ≠ .nullDuplicate ∧ d ≠ .throwingDuplicate := by
  constructor
  · intro hPasses
    obtain ⟨_, hOutcome⟩ := hPasses
    obtain ⟨x, served, hCreated, y, duplicated, hDuplicated, _, -, hRun⟩ :=
      Suite.duplicated_of_checkDuplicate hOutcome
    have hConfig := h.config_of_created hCreated
    have hDuplicate (store : Store) (y : NumberSerializer) (last : Store)
        (hDuplicated : ((contract ofAny).duplicate x).outcome store = (.ok (some y), last)) :
        ((contract ofAny).operations y).Transfers d.emitted d.consumed d.moved :=
      NumberSerializer.operations_transfers hShared (config_of_duplicate hConfig hDuplicated).1
    have hEnough := Duplication.consumed_le_of_run (RunOptions.workers_ne_zero h.fixture.usable)
      h.fixture.samples_ne hDuplicate hRun
    exact ⟨hEnough, (config_of_duplicate hConfig hDuplicated).2, fun hThrowing =>
      (h.checkDuplicate_fails_of_throwing hThrowing).not_passes ⟨_, hOutcome⟩⟩
  · intro ⟨hEnough, hNull, hThrowing⟩
    exact (World.checkDuplicate_passes h.affords (world_duplicates hNull hThrowing) (h.supplies d.Agree)
      (fun _ _ _ => Eq.trans) (fun _ _ _ _ => trivial) (world_serializes hShared) (world_readsOwn hEnough)
      world_copies world_compares trivial).passes

end Duplicates

end Suited

end Defect

end SerializerContract
