import SerializerContract.Proofs.Detection.Faulty
import SerializerContract.Proofs.Detection.Stale
import SerializerContract.Proofs.Suite.Bench
import SerializerContract.SelfCheck.Faults

/-! The detection matrix. -/
namespace SerializerContract

namespace Defect

/-- The checks that reading something else than what was written fails. -/
def unbalanced : List String := [
  "serialize individually", "serialize individually reusing values", "serialize as sequence no reuse",
  "serialize as sequence reusing values", "serialized copy individually", "serialized copy as sequence",
  "nullability"]

/-- The checks that find a defect. -/
def detectedBy : Defect → List String
  | .wrongLength => ["get length", "nullability"]
  | .brokenRawCopy => ["serialized copy individually", "serialized copy as sequence"]
  | .incompatibleSnapshot => ["snapshot configuration and reconfigure"]
  | .identity => ["snapshot configuration and reconfigure", "serializability and equals"]
  | .nullDuplicate => ["nullability", "duplicate"]
  | .throwingDuplicate => ["duplicate"]
  | .trailingByte | .doubleWrite => unbalanced
  | .silent | .greedyRead => "duplicate" :: unbalanced
  | .sharedScratch | .overlong => []

open NumberSerializer (contract)

variable {A : Type} {ofAny : A → Option NumberSnapshot} {d : Defect} {suite : Suite (contract ofAny)}

/-- Each check fails exactly if the matrix lists it for the defect. -/
theorem Suited.properties_pass_iff (h : d.Suited suite) (hShared : d ≠ .sharedScratch)
    (hOverlong : d ≠ .overlong) :
    ∀ property ∈ suite.properties, ∀ store,
      property.check.Passes store ↔ property.name ∉ d.detectedBy := by
  simp only [Suite.properties, List.forall_mem_cons]
  refine ⟨fun _ => (iff_true_intro h.checkInstantiate_passes).trans ?_,
    fun _ => (iff_true_intro (h.checkSnapshotInstantiation_passes hOverlong)).trans ?_,
    fun _ => (h.checkReconfigure_passes_iff hOverlong).trans ?_,
    fun _ => h.checkLength_passes_iff.trans ?_,
    fun _ => (iff_true_intro h.checkCopy_passes).trans ?_,
    fun _ => (iff_true_intro h.checkCopyIntoNew_passes).trans ?_,
    fun _ => (iff_true_intro h.checkCopyIntoReused_passes).trans ?_,
    fun _ => (h.checkIndividually_passes_iff hShared).trans ?_,
    fun _ => (h.checkIndividuallyReusing_passes_iff hShared).trans ?_,
    fun _ => (h.checkSequence_passes_iff hShared).trans ?_,
    fun _ => (h.checkSequenceReusing_passes_iff hShared).trans ?_,
    fun _ => (h.checkRawCopy_passes_iff hShared).trans ?_,
    fun _ => (h.checkRawCopySequence_passes_iff hShared).trans ?_,
    fun _ => (h.checkClone_passes_iff hOverlong).trans ?_,
    fun _ => (h.checkNullability_passes_iff hShared).trans ?_,
    fun _ => (h.checkDuplicate_passes_iff hShared).trans ?_, List.forall_mem_nil _⟩
  -- What is left is one row of the matrix for each defect.
  all_goals cases d <;> first | decide | exact absurd rfl hOverlong

end Defect

/-- Every bench of a defect is one that the matrix is about. -/
theorem Defect.faulty_tests {d : Defect} (hOverlong : d ≠ .overlong) {samples : List (BitVec 32)}
    (hSamples : samples ≠ []) (hRoom : samples.length * 8 < Bytes.longest) {options : RunOptions}
    (hUsable : options.isUsable = true) (hWorkers : Duplication.reserve options.workers = .ok ())
    (hChannels : OutputChannel.reserve options.capacity = .ok ()) :
    d.Tests (SelfCheck.faulty d samples).fixture options where
  creates := by
    intro store
    have hBench : (SelfCheck.faulty d samples).blueprints = [.number (.defective d)] := rfl
    apply Bench.createSerializer_succeeds hBench
    apply (Object.build_succeeds (NumberKind.defective d) _).mono
    intro created last hCreated
    obtain ⟨x, hSome, hNew⟩ := hCreated
    exact ⟨x, hSome, hNew.of_cells rfl⟩
  samples_ne := hSamples
  accepts := rfl
  comparators := rfl
  registers := by
    intro store
    refine Bench.registry_succeeds rfl rfl (fun store => Blueprint.snapshot_succeeds ?_) store
    apply (Object.build_succeeds (NumberKind.defective d) store).mono
    intro created last hCreated
    obtain ⟨x, hSome, hNew⟩ := hCreated
    exact ⟨x, hSome, (Defect.described hOverlong).takes x hNew.config, hNew.grows⟩
  usable := hUsable
  workers := hWorkers
  channels := hChannels
  threads := fun store => (Bench.startThread_succeeds rfl store).mono fun _ _ h => h ▸ Nat.le_refl _
  length := rfl
  room := hRoom

/-- The bench of stale serializers with other samples. -/
def NumbersSerializer.staleWith (samples : List (List (BitVec 64))) : Bench .numbers :=
  { SelfCheck.staleBench with samples := samples }

/-- Lists that fit their length fields test the serializer that keeps stale elements. -/
theorem NumbersSerializer.stale_tests {samples : List (List (BitVec 64))} (hSamples : samples ≠ [])
    (hLengths : ∀ v ∈ samples, v.length ≤ Width.w32.maximum)
    (hRoom : (samples.flatMap numbersBytes).length < Bytes.longest)
    {options : RunOptions} (hUsable : options.isUsable = true)
    (hWorkers : Duplication.reserve options.workers = .ok ())
    (hChannels : OutputChannel.reserve options.capacity = .ok ()) :
    StaleTests (staleWith samples).fixture options where
  creates := by
    intro store
    have hBench : (staleWith samples).blueprints = [.numbers .stale] := rfl
    apply Bench.createSerializer_succeeds hBench
    apply (Object.build_succeeds NumbersKind.stale _).mono
    intro created last hCreated
    obtain ⟨x, hSome, hNew⟩ := hCreated
    exact ⟨x, hSome, hNew.of_cells rfl⟩
  samples_ne := hSamples
  accepts := rfl
  comparators := rfl
  registers := by
    intro store
    refine Bench.registry_succeeds rfl rfl (fun store => Blueprint.snapshot_succeeds ?_) store
    apply (Object.build_succeeds NumbersKind.stale store).mono
    intro created last hCreated
    obtain ⟨x, hSome, hNew⟩ := hCreated
    exact ⟨x, hSome, (described .stale).takes x hNew.config, hNew.grows⟩
  usable := hUsable
  workers := hWorkers
  channels := hChannels
  threads := fun store => (Bench.startThread_succeeds rfl store).mono fun _ _ h => h ▸ Nat.le_refl _
  length := rfl
  samples := hLengths
  room := hRoom

end SerializerContract
