import SerializerContract.Proofs.Checker
import SerializerContract.Proofs.Conformance.Numbers
import SerializerContract.Proofs.Detection.Checks
import SerializerContract.Proofs.Detection.Fixtures

/-! Serializers of lists that keep the old contents of a reuse target. A target keeps the first list that is
not empty, so copies into it are wrong exactly if a later sample differs from that one. The duplicates are
plain, and differ from what they are duplicates of. -/
namespace SerializerContract

namespace Suite

variable {σ A S N : Type} {t : ValueType} {C : Contract σ A t S N} {suite : Suite C} {state last : σ}

/-- A copy passes exactly if it can be made and is deeply equal to the sample. -/
theorem compareCopy_ok_iff {property : String} {operations : Operations σ t.Val} {target v held : t.Val} :
    (suite.compareCopy property operations target v).outcome state = (.ok held, last) ↔
      ∃ returned, (operations.copyInto v).outcome (target, state) = (.ok returned, (held, last)) ∧
        suite.checker.equals t v (returned.value held) = .ok true := by
  rw [compareCopy, Action.bind_ok_iff]
  constructor
  · intro h
    obtain ⟨⟨returned, copied⟩, middle, hCopied, hRest⟩ := h
    obtain ⟨_, hCompared, hHeld⟩ := Action.then_ok_iff.mp hRest
    obtain ⟨hEqual, rfl⟩ := deepEquals_ok_iff.mp hCompared
    obtain ⟨rfl, rfl⟩ := hHeld
    exact ⟨returned, Action.withLocal_ok_iff.mp hCopied, hEqual⟩
  · intro h
    obtain ⟨returned, hCopied, hEqual⟩ := h
    exact ⟨(returned, held), last, Action.withLocal_ok_iff.mpr hCopied,
      Action.then_ok_iff.mpr ⟨last, deepEquals_ok_iff.mpr ⟨hEqual, rfl⟩, rfl⟩⟩

/-- Copies into one value pass exactly if the first one does and the others do from what it left. -/
theorem copyReusing_cons_passes_iff {property : String} {operations : Operations σ t.Val} {target v : t.Val}
    {rest : List t.Val} :
    (suite.copyReusing property operations target (v :: rest)).Passes state ↔
      ∃ held middle, (suite.compareCopy property operations target v).outcome state = (.ok held, middle) ∧
        (suite.copyReusing property operations held rest).Passes middle := by
  simp only [Action.Passes, copyReusing, Action.bind_ok_iff]
  constructor
  · intro h
    obtain ⟨last, held, middle, hFirst, hRest⟩ := h
    exact ⟨held, middle, hFirst, last, hRest⟩
  · intro h
    obtain ⟨held, middle, hFirst, last, hRest⟩ := h
    exact ⟨last, held, middle, hFirst, hRest⟩

end Suite

namespace NumbersSerializer

variable {A : Type} {ofAny : A → Option NumbersKind} {suite : Suite (contract ofAny)} {store last : Store}
    {x : NumbersSerializer}

theorem create_outcome : ((contract ofAny).operations x).create.outcome store = (.ok [], store) := by
  obtain ⟨id, _ | _⟩ := x <;> rfl

/-- The stale serializer copies only into an empty list. -/
theorem copyInto_of_stale (hConfig : x.config = .stale) :
    ((contract ofAny).operations x).copyInto = copyIfEmpty := by
  change (operations x).copyInto = _
  rw [operations, hConfig]

/-- A copy is right if the target was empty, or held the value already. -/
theorem compareCopy_ok_iff (hChecker : suite.checker = {}) (hConfig : x.config = .stale) {property : String}
    {target v held : List (BitVec 64)} :
    (suite.compareCopy property ((contract ofAny).operations x) target v).outcome store = (.ok held, last) ↔
      (target = [] ∨ v = target) ∧ held = v ∧ last = store := by
  refine Suite.compareCopy_ok_iff.trans ?_
  have hEqual (w : List (BitVec 64)) : suite.checker.equals .int64s v w = .ok true ↔ v = w := by
    rw [hChecker, Checker.equals_int64s, Except.ok.injEq, decide_eq_true_iff]
  rw [copyInto_of_stale hConfig]
  constructor
  · intro h
    obtain ⟨returned, hCopied, hSame⟩ := h
    obtain ⟨hReturned, hHeld⟩ := Prod.mk.inj hCopied
    obtain ⟨rfl, rfl⟩ := Prod.mk.inj hHeld
    obtain rfl := Except.ok.inj hReturned
    have hSame := (hEqual _).mp hSame
    cases target with
    | nil => exact ⟨.inl rfl, rfl, rfl⟩
    | cons first rest => exact ⟨.inr hSame, hSame.symm, rfl⟩
  · intro h
    obtain ⟨hTarget, rfl, rfl⟩ := h
    refine ⟨.target, ?_, (hEqual held).mpr rfl⟩
    rcases hTarget with rfl | rfl
    · rfl
    · cases held <;> rfl

/-- Once a reuse target holds something, every later sample must be the same. -/
theorem copyReusing_passes_iff (hChecker : suite.checker = {}) (hConfig : x.config = .stale) {property : String}
    (held : List (BitVec 64)) (samples : List (List (BitVec 64))) :
    (suite.copyReusing property ((contract ofAny).operations x) held samples).Passes store ↔
      (held :: samples).Pairwise fun v w => v = [] ∨ w = v := by
  induction samples generalizing held with
  | nil => exact ⟨fun _ => List.pairwise_singleton _ _, fun _ => ⟨store, rfl⟩⟩
  | cons v rest ih =>
      refine Suite.copyReusing_cons_passes_iff.trans ?_
      constructor
      · intro h
        obtain ⟨copied, middle, hCopied, hRest⟩ := h
        obtain ⟨hTarget, rfl, rfl⟩ := (compareCopy_ok_iff hChecker hConfig).mp hCopied
        have hRest := (ih _).mp hRest
        refine List.pairwise_cons.mpr ⟨fun w hw => ?_, hRest⟩
        rcases hTarget with rfl | rfl
        · exact .inl rfl
        · rcases List.mem_cons.mp hw with rfl | hw
          · exact .inr rfl
          · exact (List.pairwise_cons.mp hRest).1 w hw
      · intro h
        obtain ⟨hHead, hRest⟩ := List.pairwise_cons.mp h
        exact ⟨v, store, (compareCopy_ok_iff hChecker hConfig).mpr ⟨hHead v List.mem_cons_self, rfl, rfl⟩,
          (ih v).mpr hRest⟩

theorem resolve_stale (hConfig : x.config = .stale) : (contract ofAny).resolve .stale x = pure .asIs := by
  obtain ⟨id, _⟩ := x
  obtain rfl := hConfig
  rfl

theorem stale_compares : (world .stale).Compares (contract ofAny) where
  symm := fun _ _ _ => id
  equals := by
    intro x y store hLive hLive' _
    have hSame : (x.config == y.config) = true := by rw [hLive.1, hLive'.1]; rfl
    exact Action.pure_succeeds ⟨hSame, World.Keeps.refl _ store⟩

/-! ## The suite -/

/-- A fixture that is about stale serializers, and about lists whose lengths can be written. -/
structure StaleTests (fixture : Fixture (contract ofAny)) (options : RunOptions) : Prop
    extends fixture.Presents options .stale .stale where
  length : fixture.length = variableLength
  samples : ∀ v ∈ fixture.samples, List.length (α := BitVec 64) v ≤ Width.w32.maximum
  /-- There is room for all samples in one channel. -/
  room : (fixture.samples.flatMap numbersBytes).length < Bytes.longest

/-- A suite that was prepared from such a fixture. -/
structure StaleSuited (suite : Suite (contract ofAny)) : Prop extends suite.Presents .stale .stale where
  length : suite.fixture.length = variableLength
  samples : ∀ v ∈ suite.fixture.samples, List.length (α := BitVec 64) v ≤ Width.w32.maximum
  room : (suite.fixture.samples.flatMap numbersBytes).length < Bytes.longest

/-- The suite that is prepared for the stale serializer fits it. -/
theorem StaleTests.suited {fixture : Fixture (contract ofAny)} {options : RunOptions}
    (h : StaleTests fixture options) (store : Store) :
    (Suite.prepare fixture {} options).Succeeds store fun suite _ =>
      suite.fixture = fixture ∧ StaleSuited suite := by
  apply (Suite.presents_of_prepare h.toPresents store).mono
  intro suite _ hPrepared
  obtain ⟨rfl, hPresents⟩ := hPrepared
  exact ⟨rfl, hPresents, h.length, h.samples, h.room⟩

/-- The checks that find a stale serializer with some samples. -/
def detectedBy (samples : List (List (BitVec 64))) : List String :=
  if samples.Pairwise fun v w => v = [] ∨ w = v then ["duplicate"] else
    ["copy into reused elements", "duplicate"]

/-- Whether stale elements are seen depends on whether a sample follows a different one that is not empty. -/
theorem detectedBy_cases (samples : List (List (BitVec 64))) :
    samples.Pairwise (fun v w => v = [] ∨ w = v) ∧ detectedBy samples = ["duplicate"] ∨
      ¬ samples.Pairwise (fun v w => v = [] ∨ w = v) ∧
        detectedBy samples = ["copy into reused elements", "duplicate"] := by
  unfold detectedBy
  by_cases hAll : samples.Pairwise fun v w => v = [] ∨ w = v
  · exact .inl ⟨hAll, if_pos hAll⟩
  · exact .inr ⟨hAll, if_neg hAll⟩

namespace StaleSuited

variable (h : StaleSuited suite)

include h

theorem supplies : (world .stale).Supplies suite := by
  refine h.toPresents.supplies h.length h.samples ?_ h.room
  intro v w _ hLike
  obtain rfl : v = w := hLike
  exact (Checker.equals_int64s v v).trans (Checker.decide_self (α := List (BitVec 64)) v)

/-- Plain serializers are about the same samples. -/
theorem judges : (world .plain).Judges suite where
  samples := h.supplies.samples
  compares := h.supplies.compares
  room := fun _ _ _ _ hv =>
    Nat.lt_of_le_of_lt (List.sublist_flatten_of_mem (List.mem_map_of_mem hv)).length_le h.room

theorem checkCopyIntoNew_passes : suite.checkCopyIntoNew.Passes store := by
  refine (World.Supplies.check_passes h.supplies (fun x served _ hLive => ?_) trivial).passes
  refine Action.forM_succeeds (fun v _ before hBefore => ?_) (World.Keeps.refl _ served)
  refine ⟨(), before, Action.bind_ok_iff.mpr ⟨[], before, create_outcome, ?_⟩, hBefore⟩
  exact Action.bind_ok_iff.mpr ⟨v, before, (compareCopy_ok_iff h.checker hLive.1).mpr ⟨.inl rfl, rfl, rfl⟩, rfl⟩

/-- Stale elements go unseen exactly if no sample differs from one before it that is not empty. -/
theorem checkCopyIntoReused_passes_iff :
    suite.checkCopyIntoReused.Passes store ↔ suite.fixture.samples.Pairwise fun v w => v = [] ∨ w = v := by
  have hStart : ([] :: suite.fixture.samples).Pairwise (fun v w : List (BitVec 64) => v = [] ∨ w = v) ↔
      suite.fixture.samples.Pairwise fun v w => v = [] ∨ w = v :=
    ⟨fun hAll => (List.pairwise_cons.mp hAll).2, fun hAll => List.pairwise_cons.mpr ⟨fun _ _ => .inl rfl, hAll⟩⟩
  rw [← hStart]
  constructor
  · intro hPasses
    obtain ⟨last, hOutcome⟩ := hPasses
    obtain ⟨x, served, hCreated, hRest⟩ := Suite.getSerializer_guarded_ok_iff.mp hOutcome
    obtain ⟨target, created, hTarget, hCopied⟩ := Action.bind_ok_iff.mp hRest
    obtain ⟨hEmpty, rfl⟩ := Prod.mk.inj (create_outcome.symm.trans hTarget)
    obtain rfl := Except.ok.inj hEmpty
    exact (copyReusing_passes_iff h.checker (h.config_of_created hCreated) [] _).mp ⟨last, hCopied⟩
  · intro hAll
    obtain ⟨_, served, hCreated, x, rfl, hNew⟩ := h.fixture.creates store
    obtain ⟨last, hCopied⟩ := (copyReusing_passes_iff h.checker hNew.config [] _).mpr hAll
    exact ⟨last, Suite.getSerializer_guarded_ok_iff.mpr
      ⟨x, served, hCreated, Action.bind_ok_iff.mpr ⟨[], served, create_outcome, hCopied⟩⟩⟩

/-- The probe is about a duplicate, which is plain. -/
theorem checkNullability_passes : suite.checkNullability.Passes store := by
  have hPlain : (world .plain).Handles (contract ofAny) := world_handles
  have hProbed : suite.checkNullability.Succeeds store fun _ _ => True := by
    apply (h.getSerializer_succeeds _).bind
    intro x served _
    have hDuplicate : ((contract ofAny).duplicate x).Succeeds served fun duplicate last =>
        ∃ y, duplicate = some y ∧ (world .plain).live y last ∧
          (world .plain).Reports ((contract ofAny).operations x).length last ∧ True := by
      apply (Object.make_succeeds NumbersKind.plain served).bind
      intro y last hMade
      refine Action.pure_succeeds ⟨y, rfl, ⟨hMade.config, hMade.id_lt⟩, fun later hLater => ?_, trivial⟩
      rw [operations_eq]
      exact Action.pure_succeeds ⟨rfl, hLater⟩
    exact Suite.reported_succeeds ((World.probe_succeeds h.judges hPlain.like_trans hPlain.domain_like
      hPlain.serializes hPlain.deserializes hPlain.copies hPlain.copiesInto hPlain.hasLength hPlain.measures
      hPlain.length_lt hDuplicate).mono fun _ _ _ => trivial)
  exact hProbed.passes

/-- A duplicate is plain, so it differs. -/
theorem checkDuplicate_fails : suite.checkDuplicate.Fails store := by
  refine World.checkDuplicate_fails h.supplies trivial fun x store hLive => ?_
  apply (Object.make_succeeds NumbersKind.plain store).bind
  intro y last hMade
  refine Action.pure_succeeds fun z hSome => ?_
  obtain rfl := Option.some.inj hSome
  have hOther : (y.config == x.config) = false := by rw [hMade.config, hLive.1]; rfl
  exact Action.pure_succeeds hOther

/-- Every check but two passes, and one of these two depends on the samples. -/
theorem properties_pass_iff : ∀ property ∈ suite.properties, ∀ store,
    property.check.Passes store ↔ property.name ∉ detectedBy suite.fixture.samples := by
  have hCreates : (world .stale).Creates (contract ofAny) suite.fixture.acceptsInstance := by
    rw [h.fixture.accepts]
    exact world_creates
  have hReads : (world .stale).DeserializesInto (contract ofAny) := world_readsIntoTarget.deserializesInto
  have hSnapshots : (world .stale).Snapshots (contract ofAny) := World.ofObjects_snapshots (described .stale)
  have hRegisters : (world .stale).Registers (contract ofAny) suite.registry :=
    World.ofObjects_registers (described .stale) h.registered
  have hRereads : (world .stale).RereadsSnapshots (contract ofAny) suite.registry :=
    World.ofObjects_rereadsSnapshots (described .stale) h.registered
  have hRestores : (world .stale).Restores (contract ofAny) :=
    World.ofObjects_restores (described .stale) fun _ _ _ => trivial
  have hResolves : (world .stale).Resolves (contract ofAny) :=
    World.ofObjects_resolves (described .stale) (fun _ _ _ => trivial) fun _ hConfig =>
      .inl (resolve_stale hConfig)
  simp only [Suite.properties, List.forall_mem_cons]
  refine ⟨fun _ => (iff_true_intro (World.checkInstantiate_passes h.supplies trivial hCreates).passes).trans ?_,
    fun _ => (iff_true_intro (World.checkSnapshotInstantiation_passes h.supplies trivial hSnapshots
      hRegisters).passes).trans ?_,
    fun _ => (iff_true_intro (World.checkReconfigure_passes h.supplies trivial hSnapshots hRereads hRestores
      hResolves stale_compares).passes).trans ?_,
    fun _ => (iff_true_intro (World.checkLength_passes h.supplies trivial world_measures
      (by decide : variableLength ≠ 0)).passes).trans ?_,
    fun _ => (iff_true_intro (World.checkCopy_passes h.supplies trivial world_copies).passes).trans ?_,
    fun _ => (iff_true_intro h.checkCopyIntoNew_passes).trans ?_,
    fun _ => h.checkCopyIntoReused_passes_iff.trans ?_,
    fun _ => (iff_true_intro (World.checkIndividually_passes h.supplies trivial world_serializes
      world_writesSome hCreates hReads).passes).trans ?_,
    fun _ => (iff_true_intro (World.checkIndividuallyReusing_passes h.supplies trivial world_serializes
      world_writesSome hCreates hReads).passes).trans ?_,
    fun _ => (iff_true_intro (World.checkSequence_passes h.supplies trivial world_serializes
      world_writesSome world_deserializes).passes).trans ?_,
    fun _ => (iff_true_intro (World.checkSequenceReusing_passes h.supplies trivial world_serializes
      world_writesSome hCreates hReads).passes).trans ?_,
    fun _ => (iff_true_intro (World.checkRawCopy_passes h.supplies trivial world_serializes
      world_writesSome hCreates hReads world_rawCopies).passes).trans ?_,
    fun _ => (iff_true_intro (World.checkRawCopySequence_passes h.supplies trivial world_serializes
      world_writesSome hCreates hReads world_rawCopies).passes).trans ?_,
    fun _ => (iff_true_intro (World.checkClone_passes h.supplies trivial hSnapshots hRereads hRestores
      stale_compares).passes).trans ?_,
    fun _ => (iff_true_intro h.checkNullability_passes).trans ?_,
    fun _ => (iff_false_intro h.checkDuplicate_fails.not_passes).trans ?_, List.forall_mem_nil _⟩
  -- What is left is the row of the matrix, in either case.
  all_goals rcases detectedBy_cases suite.fixture.samples with ⟨hAll, hDetected⟩ | ⟨hAll, hDetected⟩ <;>
    rw [hDetected]
  all_goals first | decide | exact iff_of_true hAll (by decide) | exact iff_of_false hAll (by decide)

end StaleSuited

end NumbersSerializer

end SerializerContract
