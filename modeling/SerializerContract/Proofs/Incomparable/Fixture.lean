import SerializerContract.Proofs.Conformance.Shipped
import SerializerContract.Proofs.Incomparable.Workers

/-! A fixture that lacks a comparator. Types without an equality of their own are compared by what is registered
for them or not at all, and not at all is a defect of the fixture. Checks with a handler of their own put another
finding over it: the workers' and the probe's. -/
namespace SerializerContract

/-- A declared type without an equality of its own; no rule says how its values compare. -/
def ValueType.IsBare : ValueType → Prop
  | .record _ r => r.hasEquality = false
  | _ => False

/-- A checker compares a bare type by a registered comparator or not at all. -/
theorem Checker.equals_of_isBare {checker : Checker} {t : ValueType} (hBare : t.IsBare)
    (hMissing : checker.find t = none) (v w : t.Val) : checker.equals t v w = .error (missing t) := by
  cases t with
  | record name r =>
      have hNone : r.hasEquality = false := hBare
      rw [equals]
      refine (congrFun₂ (orElse_of_find hMissing (recordEqual name r)) v w).trans ?_
      simp [recordEqual, hNone]
  | _ => exact hBare.elim

/-- A suite in which all is in order, but for a comparator that nothing makes up for. -/
structure World.LacksComparator {σ A S N : Type} {t : ValueType} {C : Contract σ A t S N}
    (W : World σ S N t.Val) (suite : Suite C) (comparator : Comparator t) : Prop where
  bare : t.IsBare
  missing : suite.checker.find t = none
  conforms : W.Conforms C suite.registry suite.fixture.acceptsInstance
  /-- With the comparator, the fixture supplies all that the checks ask for. -/
  supplies : W.Supplies (suite.comparing comparator)
  affords : W.Affords suite

/-! ## Points without a comparator -/

namespace PointSerializer

/-- A fixture that registers the snapshots of points, but no comparator. -/
def uncomparedBench : Bench .point where
  blueprints := [.point]
  length := 16
  samples := [⟨0x3ff0000000000000, 0x4000000000000000⟩]
  entries := [.snapshot ⟨.point, ()⟩]

def registry : Registry Store Family.AnySnapshot :=
  Registry.register {} (sampleId "PointSerializerSnapshot") (RegistryEntry.always (some ⟨.point, ()⟩))

def uncomparedSuite : Suite (Family.contract .point) := ⟨uncomparedBench.fixture, {}, registry, {}⟩

theorem registry_registered : Shipped.point.Registered registry := by
  intro store
  apply Contract.instantiate_succeeds
  · exact Registry.find_register _ _
  · exact Action.pure_succeeds ⟨_, _, rfl, rfl, trivial, Nat.le_refl _⟩

/-- With the comparator of coordinates, all checks would pass. -/
def comparedBench : Bench .point := { uncomparedBench with registrations := Shipped.point.comparators }

/-- The bench that registers the comparator is one the point serializer passes on. -/
theorem comparedBench_tests : Shipped.point.Tests comparedBench.fixture {} where
  creates := fun _ => Bench.createSerializer_succeeds rfl (Shipped.point.build_succeeds _)
  length := rfl
  samples_ne := List.cons_ne_nil _ _
  samples := by
    intro v hSample
    obtain rfl := List.mem_singleton.mp hSample
    exact ⟨rfl, rfl⟩
  accepts := rfl
  comparators := rfl
  registers := fun store => ⟨_, store, rfl, registry_registered⟩
  fits := by decide +kernel
  room := fun _ => (by decide : 16 < Bytes.longest)
  usable := rfl
  workers := rfl
  channels := rfl
  threads := fun store => (Bench.startThread_succeeds rfl store).mono fun _ last hStarted =>
    hStarted ▸ Nat.le_refl _

def coordinates : Comparator .point := Comparator.ofBool fun a b =>
  Comparator.doubleSame a.x b.x && Comparator.doubleSame a.y b.y

theorem point_wrappable :
    Shipped.point.world.Wrappable (Family.contract .point) registry Shipped.point.snapshotBytes :=
  Shipped.point.wrappable registry_registered comparedBench_tests.fits

/-- The fixture of points lacks nothing but the comparator of coordinates. -/
theorem uncomparedSuite_lacks : Shipped.point.world.LacksComparator uncomparedSuite coordinates where
  bare := rfl
  missing := rfl
  conforms := point_wrappable.toConforms
  supplies :=
    have h := comparedBench_tests.supplies point_wrappable
    ⟨h.creates, h.length, h.samples, h.compares, h.room⟩
  affords :=
    have h := comparedBench_tests.affords point_wrappable
    ⟨h.usable, h.samples, h.workers, h.channels, h.threads⟩

end PointSerializer

/-! ## A missing comparator -/

namespace World

variable {σ A S N : Type} {t : ValueType} {C : Contract σ A t S N} {W : World σ S N t.Val} {suite : Suite C}
    {comparator : Comparator t} {state : σ}

open SerializerContract.PointSerializer

namespace LacksComparator

variable (h : W.LacksComparator suite comparator) (hValid : W.valid state)

include h

/-- Without the comparator every comparison of two points is a fixture failure. -/
theorem equals_throws (v w : t.Val) : suite.checker.equals t v w = .error (Checker.missing t) :=
  Checker.equals_of_isBare h.bare h.missing v w

include hValid

/-- The checks of copies and of streams end with the finding about the fixture. -/
theorem valueChecks_throw {check : Suite C → Action σ Unit} (hCheck : check ∈ Suite.valueChecks) :
    (check suite).Throws state (Checker.missing t) := by
  obtain ⟨property, hProperty, hSame⟩ := (suite.comparing comparator).property_of_valueChecks hCheck
  have hConforms : W.Conforms C (suite.comparing comparator).registry
    (suite.comparing comparator).fixture.acceptsInstance := h.conforms
  have hAffords : W.Affords (suite.comparing comparator) :=
    ⟨h.affords.usable, h.affords.samples, h.affords.workers, h.affords.channels, h.affords.threads⟩
  have hPasses := properties_pass hConforms h.supplies hAffords hValid property hProperty
  rw [hSame] at hPasses
  exact (Suite.valueChecks_throwInstead h.equals_throws rfl h.affords.samples check hCheck).throws hPasses

/-- The check of duplicates puts the finding about the first worker over it. -/
theorem checkDuplicate_throws : suite.checkDuplicate.Throws state
    (Duplication.workerFailed suite.options.workers 0 (Checker.missing t)) :=
  World.checkDuplicate_throws h.equals_throws h.conforms.like_trans h.conforms.domain_like h.supplies
    h.conforms.serializes h.conforms.deserializes.readsOwn h.conforms.copies h.affords h.conforms.duplicates
    h.conforms.compares hValid

/-- The nullability check puts a finding about the serializer over it. -/
theorem checkNullability_throws : suite.checkNullability.Throws state ((Checker.missing t).wrap
    (.finding .contract "nullability"
      ("Unexpected failure of null value handling: " ++ (Checker.missing t).message))) :=
  (Suite.checkNullability_throwsInstead h.equals_throws h.affords.samples).throws
    (checkNullability_passes h.conforms.like_trans h.conforms.domain_like h.conforms.serializes
      h.conforms.deserializes h.conforms.copies h.conforms.copiesInto h.conforms.hasLength h.supplies
      h.conforms.measures h.conforms.duplicates h.conforms.length_lt hValid)

end LacksComparator

/-- If all that a suite lacks is a comparator, then every check that compares values says so. The checks of
copies and of streams end with the finding that the fixture lacks it. The check of duplicates ends with a finding
of its own, over that one alone; whatever turns workers take, each of them fails in its fourth, and just so. The
nullability check ends with that finding too, or with others over it. -/
theorem missing_comparator_found (h : W.LacksComparator suite comparator) (hValid : W.valid state) :
    (∀ check ∈ Suite.valueChecks, (check suite).Throws state (Checker.missing t)) ∧
    suite.checkDuplicate.Throws state (Duplication.workerFailed suite.options.workers 0 (Checker.missing t)) ∧
    (∀ (serializers : List (S × List t.Val)) (schedule : List Nat),
      (∀ entry ∈ serializers, W.live entry.1 state ∧ entry.2 ≠ [] ∧
        ∀ v ∈ entry.2, v ∈ suite.fixture.samples) →
      ∀ i worker, (Duplication.follow C suite.checker schedule (serializers.map fun entry =>
          { serializer := entry.1, samples := entry.2 }) state).1[i]? = some worker →
        worker.failure = if 4 ≤ schedule.count i then some (Checker.missing t) else none) ∧
    ∃ failure, suite.checkNullability.Throws state failure ∧
      (Checker.missing t).fault ∈ failure.fault :: failure.causes := by
  refine ⟨fun check hCheck => h.valueChecks_throw hValid hCheck, h.checkDuplicate_throws hValid, ?workers,
    _, h.checkNullability_throws hValid, List.mem_cons_of_mem _ List.mem_cons_self⟩
  intro serializers schedule hFresh i worker hFound
  exact failure_of_follow h.equals_throws h.conforms.like_trans h.conforms.domain_like h.supplies
    h.conforms.serializes h.conforms.deserializes.readsOwn h.conforms.copies serializers schedule hFresh hFound

/-- What the checks say about points without a comparator. -/
theorem missing_comparator_found_points :
    Shipped.point.world.LacksComparator uncomparedSuite coordinates ∧ Shipped.point.world.valid {} ∧
    (∀ check ∈ Suite.valueChecks, (check uncomparedSuite).Throws {} (Checker.missing .point)) ∧
    uncomparedSuite.checkDuplicate.Throws {} (Duplication.workerFailed 10 0 (Checker.missing .point)) := by
  have hValid : Shipped.point.world.valid {} := trivial
  obtain ⟨hValues, hDuplicate, -⟩ := missing_comparator_found uncomparedSuite_lacks hValid
  exact ⟨uncomparedSuite_lacks, hValid, hValues, hDuplicate⟩

/-- Two checks of points without a comparator do not end with the finding about the fixture: one blames the
serializer, the other tells of a worker. -/
theorem missing_comparator_covered_points :
    Shipped.point.world.LacksComparator uncomparedSuite coordinates ∧
    uncomparedSuite.checkNullability.Throws {} ((Checker.missing .point).wrap (.finding .contract "nullability"
      ("Unexpected failure of null value handling: " ++ (Checker.missing .point).message))) ∧
    uncomparedSuite.checkDuplicate.Throws {} ((Checker.missing .point).wrap (.finding (.concurrent 0) "duplicate"
      ("Worker 0 of 10 failed: " ++ (Checker.missing .point).describe))) ∧
    ¬ ∃ property message causes,
      uncomparedSuite.checkNullability.Throws {} ⟨.finding .fixture property message, causes⟩ ∨
        uncomparedSuite.checkDuplicate.Throws {} ⟨.finding .fixture property message, causes⟩ := by
  have hValid : Shipped.point.world.valid {} := trivial
  have hNullability := uncomparedSuite_lacks.checkNullability_throws hValid
  have hDuplicate := uncomparedSuite_lacks.checkDuplicate_throws hValid
  refine ⟨uncomparedSuite_lacks, hNullability, hDuplicate, ?_⟩
  rintro ⟨property, message, causes, hFixture | hFixture⟩
  · nomatch hNullability.unique hFixture
  · nomatch hDuplicate.unique hFixture

end World

end SerializerContract
