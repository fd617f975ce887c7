import SerializerContract.SelfCheck.Equality
import SerializerContract.SelfCheck.Snapshots
import SerializerContract.Suite.Bench

/-!
# Scenarios about conforming serializers

A fixture for each sample serializer, whose every check must pass; and the suite itself.
-/

namespace SerializerContract.SelfCheck

open Scenario

/-! ## Fixtures -/

def numberSamples : List (BitVec 32) := words [0, 1, -1, 0x7fffffff]

def numberBench : Bench .number where
  blueprints := [.number .plain]
  length := 4
  samples := numberSamples
  entries := [.snapshot emptyNumber]

def textBench : Bench .text where
  blueprints := [.text .unbounded]
  length := variableLength
  samples := [text "", text "a", text "conformance", List.replicate 300 120, [0, 1, 2]]
  entries := [.snapshot emptyText]

def int64s (ns : List Int) : List (BitVec 64) := ns.map (BitVec.ofInt 64)

def numbersBench : Bench .numbers where
  blueprints := [.numbers .plain]
  length := variableLength
  samples := [int64s [], int64s [1, 2, 3], int64s [-5], int64s [-0x8000000000000000, 0, 0x7fffffffffffffff]]
  entries := [.snapshot ⟨.numbers, NumbersKind.plain⟩]

def pointBench : Bench .point where
  blueprints := [.point]
  length := 16
  samples := [(⟨Double.zero, Double.zero⟩ : Point), ⟨Double.oneAndAHalf, Double.minusTwoAndAHalf⟩,
    ⟨Double.largest, Double.smallest⟩]
  entries := [.snapshot ⟨.point, ()⟩]
  registrations := [⟨.point, samePoint⟩]

def boundedBench : Bench .text where
  blueprints := [.text (.bounded 16)]
  length := variableLength
  samples := [text "", text "bounded", List.replicate 16 98]
  entries := [.snapshot emptyBounded]

def circleBench : Bench .circle where
  blueprints := [.circle]
  length := 8
  samples := [some (CircleSerializer.circle Double.half), some (CircleSerializer.circle Double.minusThree),
    some (CircleSerializer.circle Double.huge)]
  entries := [.snapshot ⟨.circle, ()⟩]
  registrations := [⟨.circle, Comparator.ofBool Comparator.doubleSame⟩]

def optionalBench : Bench (.nullable .number) where
  blueprints := [.wrapped (.number .plain) true]
  length := 5
  samples := [none, some (word 0), some (word (-1)), some (word (-0x80000000))]
  entries := [.snapshot ⟨.nullable .number, ({} : WrapperSnapshot NumberSnapshot)⟩, .snapshot emptyNumber]

/-! ## Every check of a fixture -/

def suiteOf {f : Family} (bench : Bench f) (checker : Checker := {}) (options : RunOptions := {}) :
    Scenario (Suite f.contract) := onStore (Suite.prepare bench.fixture checker options)

def checkSection (property : Property Store) : Scenario Unit :=
  inSection property.name do
    let result ← onStore (ExceptT.lift property.run)
    info result.message
    holds result.passed

def conforms {f : Family} (bench : Bench f) : Scenario Unit := do
  (← suiteOf bench).properties.forM checkSection

/-! ## The suite -/

def differsFromAll (name : String) (others : List String) : Scenario Unit :=
  others.forM fun other => claim (.different (.text name) (.text other)) (name != other)

def allDiffer : List String → Scenario Unit
  | [] => return ()
  | name :: rest => do
    differsFromAll name rest
    allDiffer rest

def listedOnce : Scenario Unit := do
  let names := (← suiteOf numberBench).properties.map (·.name)
  equalNumbers names.length 16
  allDiffer names

def reported {f : Family} (suite : Suite f.contract) : Scenario SuiteReport :=
  onStore (ExceptT.lift suite.runAll)

def reportOfConforming : Scenario Unit := do
  let report ← reported (← suiteOf numberBench)
  holds report.passed
  equalNumbers report.failureCount 0
  equalNumbers report.results.length 16
  match report.find "copy into reused elements" with
  | some result =>
    claim (.different .reference .null) true
    holds result.passed
  | none => claim (.different .null .null) false
  match report.find "no such property" with
  | some _ => claim (.equal .reference .null) false
  | none => claim (.equal .null .null) true

def customOptions : Scenario Unit := do
  let options : RunOptions := { workers := 2, duration := 10 }
  let suite ← suiteOf numberBench {} options
  equalNumbers suite.fixture.samples.length 4
  succeeds (← tryOnStore suite.checkDuplicate)
  fails (ofFinding .fixture)
    (← tryOnStore (Suite.prepare numberBench.fixture {} { options with duration := 0 }))

def derivedInstance : Scenario Unit := do
  let suite ← suiteOf circleBench
  let created ← onStore (CircleSerializer.operations (σ := Store)).create
  equalTexts (ValueType.shapePointer.runtime created).name ValueType.circle.name
  succeeds (← tryOnStore suite.checkInstantiate)

def keptComparators : Scenario Unit := do
  let checker := Checker.register {} .int32 (Comparator.on fun v => Scalar.int32.toInt v)
  let suite ← suiteOf pointBench checker
  holds (suite.checker.hasComparator .int32)
  holds (suite.checker.hasComparator .point)

def suites : Scenario Unit := do
  inSection "Every property is listed once" listedOnce
  inSection "Report of a conforming serializer" reportOfConforming
  inSection "Custom options" customOptions
  inSection "Instance of a derived type" derivedInstance
  inSection "Comparators of the checker are kept" keptComparators

end SerializerContract.SelfCheck
