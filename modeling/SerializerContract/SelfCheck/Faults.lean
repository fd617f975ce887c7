import SerializerContract.SelfCheck.Conforming
import SerializerContract.SelfCheck.Wrappers

/-!
# Scenarios about faulty serializers

Every serializer here breaks one promise of its contract, and the check of that promise must find it.
-/

namespace SerializerContract.SelfCheck

open Scenario

/-! ## Outcomes of checks -/

def passes (check : Action Store Unit) : Scenario Unit := do succeeds (← tryOnStore check)

/-- A check must find that the contract is broken. -/
def finds (check : Action Store Unit) : Scenario Unit := do fails (ofFinding .contract) (← tryOnStore check)

/-- A check must find that the fixture cannot be used. -/
def rejects (check : Action Store Unit) : Scenario Unit := do fails (ofFinding .fixture) (← tryOnStore check)

def reports (parts : List String) (check : Action Store Unit) : Scenario Unit := do
  failsSaying parts (← tryOnStore check)

/-- A check must find that the contract is broken because of a failure that came before. -/
def findsBecause (property unnoticed : String) (cause : Fault → Bool) (parts : List String)
    (check : Action Store Unit) : Scenario Unit := do
  match ← tryOnStore check with
  | .ok () => claim (.unreachable unnoticed) false
  | .error failure =>
    match failure.fault with
    | .finding .contract own _ => equalTexts own property
    | _ => throw failure
    match failure.cause with
    | none => claim (.fails none) false
    | some nested => claim (.fails (some nested)) (cause nested.fault)
    containsAll failure.describe parts

def resultIn (report : SuiteReport) (name : String) : Scenario PropertyResult :=
  match report.find name with
  | some result => return result
  | none => throw ⟨.foreign, []⟩

/-! ## Fixtures -/

/-- A fixture of a serializer of numbers, which registers its own snapshots. -/
def numbersWith (kind : NumberKind) (samples : List (BitVec 32) := numberSamples) : Bench .number where
  blueprints := [.number kind]
  length := 4
  samples := samples
  entries := [.own]

def faulty (defect : Defect) (samples : List (BitVec 32) := numberSamples) : Bench .number :=
  numbersWith (.defective defect) samples

def staleBench : Bench .numbers where
  blueprints := [.numbers .stale]
  length := variableLength
  samples := [int64s [], int64s [1, 2, 3], int64s [-5]]
  entries := [.own]

def fittingBench : Bench .text where
  blueprints := [.text .unbounded]
  length := variableLength
  samples := [text "fits"]
  entries := [.own]

/-- The sample is longer than the serializer allows. -/
def tinyBench : Bench .text where
  blueprints := [.text (.bounded 2)]
  length := variableLength
  samples := [text "too long"]
  entries := [.snapshot emptyBounded]

/-- Accepts squares only, but the serializer makes circles. -/
def squareBench : Bench .circle where
  blueprints := [.circle]
  length := 8
  samples := [some (CircleSerializer.circle Double.one)]
  entries := [.own]
  acceptsInstances := false

def emptyInstanceBench (allowed : Bool) : Bench optionalNumber where
  blueprints := [.emptyInstances (fileLocal "EmptyInstanceSerializer")]
  length := 5
  samples := [none, some (word 3), some (word (-3))]
  allowsNullInstances := allowed

/-- Nothing tells how to compare points. -/
def incomparableBench : Bench .point where
  blueprints := [.point]
  length := 16
  samples := [(⟨Double.one, Double.two⟩ : Point)]
  entries := [.own]

def nothingBench : Bench .number where
  blueprints := [.nothing]
  length := 4
  samples := numberSamples
  entries := [.snapshot emptyNumber]

/-! ## Sections -/

def staleTarget : Scenario Unit := do
  let suite ← suiteOf staleBench
  passes suite.checkCopy
  passes suite.checkCopyIntoNew
  finds suite.checkCopyIntoReused
  reports ["[copy into reused elements]", "Expected: [-5] Actual: [1, 2, 3]"] suite.checkCopyIntoReused

def trailingBytes : Scenario Unit := do
  let suite ← suiteOf (faulty .trailingByte)
  finds suite.checkIndividually
  finds suite.checkIndividuallyReusing
  finds suite.checkSequence

def wrongLength : Scenario Unit := do
  let suite ← suiteOf (faulty .wrongLength)
  finds suite.checkLength
  let report ← reported suite
  refuted report.passed
  equalNumbers report.failureCount 2
  let length ← resultIn report "get length"
  refuted length.passed
  refuted (← resultIn report "nullability").passed
  containsAll length.message ["Serializer reports length 8, expected 4"]

def zeroLength : Scenario Unit := do
  rejects (← suiteOf { numbersWith .plain with length := 0 }).checkLength

def brokenRawCopy : Scenario Unit := do
  let suite ← suiteOf (faulty .brokenRawCopy)
  finds suite.checkRawCopy
  finds suite.checkRawCopySequence

def incompatibleSnapshot : Scenario Unit := do
  let suite ← suiteOf (faulty .incompatibleSnapshot)
  passes suite.checkSnapshotInstantiation
  reports ["SchemaCompatibility\x7bINCOMPATIBLE\x7d"] suite.checkReconfigure

def unequalClone : Scenario Unit := do
  finds (← suiteOf (faulty .identity)).checkClone

def unregisteredSnapshot : Scenario Unit := do
  let suite ← suiteOf { numbersWith .plain with entries := [] }
  fails (ofFinding .clone) (← tryOnStore suite.checkClone)
  finds suite.checkSnapshotInstantiation

def escapingFailure : Scenario Unit := do
  passes (← suiteOf fittingBench).checkIndividually
  findsBecause "serialize individually" "Exception of the serializer was not reported"
    (ofKind .serialization) ["exceeds the limit of 2"] (← suiteOf tinyBench).checkIndividually

def otherInstance : Scenario Unit := do
  let suite ← suiteOf squareBench
  finds suite.checkInstantiate
  reports ["[instantiate]", "Type of the instantiated object is wrong", ValueType.circle.name]
    suite.checkInstantiate

def nothingWritten : Scenario Unit := do
  let suite ← suiteOf (faulty .silent)
  reports ["[serialize individually]", "No data available"] suite.checkIndividually
  reports ["No data available"] suite.checkIndividuallyReusing
  reports ["Wrong number of elements deserialized. Expected: 4 Actual: 0"] suite.checkSequence

def miscounted : Scenario Unit := do
  let fewer ← suiteOf (faulty .greedyRead (words [7, 7, 7, 7]))
  let twoOfFour := "Wrong number of elements deserialized. Expected: 4 Actual: 2"
  finds fewer.checkSequence
  reports [twoOfFour] fewer.checkSequence
  reports [twoOfFour] fewer.checkSequenceReusing
  let more ← suiteOf (faulty .doubleWrite (words [7, 7]))
  finds more.checkSequence
  reports ["More elements deserialized than the 2 serialized ones."] more.checkSequence

def failingDuplicate : Scenario Unit := do
  findsBecause "duplicate" "Exception of duplicate() was not reported" (ofKind .runtime)
    ["cannot be duplicated again"] (← suiteOf (faulty .throwingDuplicate)).checkDuplicate

def nullInstances : Scenario Unit := do
  finds do (← Suite.prepare (emptyInstanceBench false).fixture).checkInstantiate
  let suite ← suiteOf (emptyInstanceBench true)
  passes suite.checkInstantiate
  passes suite.checkCopyIntoNew
  passes suite.checkIndividually
  passes suite.checkSequenceReusing

def incomparable : Scenario Unit := do
  rejects (← suiteOf incomparableBench).checkCopy

def unusableFixture : Scenario Unit := do
  rejects do discard (Suite.prepare (numbersWith .plain []).fixture)
  let suite ← suiteOf nothingBench
  rejects suite.checkCopy
  let report ← reported suite
  equalNumbers report.failureCount report.results.length

def faults : Scenario Unit := do
  inSection "Stale reuse target" staleTarget
  inSection "Trailing bytes" trailingBytes
  inSection "Wrong length" wrongLength
  inSection "Zero declared length" zeroLength
  inSection "Broken raw copy" brokenRawCopy
  inSection "Incompatible snapshot" incompatibleSnapshot
  inSection "Clone not equal to the original" unequalClone
  inSection "Unregistered snapshot" unregisteredSnapshot
  inSection "Exception escaping the serializer" escapingFailure
  inSection "Instance of another type" otherInstance
  inSection "Nothing written" nothingWritten
  inSection "Element count not preserved" miscounted
  inSection "Duplication throwing" failingDuplicate
  inSection "Null instances" nullInstances
  inSection "Missing comparator" incomparable
  inSection "Unusable fixture" unusableFixture

end SerializerContract.SelfCheck
