import SerializerContract.Nullable.Probe
import SerializerContract.Suite.Report
import SerializerContract.Suite.Streams
import SerializerContract.ValueType.Dynamic

/-!
# The checks

Sixteen checks of a serializer that a fixture describes. Every check is independent and fails with a
finding at the first broken expectation. Failures that escape from a serializer become findings too;
findings pass through as they are.
-/

namespace SerializerContract

namespace Suite

variable {σ A S N : Type} {t : ValueType} {C : Contract σ A t S N}

/-- The snapshot of a serializer under test, which must not be null. -/
def getSnapshot (C : Contract σ A t S N) (property : String) (serializer : S) : Action σ N := do
  match ← C.snapshot serializer with
  | none => throw (.contract property "Serializer returned null configuration snapshot.")
  | some snapshot => return snapshot

/-- Instances are not null and of the declared type. -/
def checkInstantiate (suite : Suite C) : Action σ Unit := do
  let property := "instantiate"
  let serializer ← suite.getSerializer property
  guarded property do
    let created ← (C.operations serializer).create
    if t.isNull created then
      if suite.fixture.allowsNullInstances then return ()
      else throw (.contract property "The created instance must not be null.")
    else if !suite.fixture.acceptsInstance created then
      throw (.contract property ("Type of the instantiated object is wrong. Expected Type: " ++
        t.declared.name ++ " present type " ++ (t.runtime created).name))
    else return ()

/-- The registry makes snapshots of the type that the serializer produces. -/
def checkSnapshotInstantiation (suite : Suite C) : Action σ Unit := do
  let property := "config snapshot instantiation"
  let serializer ← suite.getSerializer property
  guarded property do
    let snapshot ← getSnapshot C property serializer
    let made ← C.instantiate suite.registry (C.snapshotId snapshot)
    if C.snapshotTypeName made ≠ C.snapshotTypeName snapshot then
      throw (.contract property ("Snapshot type id " ++ Registry.quoted (C.snapshotId snapshot) ++
        " instantiates " ++ C.snapshotTypeName made ++ " instead of " ++ C.snapshotTypeName snapshot))

/-- The serializer that a verdict says to use. -/
def chosen (C : Contract σ A t S N) (property : String) (read : N) (verdict : Compatibility S) :
    Action σ (Option S) :=
  match verdict with
  | .asIs => C.restore read
  | .reconfigured serializer => return serializer
  | .incompatible =>
    throw (.contract property ("Unable to restore serializer with " ++ verdict.describe))

/-- A serializer restored through the bytes of the snapshot is of the same type and equal. -/
def checkReconfigure (suite : Suite C) : Action σ Unit := do
  let property := "snapshot configuration and reconfigure"
  let serializer ← suite.getSerializer property
  guarded property do
    let snapshot ← getSnapshot C property serializer
    let ((), out) ← Action.withLocal {} (C.writeSnapshot snapshot)
    let (read, input) ← Action.withLocal out.inputView (C.readSnapshot suite.registry)
    checkConsumed property "Trailing data available after reading the snapshot." input
    let verdict ← C.resolve read (← suite.getSerializer property)
    match ← chosen C property read verdict with
    | none => throw (.contract property ("Restored serializer is null with " ++ verdict.describe))
    | some restored =>
      if C.typeName restored ≠ C.typeName serializer then
        throw (.contract property ("Restored serializer is a " ++ C.typeName restored ++ ", expected " ++
          C.typeName serializer))
      if !(← C.equals restored serializer) then
        throw (.contract property ("Restored serializer is configured differently than the " ++
          "original one with " ++ verdict.describe))

def checkLength (suite : Suite C) : Action σ Unit := do
  let property := "get length"
  let declared := suite.fixture.length
  if declared = 0 then
    throw (.fixture property
      "Broken serializer test base - zero length cannot be the expected length")
  let serializer ← suite.getSerializer property
  guarded property do
    let length := (C.operations serializer).length
    if (← length) ≠ declared then
      throw (.contract property ("Serializer reports length " ++ (← length).repr ++ ", expected " ++
        declared.repr))

def checkCopy (suite : Suite C) : Action σ Unit := do
  let property := "copy"
  let serializer ← suite.getSerializer property
  guarded property (suite.fixture.samples.forM fun v => do
    let copied ← (C.operations serializer).copy v
    suite.deepEquals property copiedWrongly v copied)

def checkCopyIntoNew (suite : Suite C) : Action σ Unit := do
  let property := "copy into new elements"
  let serializer ← suite.getSerializer property
  let operations := C.operations serializer
  guarded property (suite.fixture.samples.forM fun v => do
    let _ ← suite.compareCopy property operations (← operations.create) v)

def copyReusing (suite : Suite C) (property : String) (operations : Operations σ t.Val) :
    t.Val → List t.Val → Action σ Unit
  | _, [] => return ()
  | target, v :: rest => do
    let target ← suite.compareCopy property operations target v
    copyReusing suite property operations target rest

def checkCopyIntoReused (suite : Suite C) : Action σ Unit := do
  let property := "copy into reused elements"
  let serializer ← suite.getSerializer property
  let operations := C.operations serializer
  guarded property do
    suite.copyReusing property operations (← operations.create) suite.fixture.samples

/-- Values round trip, each through a channel and an instance of its own. -/
def checkIndividually (suite : Suite C) : Action σ Unit := do
  let property := "serialize individually"
  let serializer ← suite.getSerializer property
  let operations := C.operations serializer
  guarded property (suite.individually property operations (readFresh operations) () suite.fixture.samples)

/-- Values round trip, each through a channel of its own into one reuse target. -/
def checkIndividuallyReusing (suite : Suite C) : Action σ Unit := do
  let property := "serialize individually reusing values"
  let serializer ← suite.getSerializer property
  let operations := C.operations serializer
  guarded property do
    suite.individually property operations (readReusing operations) (← operations.create)
      suite.fixture.samples

/-- Values round trip through one channel. -/
def checkSequence (suite : Suite C) : Action σ Unit := do
  let property := "serialize as sequence no reuse"
  let serializer ← suite.getSerializer property
  let operations := C.operations serializer
  guarded property (suite.asSequence property operations (readNew operations) (pure ()))

/-- Values round trip through one channel into one reuse target. -/
def checkSequenceReusing (suite : Suite C) : Action σ Unit := do
  let property := "serialize as sequence reusing values"
  let serializer ← suite.getSerializer property
  let operations := C.operations serializer
  guarded property (suite.asSequence property operations (readReusing operations) operations.create)

def sourceLeft : String := "Trailing data left in the source after copying."

def compareRawCopy (suite : Suite C) (property : String) (operations : Operations σ t.Val) (v : t.Val) :
    Action σ Unit := do
  let source := (← serializeOne operations v).inputView
  let ((), (source, target)) ← Action.withLocal (source, {}) operations.rawCopy
  checkConsumed property sourceLeft source
  let input := target.inputView
  checkAvailable property "No data available copying." input
  suite.compareOne property (readFresh operations) () v input

/-- Serialized values are copied whole, each on its own. -/
def checkRawCopy (suite : Suite C) : Action σ Unit := do
  let property := "serialized copy individually"
  let serializer ← suite.getSerializer property
  guarded property (suite.fixture.samples.forM (suite.compareRawCopy property (C.operations serializer)))

/-- Serialized values are copied whole, one after the other. -/
def checkRawCopySequence (suite : Suite C) : Action σ Unit := do
  let property := "serialized copy as sequence"
  let serializer ← suite.getSerializer property
  let operations := C.operations serializer
  guarded property do
    let samples := suite.fixture.samples
    let ((), out) ← Action.withLocal {} (serializeAll operations samples)
    let ((), (source, target)) ← Action.withLocal (out.inputView, {}) (copyAll operations samples.length)
    checkConsumed property sourceLeft source
    let count ← suite.compareStream property (readFresh operations) samples () target.inputView 0
    suite.checkCount property "Wrong number of elements copied." count

/-- Turns failures that describe themselves into findings of some kind. -/
def reported {α : Type} (kind : FindingKind) (property message : String) (action : Action σ α) :
    Action σ α := fun state =>
  match action state with
  | (.error failure, state) =>
    if failure.fault.isStandard then
      (.error (failure.wrap (.finding kind property (message ++ failure.message))), state)
    else (.error failure, state)
  | done => done

/-- A clone through the bytes of the snapshot is of the same type and equal. -/
def checkClone (suite : Suite C) : Action σ Unit := do
  let property := "serializability and equals"
  let serializer ← suite.getSerializer property
  let clone ← reported .clone property "The serializer is not serializable: "
    (C.clone suite.registry serializer)
  guarded property do
    let failure := Failure.contract property "The copy of the serializer is not equal to the original one."
    if C.typeName serializer ≠ C.typeName clone then throw failure
    if !(← C.equals serializer clone) then throw failure

/-- The serializer can be wrapped for optional values. -/
def checkNullability (suite : Suite C) : Action σ Unit := do
  let property := "nullability"
  let serializer ← suite.getSerializer property
  reported .contract property "Unexpected failure of null value handling: "
    (Nullable.probe C suite.checker serializer suite.fixture.samples)

/-- Duplicates are equal to their source and can work beside each other. -/
def checkDuplicate (suite : Suite C) : Action σ Unit := do
  let property := Duplication.property
  let serializer ← suite.getSerializer property
  guarded property do
    match ← C.duplicate serializer with
    | none => throw Duplication.nullDuplicate
    | some duplicate =>
      if !(← C.equals duplicate serializer) then
        throw (.contract property "Duplicate is not equal to the original serializer.")
      let serializer ← Action.ofExcept
        (Duplication.checkInput (some serializer) suite.fixture.samples suite.options)
      Duplication.run C suite.checker suite.options suite.fixture.startThread suite.fixture.samples serializer

def properties (suite : Suite C) : List (Property σ) := [
  ⟨"instantiate", suite.checkInstantiate⟩,
  ⟨"config snapshot instantiation", suite.checkSnapshotInstantiation⟩,
  ⟨"snapshot configuration and reconfigure", suite.checkReconfigure⟩,
  ⟨"get length", suite.checkLength⟩,
  ⟨"copy", suite.checkCopy⟩,
  ⟨"copy into new elements", suite.checkCopyIntoNew⟩,
  ⟨"copy into reused elements", suite.checkCopyIntoReused⟩,
  ⟨"serialize individually", suite.checkIndividually⟩,
  ⟨"serialize individually reusing values", suite.checkIndividuallyReusing⟩,
  ⟨"serialize as sequence no reuse", suite.checkSequence⟩,
  ⟨"serialize as sequence reusing values", suite.checkSequenceReusing⟩,
  ⟨"serialized copy individually", suite.checkRawCopy⟩,
  ⟨"serialized copy as sequence", suite.checkRawCopySequence⟩,
  ⟨"serializability and equals", suite.checkClone⟩,
  ⟨"nullability", suite.checkNullability⟩,
  ⟨"duplicate", suite.checkDuplicate⟩]

def find (suite : Suite C) (name : String) : Option (Property σ) :=
  suite.properties.find? fun property => property.name == name

def runAll (suite : Suite C) : StateM σ SuiteReport := do
  return ⟨← Property.runAll suite.properties⟩

end Suite

end SerializerContract
