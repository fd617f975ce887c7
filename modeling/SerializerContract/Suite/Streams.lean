import SerializerContract.Suite.Fixture
import SerializerContract.ValueType.Describe

/-!
# Comparing streams

The parts that checks have in common: failures that escape become findings, serialized samples are read
back one by one or from one stream, and every value is compared with the sample it came from.
-/

namespace SerializerContract

namespace Suite

variable {σ A S N : Type} {t : ValueType} {C : Contract σ A t S N}

/-- What a failure that escapes from a check becomes. -/
def escaped (property : String) (failure : Failure) : Failure :=
  if failure.fault.isFinding then failure
  else failure.wrap (.finding .contract property ("Exception in test: " ++ failure.message))

/-- Turns failures that are not findings into findings. -/
def guarded {α : Type} (property : String) (check : Action σ α) : Action σ α := fun state =>
  match check state with
  | (.error failure, state) => (.error (escaped property failure), state)
  | done => done

def deepEquals (suite : Suite C) (property message : String) (expected actual : t.Val) : Action σ Unit := do
  if !(← Action.ofExcept (suite.checker.equals t expected actual)) then
    throw (.contract property (message ++ " Expected: " ++ t.describe expected ++ " Actual: " ++
      t.describe actual))

def checkAvailable (property message : String) (input : InputChannel) : Action σ Unit :=
  if input.available = 0 then throw (.contract property message) else return ()

def checkConsumed (property message : String) (input : InputChannel) : Action σ Unit :=
  if input.available ≠ 0 then
    throw (.contract property (message ++ " " ++ input.available.repr ++ " bytes left."))
  else return ()

def checkCount (suite : Suite C) (property message : String) (count : Nat) : Action σ Unit :=
  let expected := suite.fixture.samples.length
  if count ≠ expected then
    throw (.contract property (message ++ " Expected: " ++ expected.repr ++ " Actual: " ++ count.repr))
  else return ()

def serializeOne (operations : Operations σ t.Val) (v : t.Val) : Action σ OutputChannel := do
  let ((), out) ← Action.withLocal {} (operations.serialize v)
  return out

def serializeAll (operations : Operations σ t.Val) : List t.Val → Action (OutputChannel × σ) Unit
  | [] => return ()
  | v :: rest => do
    operations.serialize v
    serializeAll operations rest

/-- Copies as many serialized values as there are samples. -/
def copyAll (operations : Operations σ t.Val) : Nat → Action ((InputChannel × OutputChannel) × σ) Unit
  | 0 => return ()
  | n + 1 => do
    operations.rawCopy
    copyAll operations n

/-- A way to read a value: what it reads, and what it carries to the next time. -/
abbrev Reader (σ ρ α : Type) := ρ → Action (InputChannel × σ) (α × ρ)

def readNew (operations : Operations σ t.Val) : Reader σ Unit t.Val := fun () => do
  return (← operations.deserialize, ())

/-- Reads into a reuse target, which is carried along. -/
def readReusing (operations : Operations σ t.Val) : Reader σ t.Val t.Val := fun reuse =>
  Action.of fun (input, state) =>
    let (result, ((reuse, input), state)) := operations.deserializeInto.outcome ((reuse, input), state)
    (result.map fun returned => (returned.value reuse, reuse), (input, state))

def readFresh (operations : Operations σ t.Val) : Reader σ Unit t.Val := fun () => do
  let target ← Action.onSecond operations.create
  let (v, _) ← readReusing operations target
  return (v, ())

def wrongValue : String := "Deserialized value is wrong."

def trailingData : String := "Trailing data available after deserialization."

/-- Reads values while there are bytes left, and compares them with the samples that are left. -/
def compareStream {ρ : Type} (suite : Suite C) (property : String) (reader : Reader σ ρ t.Val) :
    (expected : List t.Val) → ρ → InputChannel → (count : Nat) → Action σ Nat
  | expected, carried, input, count =>
    if input.available = 0 then return count
    else
      match expected with
      | [] => throw (.contract property ("More elements deserialized than the " ++
          suite.fixture.samples.length.repr ++ " serialized ones."))
      | v :: rest => do
        let ((actual, carried), input) ← Action.withLocal input (reader carried)
        suite.deepEquals property wrongValue v actual
        compareStream suite property reader rest carried input (count + 1)

/-- Reads one value from the front of a channel that should hold nothing else. -/
def compareOne {ρ : Type} (suite : Suite C) (property : String) (reader : Reader σ ρ t.Val) (carried : ρ)
    (v : t.Val) (input : InputChannel) : Action σ ρ := do
  let ((actual, carried), input) ← Action.withLocal input (reader carried)
  suite.deepEquals property wrongValue v actual
  checkConsumed property trailingData input
  return carried

/-- Takes every sample through a channel of its own. -/
def individually {ρ : Type} (suite : Suite C) (property : String) (operations : Operations σ t.Val)
    (reader : Reader σ ρ t.Val) : ρ → List t.Val → Action σ Unit
  | _, [] => return ()
  | carried, v :: rest => do
    let input := (← serializeOne operations v).inputView
    checkAvailable property "No data available during deserialization." input
    let carried ← suite.compareOne property reader carried v input
    individually suite property operations reader carried rest

/-- Takes all samples through one channel. -/
def asSequence {ρ : Type} (suite : Suite C) (property : String) (operations : Operations σ t.Val)
    (reader : Reader σ ρ t.Val) (start : Action σ ρ) : Action σ Unit := do
  let ((), out) ← Action.withLocal {} (serializeAll operations suite.fixture.samples)
  let carried ← start
  let count ← suite.compareStream property reader suite.fixture.samples carried out.inputView 0
  suite.checkCount property "Wrong number of elements deserialized." count

def copiedWrongly : String := "Copied element is not equal to the original element."

/-- Copies a sample into a reuse target and compares; the target is carried along. -/
def compareCopy (suite : Suite C) (property : String) (operations : Operations σ t.Val) (target v : t.Val) :
    Action σ t.Val := do
  let (returned, target) ← Action.withLocal target (operations.copyInto v)
  suite.deepEquals property copiedWrongly v (returned.value target)
  return target

end Suite

end SerializerContract
