import SerializerContract.Checker
import SerializerContract.Contract
import SerializerContract.ValueType.Describe

/-!
# The duplication run

Workers drive duplicates of one serializer at the same time, to reveal state that duplicates share.
Every worker owns a duplicate and a pair of channels, and takes the samples through serialize,
deserialize, copy and compare. Each of these is one step; a schedule says whose step comes next.
-/

namespace SerializerContract

structure RunOptions where
  workers : Nat := 10
  /-- How long each worker keeps going, in milliseconds. -/
  duration : Int := 120
  /-- The initial capacity of the workers' output channels. -/
  capacity : Nat := 128
deriving DecidableEq, Repr

namespace RunOptions

/-- There must be a worker, and time for it to work. -/
def isUsable (options : RunOptions) : Bool := options.workers != 0 && decide (0 < options.duration)

end RunOptions

/-- What a worker does next with the sample at hand. -/
inductive Stage (α : Type) where
  | serialize
  | deserialize
  | copy (deserialized : α)
  | compare (copied : α)
deriving DecidableEq, Repr

/-- A worker: its duplicate, its channels, the samples still to come, and its failure. -/
structure Worker (S α : Type) where
  serializer : S
  output : OutputChannel := {}
  input : InputChannel := {}
  stage : Stage α := .serialize
  samples : List α
  failure : Option Failure := none

namespace Duplication

variable {σ A S N : Type} {t : ValueType}

def property : String := "duplicate"

def nullDuplicate : Failure := .contract property "duplicate() returned null"

/-- How many bytes a worker takes up. -/
def workerSize : Nat := 88

/-- Asks for room for some workers. -/
def reserve (workers : Nat) : Except Failure Unit :=
  if Bytes.longest / workerSize < workers then
    .error (.ofKind .length "cannot create std::vector larger than max_size()")
  else if Bytes.mostMemory / workerSize < workers then .error .outOfMemory
  else .ok ()

/-- The finding that a copy is not the sample it came from. -/
def unequal (t : ValueType) (sample copied : t.Val) : Failure :=
  .contract property ("Serialization/Deserialization cycle resulted in an object that is not equal " ++
    "to the original. Expected: " ++ t.describe sample ++ " Actual: " ++ t.describe copied)

/-- The samples in the order of the `i`-th worker, which starts at the `i`-th sample. -/
def samplesFrom {α : Type} (i : Nat) (samples : List α) : List α :=
  samples.drop (i % samples.length) ++ samples.take (i % samples.length)

/-- What an operation of a worker leads to: its failure is kept. -/
def settle {S α β : Type} (worker : Worker S α) (result : Except Failure β) (next : β → Worker S α) :
    Worker S α :=
  match result with
  | .ok b => next b
  | .error failure => { worker with failure := some failure }

def step (C : Contract σ A t S N) (checker : Checker) (worker : Worker S t.Val) (state : σ) :
    Worker S t.Val × σ :=
  match worker.failure, worker.samples with
  | none, sample :: rest =>
    let operations := C.operations worker.serializer
    match worker.stage with
    | .serialize =>
      let (result, (output, state)) := (operations.serialize sample).outcome (worker.output, state)
      let worker := { worker with output := output }
      (settle worker result fun () =>
        { worker with input := .ofBytes output.data, stage := .deserialize }, state)
    | .deserialize =>
      let (result, (input, state)) := operations.deserialize.outcome (worker.input, state)
      let worker := { worker with input := input }
      (settle worker result fun v => { worker with stage := .copy v }, state)
    | .copy deserialized =>
      let (result, state) := (operations.copy deserialized).outcome state
      (settle worker result fun v => { worker with output := {}, stage := .compare v }, state)
    | .compare copied =>
      let result : Except Failure Unit := match checker.equals t sample copied with
        | .ok true => .ok ()
        | .ok false => .error (unequal t sample copied)
        | .error failure => .error failure
      (settle worker result fun () => { worker with stage := .serialize, samples := rest }, state)
  | _, _ => (worker, state)

def stepAt (C : Contract σ A t S N) (checker : Checker) (workers : List (Worker S t.Val))
    (state : σ) (i : Nat) : List (Worker S t.Val) × σ :=
  match workers[i]? with
  | some worker =>
    let (worker, state) := step C checker worker state
    (workers.set i worker, state)
  | none => (workers, state)

/-- Takes steps in the order of a schedule. -/
def follow (C : Contract σ A t S N) (checker : Checker) :
    List Nat → List (Worker S t.Val) → σ → List (Worker S t.Val) × σ
  | [], workers, state => (workers, state)
  | i :: schedule, workers, state =>
    let (workers, state) := stepAt C checker workers state i
    follow C checker schedule workers state

/-- The schedule in which the workers take all their steps one worker after the other. -/
def inTurn {S α : Type} (workers : List (Worker S α)) : List Nat :=
  (List.range workers.length).flatMap fun i =>
    List.replicate (4 * ((workers[i]?.map fun w => w.samples.length).getD 0)) i

/-- The duplicates for the workers from the `i`-th on. -/
def recruit (C : Contract σ A t S N) (options : RunOptions) (samples : List t.Val)
    (serializer : S) : (count i : Nat) → Action σ (List (Worker S t.Val))
  | 0, _ => return []
  | count + 1, i => do
    match ← C.duplicate serializer with
    | none => throw nullDuplicate
    | some duplicate =>
      Action.ofExcept (OutputChannel.reserve options.capacity)
      let worker := { serializer := duplicate, samples := samplesFrom i samples }
      return worker :: (← recruit C options samples serializer count (i + 1))

/-- Starts the threads of the workers. When the system refuses one, nobody works. -/
def startThreads (startThread : Action σ Unit) : Nat → Action σ Unit
  | 0 => return ()
  | count + 1 => do
    startThread
    startThreads startThread count

def firstFailure {S α : Type} : List (Worker S α) → (i : Nat) → Option (Nat × Failure)
  | [], _ => none
  | worker :: rest, i =>
    match worker.failure with
    | some failure => some (i, failure)
    | none => firstFailure rest (i + 1)

/-- The finding that a worker failed, over its failure. -/
def workerFailed (count i : Nat) (failure : Failure) : Failure :=
  failure.wrap (.finding (.concurrent i) property
    ("Worker " ++ i.repr ++ " of " ++ count.repr ++ " failed: " ++ failure.describe))

/-- What is wrong with the input of a run, before anything is done. -/
def checkInput {S α : Type} (serializer : Option S) (samples : List α) (options : RunOptions) :
    Except Failure S :=
  match serializer with
  | none => .error (.fixture property "Test case corrupt. Returns null as serializer.")
  | some serializer =>
    if samples.isEmpty then .error (.fixture property "Test case corrupt. Returns no test data.")
    else if !options.isUsable then
      .error (.fixture property "Duplication check needs at least one worker and a positive duration")
    else .ok serializer

/-- Runs all workers. The first failure in the order of the workers is the failure of the run. -/
def run (C : Contract σ A t S N) (checker : Checker) (options : RunOptions) (startThread : Action σ Unit)
    (samples : List t.Val) (serializer : S) : Action σ Unit := do
  Action.ofExcept (reserve options.workers)
  let workers ← recruit C options samples serializer options.workers 0
  startThreads startThread options.workers
  let finished ← Action.of fun state =>
    let (workers, state) := follow C checker (inTurn workers) workers state
    (.ok workers, state)
  match firstFailure finished 0 with
  | some (i, failure) => throw (workerFailed options.workers i failure)
  | none => return ()

/-- Makes a serializer, checks the input of a run, and runs all workers. -/
def runChecked (C : Contract σ A t S N) (checker : Checker) (options : RunOptions)
    (startThread : Action σ Unit) (samples : List t.Val) (create : Action σ (Option S)) :
    Action σ Unit := do
  let serializer ← Action.ofExcept (checkInput (← create) samples options)
  run C checker options startThread samples serializer

end Duplication

end SerializerContract
