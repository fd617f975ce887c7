import SerializerContract.Blueprint
import SerializerContract.Suite.Checks

/-!
# Benches

A fixture that is put together from descriptions: the serializers it hands out one after the other,
what it registers, and the threads that the system lets it start.
-/

namespace SerializerContract

/-- The description of a fixture, and of the surroundings it is used in. -/
structure Bench (f : Family) where
  /-- The serializers handed out in turn; the last one repeats. -/
  blueprints : List (Blueprint f)
  length : Int
  samples : List f.Value
  entries : List RegistryEntry := []
  registrations : List Registration := []
  acceptsInstances : Bool := true
  allowsNullInstances : Bool := false
  /-- From this thread on the system refuses to start any. -/
  lastThread : Option Nat := none

namespace Bench

variable {f : Family}

def blueprintAfter (bench : Bench f) (served : Nat) : Blueprint f :=
  bench.blueprints.getD (min served (bench.blueprints.length - 1)) .nothing

def createSerializer (bench : Bench f) : Action Store (Option f.Serializer) := do
  let served := (← get).served
  modify fun store => { store with served := store.served + 1 }
  (bench.blueprintAfter served).build

def refusedThread : Failure := .ofKind .system "Resource temporarily unavailable"

def startThread (lastThread : Option Nat) : Action Store Unit := do
  let started := (← get).threads
  modify fun store => { store with threads := store.threads + 1 }
  match lastThread with
  | some last => if last ≤ started then throw refusedThread else return ()
  | none => return ()

def fixture (bench : Bench f) : Fixture f.contract where
  createSerializer := bench.createSerializer
  length := bench.length
  samples := bench.samples
  acceptsInstance _ := bench.acceptsInstances
  allowsNullInstances := bench.allowsNullInstances
  registrations := bench.registrations
  registry := RegistryEntry.registerAll (bench.blueprintAfter 0) {} bench.entries
  startThread := startThread bench.lastThread

end Bench

end SerializerContract
