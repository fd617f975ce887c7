import SerializerContract.Blueprint
import SerializerContract.Nullable.Probe

/-!
# Sessions

A session works on one serializer step by step: it has an output and an input channel, a slot that
serves as reuse target, a registry, and a snapshot. A step shows some sights; those that came before
a failure count.
-/

namespace SerializerContract

/-- What can be told about a serializer. What failed while it was looked at ends the description. -/
structure SerializerDescription where
  typeName : String
  length : Option Int := none
  /-- The bytes of the snapshot; null if there is none. -/
  snapshot : Option (Option Bytes) := none
  failure : Option Failure := none
deriving DecidableEq, Repr

namespace Contract

variable {σ A S N : Type} {t : ValueType}

/-- The bytes of the snapshot of a serializer; null if there is none. -/
def snapshotBytes (C : Contract σ A t S N) (serializer : S) : Action σ (Option Bytes) := do
  match ← C.snapshot serializer with
  | none => return none
  | some snapshot =>
    let ((), out) ← Action.withLocal {} (C.writeSnapshot snapshot)
    return some out.data

def describe (C : Contract σ A t S N) (serializer : S) : Action σ SerializerDescription := do
  let description : SerializerDescription := { typeName := C.typeName serializer }
  match ← Action.attempt (C.operations serializer).length with
  | .error failure => return { description with failure := some failure }
  | .ok length =>
    let description := { description with length := some length }
    match ← Action.attempt (C.snapshotBytes serializer) with
    | .error failure => return { description with failure := some failure }
    | .ok bytes => return { description with snapshot := some bytes }

def describe? (C : Contract σ A t S N) : Option S → Action σ (Option SerializerDescription)
  | none => return none
  | some serializer => return some (← C.describe serializer)

end Contract

/-- One step of a session. -/
inductive SessionStep (f : Family) where
  | serialize (v : f.Value)
  /-- The input becomes what was written so far. -/
  | view
  | input (bytes : Bytes)
  | clear
  | slot (v : f.Value)
  | deserialize
  | deserializeInto
  | copy (v : f.Value)
  | copyInto (v : f.Value)
  | create
  | rawCopy
  | length
  /-- With `use`, the duplicate takes the place of the serializer. -/
  | duplicate (use : Bool)
  | equals (other : Blueprint f)
  | describe
  | wrapped
  | snapshot
  | emptyWrapperSnapshot
  | writePayload
  | writeSnapshot
  | readSnapshot
  | readPayload (version : Int)
  | restore (use : Bool)
  /-- Asks the snapshot about a serializer, or about the one at hand. -/
  | resolve (against : Option (Blueprint f))
  | clone (use : Bool)
  | register (entry : RegistryEntry)
  | contains (id : Bytes)
  | instantiate (id : Bytes)
  | instantiateOwn (id : Bytes)
  | probe (samples : List f.Value)

inductive Sight (f : Family) where
  | skipped
  | value (v : f.Value)
  | same (b : Bool)
  | text (s : String)
  | length (n : Int)
  | isNull (b : Bool)
  | typeName (s : String)
  | equal (b : Bool)
  /-- Whether the other serializer differs from the one at hand. -/
  | unequalBack (b : Bool)
  | serializer (description : Option SerializerDescription)
  | inner (description : Option SerializerDescription)
  | padding (n : Nat)
  | id (bytes : Bytes)
  | version (n : Int)
  | verdict (compatibility : Compatibility f.Serializer)
  | reconfigured (description : Option SerializerDescription)
  | contained (b : Bool)
  | supported

structure Session (f : Family) where
  /-- What the serializer was made from. -/
  blueprint : Blueprint f
  checker : Checker := {}
  registry : Registry Store Family.AnySnapshot := {}
  serializer : Option f.Serializer := none
  output : OutputChannel := {}
  input : InputChannel := {}
  slot : f.Value := f.type.blank
  snapshot : Option f.Snapshot := none
  /-- What the step at hand has shown so far, the latest first. -/
  sights : List (Sight f) := []

namespace Session

variable {f : Family} {α : Type}

abbrev Work (f : Family) (α : Type) := Action (Session f × Store) α

/-- Starts a session: makes the serializer, and registers what is known from the start. -/
def start (blueprint : Blueprint f) (checker : Checker) (entries : List RegistryEntry) :
    Action Store (Session f) := do
  let serializer ← blueprint.build
  let registry ← RegistryEntry.registerAll blueprint {} entries
  return { blueprint, checker, registry, serializer }

def onStore (action : Action Store α) : Work f α := Action.onSecond action

def update (change : Session f → Session f) : Work f Unit := Action.onFirst (modify change)

def onOutput (action : Action (OutputChannel × Store) α) : Work f α :=
  Action.zoom (fun (session, store) => (session.output, store))
    (fun (output, store) (session, _) => ({ session with output }, store)) action

def onInput (action : Action (InputChannel × Store) α) : Work f α :=
  Action.zoom (fun (session, store) => (session.input, store))
    (fun (input, store) (session, _) => ({ session with input }, store)) action

def onChannels (action : Action ((InputChannel × OutputChannel) × Store) α) : Work f α :=
  Action.zoom (fun (session, store) => ((session.input, session.output), store))
    (fun ((input, output), store) (session, _) => ({ session with input, output }, store)) action

def onSlot (action : Action (f.Value × Store) α) : Work f α :=
  Action.zoom (fun (session, store) => (session.slot, store))
    (fun (slot, store) (session, _) => ({ session with slot }, store)) action

def onSlotAndInput (action : Action ((f.Value × InputChannel) × Store) α) : Work f α :=
  Action.zoom (fun (session, store) => ((session.slot, session.input), store))
    (fun ((slot, input), store) (session, _) => ({ session with slot, input }, store)) action

/-- Works on the snapshot and the input; `snapshot` is the snapshot at hand. -/
def onSnapshotAndInput (snapshot : f.Snapshot) (action : Action ((f.Snapshot × InputChannel) × Store) α) :
    Work f α :=
  Action.zoom (fun (session, store) => ((snapshot, session.input), store))
    (fun ((snapshot, input), store) (session, _) => ({ session with snapshot := some snapshot, input }, store))
    action

def see (sight : Sight f) : Work f Unit :=
  update fun session => { session with sights := sight :: session.sights }

def skip : Work f Unit := see .skipped

def withSerializer (work : f.Serializer → Work f Unit) : Work f Unit := do
  match (← get).1.serializer with
  | some serializer => work serializer
  | none => skip

def withSnapshot (work : f.Snapshot → Work f Unit) : Work f Unit := do
  match (← get).1.snapshot with
  | some snapshot => work snapshot
  | none => skip

/-- A serializer, or none, takes the place of the one at hand, if it is to be used. -/
def adopt (use : Bool) (serializer : Option f.Serializer) : Work f Unit :=
  if use then update fun session => { session with serializer } else return ()

def seeReturned (returned : Returned f.Value) : Work f Unit := do
  see (.value (returned.value (← get).1.slot))
  see (.same (match returned with | .target => true | .other _ => false))

/-- Shows a duplicate. A null duplicate is not used: the serializer at hand stays. -/
def seeDuplicate (use : Bool) (serializer : f.Serializer) : Option f.Serializer → Work f Unit
  | none => see (.isNull true)
  | some duplicate => do
    see (.isNull false)
    see (.same (f.objectId duplicate == f.objectId serializer))
    see (.typeName (f.contract.typeName duplicate))
    see (.equal (← onStore (f.contract.equals duplicate serializer)))
    adopt use (some duplicate)

/-- What a wrapper wraps, and its padding. -/
def wrappedBy : (f : Family) → f.Serializer → Option (Nat × Action Store SerializerDescription)
  | .nullable inner, serializer =>
    let wrapper := Object.config serializer
    some (wrapper.padding, inner.contract.describe wrapper.inner)
  | _, _ => none

/-- An empty snapshot of wrappers, in a family of wrappers. -/
def emptyWrapperSnapshot : (f : Family) → Option f.Snapshot
  | .nullable inner => some ({} : WrapperSnapshot inner.Snapshot)
  | _ => none

def seeSnapshot (snapshot : f.Snapshot) : Work f Unit := do
  see (.id (f.contract.snapshotId snapshot))
  see (.version (f.contract.snapshotVersion snapshot))

/-- The serializer that a snapshot is asked about; null if there is none. -/
def against : Option (Blueprint f) → Work f (Option f.Serializer)
  | some blueprint => onStore blueprint.build
  | none => return (← get).1.serializer

def perform : SessionStep f → Work f Unit
  | .serialize v => withSerializer fun s => onOutput ((f.contract.operations s).serialize v)
  | .view => update fun session => { session with input := session.output.inputView }
  | .input bytes => update fun session => { session with input := .ofBytes bytes }
  | .clear => update fun session => { session with output := {} }
  | .slot v => update fun session => { session with slot := v }
  | .deserialize => withSerializer fun s => do
    see (.value (← onInput (f.contract.operations s).deserialize))
  | .deserializeInto => withSerializer fun s => do
    seeReturned (← onSlotAndInput (f.contract.operations s).deserializeInto)
  | .copy v => withSerializer fun s => do
    see (.value (← onStore ((f.contract.operations s).copy v)))
  | .copyInto v => withSerializer fun s => do
    seeReturned (← onSlot ((f.contract.operations s).copyInto v))
  | .create => withSerializer fun s => do
    let v ← onStore (f.contract.operations s).create
    update fun session => { session with slot := v }
    see (.text (f.type.describe v))
  | .rawCopy => withSerializer fun s => onChannels (f.contract.operations s).rawCopy
  | .length => withSerializer fun s => do
    see (.length (← onStore (f.contract.operations s).length))
  | .duplicate use => withSerializer fun s => do
    seeDuplicate use s (← onStore (f.contract.duplicate s))
  | .equals other => withSerializer fun s => do
    match ← onStore other.build with
    | none => skip
    | some other =>
      see (.equal (← onStore (f.contract.equals s other)))
      see (.unequalBack (!(← onStore (f.contract.equals other s))))
  | .describe => withSerializer fun s => do
    see (.serializer (some (← onStore (f.contract.describe s))))
  | .wrapped => withSerializer fun s => do
    match wrappedBy f s with
    | none => skip
    | some (padding, inner) =>
      see (.padding padding)
      see (.inner (some (← onStore inner)))
  | .snapshot => withSerializer fun s => do
    let taken ← onStore (f.contract.snapshot s)
    update fun session => { session with snapshot := taken }
    see (.isNull taken.isNone)
    match taken with
    | some snapshot => seeSnapshot snapshot
    | none => return ()
  | .emptyWrapperSnapshot => update fun session => { session with snapshot := emptyWrapperSnapshot f }
  | .writePayload => withSnapshot fun snapshot => onOutput (f.contract.writePayload snapshot)
  | .writeSnapshot => withSnapshot fun snapshot => onOutput (f.contract.writeSnapshot snapshot)
  | .readSnapshot => do
    let read ← onInput (f.contract.readSnapshot (← get).1.registry)
    update fun session => { session with snapshot := some read }
    seeSnapshot read
  | .readPayload version => withSnapshot fun snapshot => do
    onSnapshotAndInput snapshot (f.contract.readPayload version (← get).1.registry)
  | .restore use => withSnapshot fun snapshot => do
    let restored ← onStore (f.contract.restore snapshot)
    see (.serializer (← onStore (f.contract.describe? restored)))
    match restored, (← get).1.serializer with
    | some restored, some serializer =>
      see (.equal (← onStore (f.contract.equals restored serializer)))
    | _, _ => pure ()
    adopt use restored
  | .resolve blueprint => withSnapshot fun snapshot => do
    match ← against blueprint with
    | none => skip
    | some serializer =>
      let verdict ← onStore (f.contract.resolve snapshot serializer)
      see (.verdict verdict)
      see (.reconfigured (← onStore (f.contract.describe? (← Action.ofExcept verdict.serializer))))
  | .clone use => withSerializer fun s => do
    let clone ← onStore (f.contract.clone (← get).1.registry s)
    see (.serializer (some (← onStore (f.contract.describe clone))))
    see (.equal (← onStore (f.contract.equals clone s)))
    see (.same (f.objectId clone == f.objectId s))
    adopt use (some clone)
  | .register entry => do
    let session := (← get).1
    let registry ← onStore (entry.register session.blueprint session.registry)
    update fun session => { session with registry }
  | .contains id => do see (.contained ((← get).1.registry.contains id))
  | .instantiate id => do
    let ⟨g, snapshot⟩ ← onStore ((← get).1.registry.instantiate id)
    see (.typeName (g.contract.snapshotTypeName snapshot))
    see (.id (g.contract.snapshotId snapshot))
  | .instantiateOwn id => do
    let snapshot ← onStore (f.contract.instantiate (← get).1.registry id)
    see (.typeName (f.contract.snapshotTypeName snapshot))
    see (.version (f.contract.snapshotVersion snapshot))
  | .probe samples => withSerializer fun s => do
    onStore (Nullable.probe f.contract (← get).1.checker s samples)
    see .supported

/-- What is seen of a step: its sights in order, and its failure. -/
structure Record (f : Family) where
  sights : List (Sight f)
  failure : Option Failure

def record (step : SessionStep f) (session : Session f) (store : Store) :
    Record f × Session f × Store :=
  let (result, (session, store)) := (perform step).outcome ({ session with sights := [] }, store)
  let failure := match result with
    | .ok () => none
    | .error failure => some failure
  (⟨session.sights.reverse, failure⟩, session, store)

end Session

end SerializerContract
