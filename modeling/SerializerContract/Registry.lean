import SerializerContract.Contract
import SerializerContract.ValueType.Codec
import SerializerContract.ValueType.Name

/-!
# Snapshots in bytes

A snapshot is written as its id, its version and its payload with a length. It is read back by making
an empty snapshot of the registered type and letting it read the payload, all of it. A serializer is
cloned by going through the bytes of its snapshot.
-/

namespace SerializerContract

namespace Registry

variable {σ A : Type}

/-- Registers a factory under an id, in place of an earlier one. -/
def register (registry : Registry σ A) (id : Bytes) (factory : Factory σ A) : Registry σ A :=
  ⟨(id, factory) :: registry.factories⟩

def find (registry : Registry σ A) (id : Bytes) : Option (Factory σ A) := registry.factories.lookup id

def contains (registry : Registry σ A) (id : Bytes) : Bool := (registry.find id).isSome

def quoted (id : Bytes) : String := "\"" ++ id.toText ++ "\""

/-- Makes an empty snapshot of a registered type. -/
def instantiate (registry : Registry σ A) (id : Bytes) : Action σ A := do
  match registry.find id with
  | none => throw (.deserialization ("Unknown snapshot type " ++ quoted id))
  | some factory =>
    match ← factory with
    | none => throw (.deserialization ("Factory of snapshot type " ++ quoted id ++ " returned null"))
    | some snapshot => return snapshot

end Registry

def stringCodec : Codec Bytes := .contiguous .network .byte

def wordCodec : Codec (BitVec 32) := .number .network 4

def boolCodec : Codec (BitVec 8) := .number .network 1

namespace Contract

variable {σ A S N : Type} {t : ValueType}

/-- Makes an empty snapshot of a registered type that belongs to the family. -/
def instantiate (C : Contract σ A t S N) (registry : Registry σ A) (id : Bytes) : Action σ N := do
  match C.ofAny (← registry.instantiate id) with
  | none =>
    throw (.deserialization
      ("Snapshot type " ++ Registry.quoted id ++ " does not describe serializers of " ++ t.name))
  | some snapshot => return snapshot

/-- Writes a snapshot: id, version and payload. -/
def writeSnapshot (C : Contract σ A t S N) (snapshot : N) : Action (OutputChannel × σ) Unit := do
  let ((), payload) ← Action.onSecond (Action.withLocal {} (C.writePayload snapshot))
  Action.onFirst do
    OutputChannel.write stringCodec (C.snapshotId snapshot)
    OutputChannel.write wordCodec (BitVec.ofInt 32 (C.snapshotVersion snapshot))
    OutputChannel.write wordCodec (BitVec.ofNat 32 payload.size)
    OutputChannel.writeRaw payload.data

def readSnapshot (C : Contract σ A t S N) (registry : Registry σ A) :
    Action (InputChannel × σ) N := do
  let id ← Action.onFirst (InputChannel.read stringCodec)
  let version ← Action.onFirst (InputChannel.read wordCodec)
  let length ← Action.onFirst (InputChannel.read wordCodec)
  let bytes ← Action.onFirst (InputChannel.readRaw length.toNat)
  Action.onSecond do
    let empty ← C.instantiate registry id
    let ((), (snapshot, payload)) ←
      Action.withLocal (empty, InputChannel.ofBytes bytes) (C.readPayload version.toInt registry)
    if payload.available ≠ 0 then
      throw (.deserialization ("Snapshot " ++ Registry.quoted id ++ " left " ++
        payload.available.repr ++ " bytes of its payload unread"))
    return snapshot

/-- Clones a serializer by writing its snapshot and restoring a serializer from the bytes. -/
def clone (C : Contract σ A t S N) (registry : Registry σ A) (serializer : S) :
    Action σ S := do
  match ← C.snapshot serializer with
  | none => throw (.serialization "Serializer returned null configuration snapshot")
  | some snapshot =>
    let ((), out) ← Action.withLocal {} (C.writeSnapshot snapshot)
    let (read, _) ← Action.withLocal out.inputView (C.readSnapshot registry)
    match ← C.restore read with
    | none =>
      throw (.serialization
        ("Snapshot " ++ Registry.quoted (C.snapshotId snapshot) ++ " restored null serializer"))
    | some restored => return restored

end Contract

end SerializerContract
