import SerializerContract.Sample.Script

/-!
# Serializers of numbers

Serializers of 32-bit numbers: the plain one, those with one defect each, and the scripted ones.
-/

namespace SerializerContract

/-- The ways in which a serializer of numbers breaks its contract. -/
inductive Defect where
  /-- Writes a byte after each number that it does not read. -/
  | trailingByte
  /-- Reports a length that it does not write. -/
  | wrongLength
  /-- Raw copies move only a part of a value. -/
  | brokenRawCopy
  /-- Its snapshot rejects every serializer. -/
  | incompatibleSnapshot
  /-- Equal to itself alone. -/
  | identity
  /-- Duplicates share the slot that numbers pass through. -/
  | sharedScratch
  /-- There are no duplicates. -/
  | nullDuplicate
  /-- There is only one duplicate. -/
  | throwingDuplicate
  /-- Writes nothing at all. -/
  | silent
  /-- Reads two numbers for each one, and keeps the second. -/
  | greedyRead
  /-- Writes every number twice. -/
  | doubleWrite
  /-- Claims four bytes but writes five; otherwise passes for the plain one. -/
  | overlong
deriving DecidableEq, Repr

inductive NumberKind where
  | plain
  | defective (defect : Defect)
  /-- The offset is added to the key of the script. -/
  | scripted (script : Script) (offset : BitVec 32)

abbrev NumberSerializer := Object NumberKind

inductive NumberSnapshot where
  | plain
  | defective (defect : Defect)
  | scripted (script : Script) (offset : BitVec 32)
  /-- Writes a payload that it never reads back. -/
  | unread

namespace Defect

def typeName : Defect → TypeName
  | .trailingByte => faultyType "TrailingBytesSerializer"
  | .wrongLength => faultyType "WrongLengthSerializer"
  | .brokenRawCopy => faultyType "BrokenRawCopySerializer"
  | .incompatibleSnapshot => faultyType "IncompatibleSnapshotSerializer"
  | .identity => faultyType "IdentitySerializer"
  | .sharedScratch => faultyType "SharedScratchSerializer"
  | .nullDuplicate => faultyType "NullDuplicateSerializer"
  | .throwingDuplicate => faultyType "ThrowingDuplicateSerializer"
  | .silent => faultyType "SilentSerializer"
  | .greedyRead => faultyType "GreedyReadSerializer"
  | .doubleWrite => faultyType "DoubleWriteSerializer"
  | .overlong => .ofDeclared ⟨"_GLOBAL__N_1", "OverlongIntSerializer"⟩

end Defect

namespace NumberSerializer

def plain {σ : Type} : Operations σ (BitVec 32) := .ofCodec wordCodec 0 4 (OutputChannel.move 4)

/-- Writes a number by way of a slot. -/
def writeThroughSlot (id : Nat) (v : BitVec 32) : Action (OutputChannel × Store) Unit := do
  Action.onSecond (Store.modifyCell id fun cell => { cell with slot := v })
  let cell ← Action.onSecond (Store.look id)
  Action.onFirst (OutputChannel.write wordCodec cell.slot)

def readSecond : Action InputChannel (BitVec 32) := do
  let _ ← InputChannel.read wordCodec
  InputChannel.read wordCodec

def defective (id : Nat) : Defect → Operations Store (BitVec 32)
  | .trailingByte => { plain with serialize := fun v => Action.onFirst do
      OutputChannel.write wordCodec v
      OutputChannel.writeRaw [0xAB] }
  | .overlong => { plain with serialize := fun v => Action.onFirst do
      OutputChannel.write wordCodec v
      OutputChannel.writeRaw [0] }
  | .wrongLength => { plain with length := return 8 }
  | .brokenRawCopy => { plain with rawCopy := Action.onFirst (OutputChannel.move 3) }
  | .sharedScratch => { plain with serialize := writeThroughSlot id }
  | .silent => { plain with serialize := fun _ => return () }
  | .greedyRead => { plain with
      deserialize := Action.onFirst readSecond
      deserializeInto := do
        let v ← Action.onFirst (Action.onSecond readSecond)
        Action.onFirst (Operations.intoTarget v) }
  | .doubleWrite => { plain with serialize := fun v => Action.onFirst do
      OutputChannel.write wordCodec v
      OutputChannel.write wordCodec v }
  | .incompatibleSnapshot | .identity | .nullDuplicate | .throwingDuplicate => plain

def operations (serializer : NumberSerializer) : Operations Store (BitVec 32) :=
  match serializer.config with
  | .plain => plain
  | .defective defect => defective serializer.id defect
  | .scripted script _ => script.operations serializer.id

/-- Counts a call for a duplicate; how many there were before. -/
def countDuplicate (id : Nat) : Action Store Nat := do
  let earlier := (← Store.look id).duplicates
  Store.modifyCell id fun cell => { cell with duplicates := cell.duplicates + 1 }
  return earlier

/-- The duplicate of a scripted serializer after some earlier ones. -/
def duplicateAfter (serializer : NumberSerializer) (script : Script) (offset : BitVec 32) (earlier : Nat) :
    Action Store (Option NumberSerializer) := do
  let otherwise : Action Store (Option NumberSerializer) :=
    match script.duplicates with
    | .itself => return some serializer
    | .fresh => return some (← Object.make (.scripted script offset))
    | .otherKey => return some (← Object.make (.scripted script (offset + 1)))
    | .nothing => return none
  match script.laterDuplicates with
  | some (first, later) =>
    if first ≤ earlier then return some (← Object.make (.scripted later 0)) else otherwise
  | none => otherwise

/-- A serializer without state is its own duplicate. -/
def duplicate (serializer : NumberSerializer) : Action Store (Option NumberSerializer) :=
  match serializer.config with
  | .defective .nullDuplicate => return none
  | .defective .throwingDuplicate => do
    if (← countDuplicate serializer.id) > 0 then
      throw (.ofKind .runtime "Serializer cannot be duplicated again")
    return some (← Object.make (.defective .throwingDuplicate))
  | .scripted script offset => do
    let earlier ← countDuplicate serializer.id
    script.check .duplicate (some earlier)
    duplicateAfter serializer script offset earlier
  | _ => return some serializer

def hasKey (key : BitVec 32) : NumberKind → Bool
  | .scripted script offset => script.key + offset == key
  | _ => false

def hasDefect (defect : Defect) : NumberKind → Bool
  | .defective other => other == defect
  | _ => false

def isPlain : NumberKind → Bool
  | .plain => true
  | _ => false

/-- Serializers of one type are equal, unless their type says otherwise. -/
def equals (serializer other : NumberSerializer) : Action Store Bool :=
  match serializer.config with
  | .plain => return isPlain other.config
  | .defective .identity => return serializer.isSame other
  | .defective defect => return hasDefect defect other.config
  | .scripted script offset => do
    script.check .equals
    match script.equality with
    | .byKey => return hasKey (script.key + offset) other.config
    | .byIdentity => return serializer.isSame other
    | .never => return false

def typeName (serializer : NumberSerializer) : TypeName :=
  match serializer.config with
  | .plain => sampleType "IntSerializer"
  | .defective defect => defect.typeName
  | .scripted .. => .ofDeclared ⟨"drv", "Scripted"⟩

def snapshot (serializer : NumberSerializer) : Action Store (Option NumberSnapshot) :=
  match serializer.config with
  | .plain => return some .plain
  | .defective .overlong => return some .plain
  | .defective defect => return some (.defective defect)
  | .scripted script offset => do
    script.check .snapshot
    return script.snapshot.map fun _ => .scripted script offset

end NumberSerializer

namespace NumberSnapshot

def scriptOf (script : Script) : SnapshotScript := script.snapshot.getD {}

def id : NumberSnapshot → Bytes
  | .plain => sampleId "IntSerializerSnapshot"
  | .defective defect => Bytes.ofText defect.typeName.text
  | .scripted script _ => (scriptOf script).id
  | .unread => Bytes.ofText "UnreadPayloadSnapshot"

def version : NumberSnapshot → Int
  | .scripted script _ => (scriptOf script).version
  | _ => 1

def typeName : NumberSnapshot → TypeName
  | .plain => sampleType "IntSerializerSnapshot"
  | .defective .incompatibleSnapshot => faultyType "RejectingSnapshot"
  | .defective defect => faultySnapshotType .int32 defect.typeName
  | .scripted .. => .ofDeclared ⟨"drv", "ScriptedSnapshot"⟩
  | .unread => .ofDeclared ⟨"_GLOBAL__N_1", "UnreadPayloadSnapshot"⟩

def writePayload : NumberSnapshot → Action (OutputChannel × Store) Unit
  | .scripted script _ => do
    script.check .writePayload
    Action.onFirst (OutputChannel.writeRaw (scriptOf script).written)
  | .unread => Action.onFirst (OutputChannel.write wordCodec 1)
  | _ => return ()

/-- Reading a payload changes nothing in these snapshots. -/
def readPayload (version : Int) : Action ((NumberSnapshot × InputChannel) × Store) Unit := do
  match (← get).1.1 with
  | .scripted script _ =>
    script.check .readPayload (some version)
    Action.onFirst (Action.onSecond (InputChannel.skip (scriptOf script).read))
  | _ => return ()

def rebuild (script : Script) (offset : BitVec 32) : Rebuilt → Action Store (Option NumberSerializer)
  | .same => return some (← Object.make (.scripted script offset))
  | .nothing => return none
  | .plain => return some (← Object.make .plain)
  | .otherKey => return some (← Object.make (.scripted script (offset + 1)))

def restore : NumberSnapshot → Action Store (Option NumberSerializer)
  | .plain | .unread => return some (← Object.make .plain)
  | .defective defect => return some (← Object.make (.defective defect))
  | .scripted script offset => do
    script.check .restore
    rebuild script offset (scriptOf script).restored

/-- Every serializer of numbers is an extension of the plain one, and none extends a defective one. -/
def resolve (snapshot : NumberSnapshot) (serializer : NumberSerializer) :
    Action Store (Compatibility NumberSerializer) :=
  match snapshot with
  | .plain | .unread => return .asIs
  | .defective .incompatibleSnapshot => return .incompatible
  | .defective defect => return if NumberSerializer.hasDefect defect serializer.config then .asIs else .incompatible
  | .scripted script offset => do
    script.check .resolve
    match (scriptOf script).verdict with
    | .asIs => return .asIs
    | .incompatible => return .incompatible
    | .rebuilt serializer => return .reconfigured (← rebuild script offset serializer)

end NumberSnapshot

def NumberSerializer.contract {A : Type} (ofAny : A → Option NumberSnapshot) :
    Contract Store A .int32 NumberSerializer NumberSnapshot where
  operations := NumberSerializer.operations
  duplicate := NumberSerializer.duplicate
  equals := NumberSerializer.equals
  typeName serializer := serializer.typeName.text
  snapshot := NumberSerializer.snapshot
  ofAny := ofAny
  snapshotId := NumberSnapshot.id
  snapshotVersion := NumberSnapshot.version
  snapshotTypeName snapshot := snapshot.typeName.text
  writePayload := NumberSnapshot.writePayload
  readPayload version _ := NumberSnapshot.readPayload version
  restore := NumberSnapshot.restore
  resolve := NumberSnapshot.resolve

end SerializerContract
