import SerializerContract.Sample.Building

/-!
# Serializers of lists of numbers

Lists of 64-bit numbers with a length field, which are written by way of a scratch channel. Every
serializer has a channel of its own, so duplicates can work beside each other.
-/

namespace SerializerContract

inductive NumbersKind where
  | plain
  /-- Copies keep the old contents of a reuse target that is not empty. -/
  | stale
deriving DecidableEq, Repr

abbrev NumbersSerializer := Object NumbersKind

namespace NumbersSerializer

def codec : Codec (List (BitVec 64)) := .contiguous .network (.number .network 8)

/-- Writes a list by way of the scratch channel. -/
def writeThroughScratch (id : Nat) (v : List (BitVec 64)) : Action (OutputChannel × Store) Unit := do
  Action.onSecond (Store.onScratch id do
    OutputChannel.clear
    OutputChannel.write codec v)
  let cell ← Action.onSecond (Store.look id)
  Action.onFirst (OutputChannel.writeRaw cell.scratch.data)

def plain (id : Nat) : Operations Store (List (BitVec 64)) := {
  Operations.ofCodec codec [] variableLength (Operations.rawCopyCounted 8 Operations.anyLength) with
  serialize := writeThroughScratch id }

/-- Copies into a reuse target only if it is empty. -/
def copyIfEmpty (v : List (BitVec 64)) : Action (List (BitVec 64) × Store) (Returned (List (BitVec 64))) :=
  fun (target, store) => (.ok .target, (if target.isEmpty then v else target, store))

def operations (serializer : NumbersSerializer) : Operations Store (List (BitVec 64)) :=
  match serializer.config with
  | .plain => plain serializer.id
  | .stale => { plain serializer.id with copyInto := copyIfEmpty }

def typeName : NumbersKind → TypeName
  | .plain => sampleType "ScratchVectorSerializer"
  | .stale => faultyType "StaleReuseSerializer"

def snapshotType : NumbersKind → TypeName
  | .plain => sampleType "ScratchVectorSerializerSnapshot"
  | .stale => faultySnapshotType .int64s (typeName .stale)

def snapshotId : NumbersKind → Bytes
  | .plain => sampleId "ScratchVectorSerializerSnapshot"
  | .stale => Bytes.ofText (typeName .stale).text

/-- The stale serializer is an extension of the plain one. -/
def resolve (snapshot : NumbersKind) (serializer : NumbersSerializer) : Compatibility NumbersSerializer :=
  match snapshot, serializer.config with
  | .stale, .plain => .incompatible
  | _, _ => .asIs

/-- The family of serializers of lists of numbers. Duplicates are plain; a snapshot is the kind. -/
def contract {A : Type} (ofAny : A → Option NumbersKind) :
    Contract Store A .int64s NumbersSerializer NumbersKind where
  operations := operations
  duplicate _ := do return some (← Object.make .plain)
  equals serializer other := return serializer.config == other.config
  typeName serializer := (typeName serializer.config).text
  snapshot serializer := return some serializer.config
  ofAny := ofAny
  snapshotId := snapshotId
  snapshotVersion _ := 1
  snapshotTypeName snapshot := (snapshotType snapshot).text
  writePayload _ := return ()
  readPayload _ _ := return ()
  restore snapshot := do return some (← Object.make snapshot)
  resolve snapshot serializer := return resolve snapshot serializer

end NumbersSerializer

end SerializerContract
