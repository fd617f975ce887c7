import SerializerContract.Nullable
import SerializerContract.Registry
import SerializerContract.Store

/-!
# Building serializers

The parts that serializers with one obvious encoding have in common, and snapshots of serializers
without any configuration.
-/

namespace SerializerContract

namespace Operations

variable {σ α : Type}

/-- Puts a value into the reuse target, which is then returned. -/
def intoTarget (v : α) : Action (α × σ) (Returned α) := fun (_, state) => (.ok .target, (v, state))

/-- Decodes right into the reuse target, which is then returned. -/
def readIntoTarget (codec : Codec α) : Action ((α × InputChannel) × σ) (Returned α) := do
  Action.onFirst (InputChannel.readInto codec)
  return .target

/-- The operations on values that are written by a codec. -/
def ofCodec (codec : Codec α) (initial : α) (length : Int)
    (rawCopy : Action (InputChannel × OutputChannel) Unit) : Operations σ α where
  create := return initial
  copy v := return v
  copyInto := intoTarget
  rawCopy := Action.onFirst rawCopy
  length := return length
  serialize v := Action.onFirst (OutputChannel.write codec v)
  deserialize := Action.onFirst (InputChannel.read codec)
  deserializeInto := readIntoTarget codec

/-- Copies a length field and as many elements, if the length is in order. -/
def rawCopyCounted (elementSize : Nat) (check : Nat → Except Failure Unit) :
    Action (InputChannel × OutputChannel) Unit := do
  let length ← Action.onFirst (InputChannel.read wordCodec)
  Action.ofExcept (check length.toNat)
  Action.onSecond (OutputChannel.write wordCodec length)
  OutputChannel.move (length.toNat * elementSize)

def anyLength (_ : Nat) : Except Failure Unit := .ok ()

end Operations

/-- The type of a correct serializer of the library, or of its snapshot. -/
def sampleType (ident : String) : TypeName := .ofDeclared ⟨"Samples", ident⟩

def sampleId (ident : String) : Bytes := Bytes.ofText ("Samples::" ++ ident)

def faultyType (ident : String) : TypeName := .ofDeclared ⟨"Faulty", ident⟩

def faultySnapshotType (t : ValueType) (serializer : TypeName) : TypeName :=
  .generic (faultyType "Snapshot") (TypeName.args [t.typeName, serializer])

end SerializerContract
