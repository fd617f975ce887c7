import SerializerContract.Channel
import SerializerContract.ValueType.Basic

/-!
# The contract of a serializer

What every serializer under test must offer. Serializers and their configuration snapshots are
references; all that they can remember is in a store of type `σ`, so that a serializer is an arbitrary
state machine, and two references can be one object.
-/

namespace SerializerContract

/-- What an operation on a reuse target returns: the target itself, or some other value. -/
inductive Returned (α : Type) where
  | target
  | other (v : α)
deriving DecidableEq, Repr

/-- The value that is returned, given the target after the operation. -/
def Returned.value {α : Type} (target : α) : Returned α → α
  | .target => target
  | .other v => v

/-- The operations of a serializer on values of type `α`. -/
structure Operations (σ α : Type) where
  /-- A default value, used as a reuse target. -/
  create : Action σ α
  copy : α → Action σ α
  copyInto : α → Action (α × σ) (Returned α)
  /-- Copies exactly one serialized value from one channel to another without decoding it. -/
  rawCopy : Action ((InputChannel × OutputChannel) × σ) Unit
  /-- The size of every serialized value in bytes, or `variableLength`. -/
  length : Action σ Int
  serialize : α → Action (OutputChannel × σ) Unit
  deserialize : Action (InputChannel × σ) α
  deserializeInto : Action ((α × InputChannel) × σ) (Returned α)

/-- The length reported by serializers whose values vary in size. -/
def variableLength : Int := -1

/-- How a snapshot that was read back relates to the serializer now in use. -/
inductive Compatibility (S : Type) where
  /-- The snapshot can recreate a serializer as it is. -/
  | asIs
  /-- A different serializer has to be used from now on; none if the reference is null. -/
  | reconfigured (serializer : Option S)
  /-- Data written with the snapshot cannot be read. -/
  | incompatible
deriving DecidableEq, Repr

namespace Compatibility

variable {S : Type}

def describe : Compatibility S → String
  | .asIs => "SchemaCompatibility\x7bCOMPATIBLE_AS_IS\x7d"
  | .reconfigured _ => "SchemaCompatibility\x7bCOMPATIBLE_WITH_RECONFIGURED_SERIALIZER\x7d"
  | .incompatible => "SchemaCompatibility\x7bINCOMPATIBLE\x7d"

def isAsIs : Compatibility S → Bool
  | .asIs => true
  | _ => false

def isReconfigured : Compatibility S → Bool
  | .reconfigured _ => true
  | _ => false

def isIncompatible : Compatibility S → Bool
  | .incompatible => true
  | _ => false

/-- The serializer to use from now on; there is one only for this outcome. -/
def serializer : Compatibility S → Except Failure (Option S)
  | .reconfigured serializer => .ok serializer
  | other => .error (.ofKind .logic ("No reconfigured serializer for " ++ other.describe))

end Compatibility

/-- Makes an empty snapshot; null if there is none to make. -/
abbrev Factory (σ A : Type) := Action σ (Option A)

/-- Factories of empty snapshots, each registered under the id of the snapshot type. -/
structure Registry (σ A : Type) where
  factories : List (Bytes × Factory σ A) := []

/-- A family of serializers `S` of values of type `t` and of their snapshots `N`. `A` is the type of
snapshots of any family, which registries hold. -/
structure Contract (σ A : Type) (t : ValueType) (S N : Type) where
  operations : S → Operations σ t.Val
  /-- A serializer that can be used beside this one; null if there is none. -/
  duplicate : S → Action σ (Option S)
  /-- Serializers are equal if they are configured the same way. -/
  equals : S → S → Action σ Bool
  /-- The name of the serializer's own type. -/
  typeName : S → String
  /-- A description of the configuration; null if there is none. -/
  snapshot : S → Action σ (Option N)
  /-- A registry's snapshot, if it belongs to this family. -/
  ofAny : A → Option N
  /-- The name that the snapshot type is registered under. -/
  snapshotId : N → Bytes
  snapshotVersion : N → Int
  snapshotTypeName : N → String
  writePayload : N → Action (OutputChannel × σ) Unit
  /-- Takes over the contents of a payload that was written by some version. -/
  readPayload : Int → Registry σ A → Action ((N × InputChannel) × σ) Unit
  /-- The serializer that the snapshot describes; null if there is none. -/
  restore : N → Action σ (Option S)
  resolve : N → S → Action σ (Compatibility S)

end SerializerContract
