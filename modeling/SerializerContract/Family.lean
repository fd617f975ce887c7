import SerializerContract.Nullable.Contract
import SerializerContract.Sample.Geometry
import SerializerContract.Sample.Number
import SerializerContract.Sample.Numbers
import SerializerContract.Sample.Text

/-!
# Families of serializers

The sample families, and the wrappers over them to any depth, as one family of contracts. A registry
holds snapshots of all of them.
-/

namespace SerializerContract

/-- The families of serializers, one for each type of values. -/
inductive Family where
  | number
  | text
  | numbers
  | point
  | circle
  | nullable (inner : Family)
deriving DecidableEq, Repr

namespace Family

def type : Family → ValueType
  | number => .int32
  | text => .string
  | numbers => .int64s
  | point => .point
  | circle => .shapePointer
  | nullable inner => .optional inner.type

abbrev Value (f : Family) : Type := f.type.Val

def Serializer : Family → Type
  | number => NumberSerializer
  | text => TextSerializer
  | numbers => NumbersSerializer
  | point => PointSerializer
  | circle => CircleSerializer
  | nullable inner => Object (Wrapper inner.Serializer)

def Snapshot : Family → Type
  | number => NumberSnapshot
  | text => TextConfig
  | numbers => NumbersKind
  | point => Unit
  | circle => Unit
  | nullable inner => WrapperSnapshot inner.Snapshot

abbrev AnySnapshot : Type := (f : Family) × f.Snapshot

/-- The snapshot, if it is one of the given family. -/
def snapshotOf (f : Family) (snapshot : AnySnapshot) : Option f.Snapshot :=
  if h : snapshot.1 = f then some (h ▸ snapshot.2) else none

/-- The serializers of a family as a contract. -/
def contract : (f : Family) → Contract Store AnySnapshot f.type f.Serializer f.Snapshot
  | number => NumberSerializer.contract (snapshotOf number)
  | text => TextSerializer.contract (snapshotOf text)
  | numbers => NumbersSerializer.contract (snapshotOf numbers)
  | point => PointSerializer.contract (snapshotOf point)
  | circle => CircleSerializer.contract (snapshotOf circle)
  | nullable inner => Wrapper.contract inner.contract (snapshotOf (nullable inner))

/-- The object that a serializer is. -/
def objectId : (f : Family) → f.Serializer → Nat
  | number, serializer => Object.id serializer
  | text, serializer => Object.id serializer
  | numbers, serializer => Object.id serializer
  | point, serializer => Object.id serializer
  | circle, serializer => Object.id serializer
  | nullable _, serializer => Object.id serializer

end Family

end SerializerContract
