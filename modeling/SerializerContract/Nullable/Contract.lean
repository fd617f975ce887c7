import SerializerContract.Nullable
import SerializerContract.Registry
import SerializerContract.Store

/-!
# The family of serializers of optional values

Over every family of serializers there is a family of their wrappers. The snapshot of a wrapper nests
the snapshot of what it wraps.
-/

namespace SerializerContract

/-- A configuration: the wrapped serializer and the padding of null values. -/
structure Wrapper (S : Type) where
  inner : S
  padding : Nat
  /-- The type of an extension whose instances are null, if this is one. -/
  emptyInstances : Option DeclaredName := none
deriving DecidableEq, Repr

structure WrapperSnapshot (N : Type) where
  /-- The snapshot of the wrapped serializer, if there is one. -/
  nested : Option N := none
  padding : Int := 0
deriving DecidableEq, Repr

namespace Wrapper

variable {σ A S N : Type} {t : ValueType}

/-- The wrapper of a serializer, which must not be null, with some padding. -/
def make (inner : Option S) (padding : Int) : Action Store (Object (Wrapper S)) := do
  match inner with
  | none => throw Nullable.nothingWrapped
  | some inner =>
    let padding ← Action.ofExcept (Nullable.checkPadding padding)
    Object.make { inner, padding }

/-- The wrapper of a serializer that keeps a fixed length fixed if asked to. -/
def wrap (C : Contract Store A t S N) (inner : Option S) (padIfFixed : Bool) :
    Action Store (Object (Wrapper S)) := do
  match inner with
  | none => throw Nullable.nothingWrapped
  | some serializer => make inner (← Nullable.paddingFor (C.operations serializer) padIfFixed)

def operations (C : Contract σ A t S N) (wrapper : Wrapper S) : Operations σ (Option t.Val) :=
  let operations := Nullable.operations (C.operations wrapper.inner) wrapper.padding
  if wrapper.emptyInstances.isSome then { operations with create := return none } else operations

def genericType (ident : String) (t : ValueType) : TypeName :=
  .generic (.ofDeclared ⟨"Conformance", ident⟩) (TypeName.args [t.typeName])

def typeName (t : ValueType) (wrapper : Wrapper S) : TypeName :=
  match wrapper.emptyInstances with
  | some name => .ofDeclared name
  | none => genericType "NullableSerializer" t

end Wrapper

namespace WrapperSnapshot

variable {σ A S N : Type} {t : ValueType}

def nothingNested : Failure := .serialization "Nullable serializer snapshot has no nested snapshot"

/-- The payload is the padding and the whole snapshot of what is wrapped. -/
def writePayload (C : Contract σ A t S N) (snapshot : WrapperSnapshot N) :
    Action (OutputChannel × σ) Unit := do
  match snapshot.nested with
  | none => throw nothingNested
  | some nested =>
    Action.onFirst (OutputChannel.write wordCodec (BitVec.ofInt 32 snapshot.padding))
    C.writeSnapshot nested

def readPayload (C : Contract σ A t S N) (registry : Registry σ A) :
    Action ((WrapperSnapshot N × InputChannel) × σ) Unit := fun ((snapshot, input), state) =>
  match (InputChannel.read wordCodec).outcome input with
  | (.error failure, input) => (.error failure, ((snapshot, input), state))
  | (.ok padding, input) =>
    let snapshot := { snapshot with padding := padding.toInt }
    match (C.readSnapshot registry).outcome (input, state) with
    | (.error failure, (input, state)) => (.error failure, ((snapshot, input), state))
    | (.ok nested, (input, state)) => (.ok (), (({ snapshot with nested := some nested }, input), state))

def restore (C : Contract Store A t S N) (snapshot : WrapperSnapshot N) :
    Action Store (Object (Wrapper S)) := do
  match snapshot.nested with
  | none => throw nothingNested
  | some nested => Wrapper.make (← C.restore nested) snapshot.padding

/-- The verdict is the one about the wrapped serializers, if the paddings are the same. -/
def resolve (C : Contract Store A t S N) (snapshot : WrapperSnapshot N) (wrapper : Wrapper S) :
    Action Store (Compatibility (Object (Wrapper S))) := do
  match snapshot.nested with
  | none => return .incompatible
  | some nested =>
    if (wrapper.padding : Int) ≠ snapshot.padding then return .incompatible
    else
      match ← C.resolve nested wrapper.inner with
      | .asIs => return .asIs
      | .incompatible => return .incompatible
      | .reconfigured inner => return .reconfigured (some (← Wrapper.make inner snapshot.padding))

end WrapperSnapshot

def Wrapper.contract {A S N : Type} {t : ValueType} (C : Contract Store A t S N)
    (ofAny : A → Option (WrapperSnapshot N)) :
    Contract Store A (.optional t) (Object (Wrapper S)) (WrapperSnapshot N) where
  operations serializer := Wrapper.operations C serializer.config
  duplicate serializer := do
    return some (← Wrapper.make (← C.duplicate serializer.config.inner) serializer.config.padding)
  equals serializer other := do
    if serializer.config.padding = other.config.padding then
      C.equals serializer.config.inner other.config.inner
    else return false
  typeName serializer := (serializer.config.typeName t).text
  snapshot serializer := do
    return some ⟨← C.snapshot serializer.config.inner, serializer.config.padding⟩
  ofAny := ofAny
  snapshotId _ := Bytes.ofText ("NullableSerializerSnapshot<" ++ t.name ++ ">")
  snapshotVersion _ := 1
  snapshotTypeName _ := (genericType "NullableSerializerSnapshot" t).text
  writePayload := WrapperSnapshot.writePayload C
  readPayload _ := WrapperSnapshot.readPayload C
  restore snapshot := do return some (← WrapperSnapshot.restore C snapshot)
  resolve snapshot serializer := WrapperSnapshot.resolve C snapshot serializer.config

end SerializerContract
