import SerializerContract.Sample.Building

/-!
# Serializers of texts

Texts with a length field, of any length or of a limited one. Data written with a limit can be read with
the same or a larger limit; the limit that was restored is kept for such data.
-/

namespace SerializerContract

inductive TextConfig where
  | unbounded
  /-- The most bytes that a text may have. -/
  | bounded (limit : BitVec 32)
deriving DecidableEq, Repr

abbrev TextSerializer := Object TextConfig

namespace TextSerializer

def unbounded {σ : Type} : Operations σ Bytes :=
  .ofCodec stringCodec [] variableLength (Operations.rawCopyCounted 1 Operations.anyLength)

def checkLength (limit : BitVec 32) (length : Nat) : Except Failure Unit :=
  if limit.toNat < length then
    .error (.serialization ("String of length " ++ length.repr ++ " exceeds the limit of " ++
      limit.toNat.repr))
  else .ok ()

/-- Reads a text into the reuse target, and then looks at its length. -/
def readBounded {σ : Type} (limit : BitVec 32) : Action ((Bytes × InputChannel) × σ) Unit := do
  Action.onFirst (InputChannel.readInto stringCodec)
  Action.ofExcept (checkLength limit (← get).1.1.length)

def bounded {σ : Type} (limit : BitVec 32) : Operations σ Bytes := { unbounded with
  rawCopy := Action.onFirst (Operations.rawCopyCounted 1 (checkLength limit))
  serialize := fun v => do
    Action.ofExcept (checkLength limit v.length)
    Action.onFirst (OutputChannel.write stringCodec v)
  deserialize := Action.of fun (input, state) =>
    let (result, ((v, input), state)) := (readBounded limit).outcome (([], input), state)
    (result.map fun () => v, (input, state))
  deserializeInto := do
    readBounded limit
    return .target }

def operations (serializer : TextSerializer) : Operations Store Bytes :=
  match serializer.config with
  | .unbounded => unbounded
  | .bounded limit => bounded limit

def typeName (serializer : TextSerializer) : TypeName :=
  match serializer.config with
  | .unbounded => sampleType "StringSerializer"
  | .bounded _ => sampleType "BoundedStringSerializer"

end TextSerializer

/-! ## Snapshots: a snapshot is a configuration -/

namespace TextConfig

def snapshotIdent : TextConfig → String
  | .unbounded => "StringSerializerSnapshot"
  | .bounded _ => "BoundedStringSerializerSnapshot"

def version : TextConfig → Int
  | .unbounded => 1
  | .bounded _ => 2

/-- The payload is the limit. -/
def writePayload : TextConfig → Action (OutputChannel × Store) Unit
  | .unbounded => return ()
  | .bounded limit => Action.onFirst (OutputChannel.write wordCodec limit)

/-- Limits are read from the current version on. -/
def readPayload (version : Int) : Action ((TextConfig × InputChannel) × Store) Unit := do
  match (← get).1.1 with
  | .unbounded => return ()
  | .bounded _ =>
    if version < 2 then
      throw (.deserialization ("Unsupported snapshot version " ++ version.repr))
    let limit ← Action.onFirst (Action.onSecond (InputChannel.read wordCodec))
    modify fun ((_, input), state) => ((.bounded limit, input), state)

/-- A limited serializer takes over data written with a limit that is not above its own. -/
def resolve (snapshot : TextConfig) (serializer : TextSerializer) :
    Action Store (Compatibility TextSerializer) :=
  match snapshot, serializer.config with
  | .unbounded, .unbounded => return .asIs
  | .bounded limit, .bounded other =>
    if other < limit then return .incompatible
    else return .reconfigured (some (← Object.make snapshot))
  | _, _ => return .incompatible

end TextConfig

def TextSerializer.contract {A : Type} (ofAny : A → Option TextConfig) :
    Contract Store A .string TextSerializer TextConfig where
  operations := TextSerializer.operations
  duplicate serializer := do return some (← Object.make serializer.config)
  equals serializer other := return serializer.config == other.config
  typeName serializer := serializer.typeName.text
  snapshot serializer := return some serializer.config
  ofAny := ofAny
  snapshotId snapshot := sampleId snapshot.snapshotIdent
  snapshotVersion := TextConfig.version
  snapshotTypeName snapshot := (sampleType snapshot.snapshotIdent).text
  writePayload := TextConfig.writePayload
  readPayload version _ := TextConfig.readPayload version
  restore snapshot := do return some (← Object.make snapshot)
  resolve := TextConfig.resolve

end SerializerContract
