import SerializerContract.Blueprint
import SerializerContract.SelfCheck.Scenario

/-!
# Scenarios about snapshots
-/

namespace SerializerContract.SelfCheck

open Scenario

abbrev AnyRegistry := Registry Store Family.AnySnapshot

/-- A registry with some snapshot types, each under its own id. -/
def registryOf (snapshots : List Family.AnySnapshot) : Scenario AnyRegistry :=
  onStore (RegistryEntry.registerAll (f := .number) .nothing {} (snapshots.map .snapshot))

def emptyNumber : Family.AnySnapshot := ⟨.number, NumberSnapshot.plain⟩

def emptyText : Family.AnySnapshot := ⟨.text, TextConfig.unbounded⟩

def emptyBounded : Family.AnySnapshot := ⟨.text, TextConfig.bounded 0⟩

def make {κ : Type} (config : κ) : Scenario (Object κ) := onStore (Object.make config)

def equalSerializers (f : Family) (left right : f.Serializer) : Scenario Unit := do
  claim (.equal .unshown .unshown) (← onStore (f.contract.equals left right))

def differentSerializers (f : Family) (left right : f.Serializer) : Scenario Unit := do
  claim (.different .unshown .unshown) (!(← onStore (f.contract.equals left right)))

def written (f : Family) (snapshot : f.Snapshot) : Scenario OutputChannel :=
  onStore do
    let ((), out) ← Action.withLocal {} (f.contract.writeSnapshot snapshot)
    return out

def tryRead (f : Family) (registry : AnyRegistry) (input : InputChannel) :
    Scenario (Except Failure (f.Snapshot × InputChannel)) :=
  tryOnStore (Action.withLocal input (f.contract.readSnapshot registry))

def registrySection (registry : AnyRegistry) : Scenario AnyRegistry := do
  let numberId := sampleId "IntSerializerSnapshot"
  let pointId := sampleId "PointSerializerSnapshot"
  holds (registry.contains numberId)
  refuted (registry.contains pointId)
  let made ← onStore (registry.instantiate numberId)
  let isNumber := (Family.snapshotOf .number made).any fun snapshot =>
    match (snapshot : NumberSnapshot) with
    | .plain => true
    | _ => false
  claim (.holds (if isNumber then .reference else .null)) isNumber
  fails (ofKind .deserialization) (← tryOnStore (registry.instantiate pointId))
  fails (ofKind .deserialization) (← tryOnStore (Family.text.contract.instantiate registry numberId))
  let id := Bytes.ofText "NullFactory"
  let registry := registry.register id (RegistryEntry.always none)
  fails (ofKind .deserialization) (← tryOnStore (registry.instantiate id))
  return registry

def writeAndReadBack (registry : AnyRegistry) : Scenario AnyRegistry := do
  let out ← written .text (TextConfig.bounded 16)
  let (id, input) ← run out.inputView (InputChannel.read stringCodec)
  equalTexts id.toText "Samples::BoundedStringSerializerSnapshot"
  let (version, input) ← run input (InputChannel.read wordCodec)
  equalNumbers version.toInt 2
  let (length, _) ← run input (InputChannel.read wordCodec)
  equalNumbers length.toNat 4
  let (snapshot, input) ← Action.ofExcept (← tryRead .text registry out.inputView)
  equalNumbers input.available 0
  match ← onStore (Family.text.contract.restore snapshot) with
  | none => claim (.equal .null .unshown) false
  | some restored =>
    equalSerializers .text restored (← make (TextConfig.bounded 16))
    differentSerializers .text restored (← make (TextConfig.bounded 17))
  return registry

def truncated (registry : AnyRegistry) : Scenario AnyRegistry := do
  let out ← written .text (TextConfig.bounded 16)
  fails (ofKind .deserialization) (← tryRead .text registry (.ofBytes out.data.dropLast))
  return registry

def unknownType (registry : AnyRegistry) : Scenario AnyRegistry := do
  let out ← written .point ()
  fails (ofKind .deserialization) (← tryRead .point registry out.inputView)
  return registry

def unreadPayload (registry : AnyRegistry) : Scenario AnyRegistry := do
  let registry := registry.register (NumberSnapshot.id .unread)
    (RegistryEntry.always (some ⟨.number, NumberSnapshot.unread⟩))
  let out ← written .number NumberSnapshot.unread
  fails (ofKind .deserialization) (← tryRead .number registry out.inputView)
  return registry

def clones (registry : AnyRegistry) : Scenario AnyRegistry := do
  let serializer ← make (TextConfig.bounded 8)
  let clone : TextSerializer ← onStore (Family.text.contract.clone registry serializer)
  claim (.holds .reference) true
  claim (.different .reference .reference) (!clone.isSame serializer)
  equalSerializers .text clone serializer
  let unregistered ← make ()
  fails (ofKind .deserialization) (← tryOnStore (Family.point.contract.clone registry unregistered))
  return registry

def verdictOn (f : Family) (snapshot : f.Snapshot) (serializer : f.Serializer) :
    Scenario (Compatibility f.Serializer) := onStore (f.contract.resolve snapshot serializer)

/-- The serializer that a verdict says to use must equal an expected one. -/
def reconfiguredIs (f : Family) (verdict : Compatibility f.Serializer) (expected : f.Serializer) :
    Scenario Unit := do
  match ← Action.ofExcept verdict.serializer with
  | none => claim (.equal .null .unshown) false
  | some serializer => equalSerializers f serializer expected

def compatibility : Scenario Unit := do
  let snapshot := TextConfig.bounded 8
  let larger ← verdictOn .text snapshot (← make (TextConfig.bounded 10))
  holds larger.isReconfigured
  reconfiguredIs .text larger (← make (TextConfig.bounded 8))
  let smaller ← verdictOn .text snapshot (← make (TextConfig.bounded 4))
  holds smaller.isIncompatible
  equalTexts smaller.describe "SchemaCompatibility\x7bINCOMPATIBLE\x7d"
  fails (ofKind .logic) smaller.serializer
  holds (← verdictOn .text snapshot (← make TextConfig.unbounded)).isIncompatible
  let simple := TextConfig.unbounded
  holds (← verdictOn .text simple (← make TextConfig.unbounded)).isAsIs
  holds (← verdictOn .text simple (← make (TextConfig.bounded 4))).isIncompatible
  equalTexts (Compatibility.describe (.asIs : Compatibility TextSerializer))
    "SchemaCompatibility\x7bCOMPATIBLE_AS_IS\x7d"

/-- The sections share one registry. -/
def snapshots : Scenario Unit := do
  let registry ← registryOf [emptyNumber, emptyBounded, emptyText]
  let registry ← through "Registry" registrySection registry
  let registry ← through "Write and read back" writeAndReadBack registry
  let registry ← through "Truncated snapshot" truncated registry
  let registry ← through "Unknown snapshot type" unknownType registry
  let registry ← through "Unread payload" unreadPayload registry
  let _ ← through "Clone" clones registry
  inSection "Schema compatibility" compatibility

end SerializerContract.SelfCheck
