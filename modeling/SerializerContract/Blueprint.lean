import SerializerContract.Family

/-!
# Blueprints

Descriptions of serializers and of registry entries, from which they are made anew as often as needed.
-/

namespace SerializerContract

/-- A description of a serializer of a family. -/
inductive Blueprint : Family → Type where
  | nothing {f : Family} : Blueprint f
  | number (kind : NumberKind) : Blueprint .number
  | text (config : TextConfig) : Blueprint .text
  | numbers (kind : NumbersKind) : Blueprint .numbers
  | point : Blueprint .point
  | circle : Blueprint .circle
  /-- A wrapper that keeps a fixed length fixed if asked to. -/
  | wrapped {f : Family} (inner : Blueprint f) (padIfFixed : Bool) : Blueprint (.nullable f)
  | padded {f : Family} (inner : Blueprint f) (padding : Int) : Blueprint (.nullable f)
  /-- A wrapper of plain numbers whose instances are null. -/
  | emptyInstances (name : DeclaredName) : Blueprint (.nullable .number)

namespace Blueprint

/-- Makes a new serializer; null if none is described. -/
def build : {f : Family} → Blueprint f → Action Store (Option f.Serializer)
  | _, .nothing => return none
  | _, .number kind => return some (← Object.make kind)
  | _, .text config => return some (← Object.make config)
  | _, .numbers kind => return some (← Object.make kind)
  | _, .point => return some (← Object.make ())
  | _, .circle => return some (← Object.make ())
  | .nullable f, .wrapped inner padIfFixed => do
    return some (← Wrapper.wrap f.contract (← inner.build) padIfFixed)
  | _, .padded inner padding => do return some (← Wrapper.make (← inner.build) padding)
  | _, .emptyInstances name => do
    let inner : NumberSerializer ← Object.make .plain
    return some (← Object.make { inner, padding := 4, emptyInstances := some name })

/-- The snapshot of a new serializer, as a registry would hold it; null without a serializer. -/
def snapshot {f : Family} (blueprint : Blueprint f) : Action Store (Option Family.AnySnapshot) := do
  match ← blueprint.build with
  | none => return none
  | some serializer => return (← f.contract.snapshot serializer).map fun snapshot => ⟨f, snapshot⟩

end Blueprint

namespace Family

def snapshotId (snapshot : AnySnapshot) : Bytes := (snapshot.1.contract).snapshotId snapshot.2

/-- The empty snapshot types that are known by name. -/
def emptySnapshots : List (String × AnySnapshot) := [
  ("int", ⟨number, NumberSnapshot.plain⟩),
  ("string", ⟨text, TextConfig.unbounded⟩),
  ("bounded", ⟨text, TextConfig.bounded 0⟩),
  ("vector", ⟨numbers, NumbersKind.plain⟩),
  ("point", ⟨point, ()⟩),
  ("circle", ⟨circle, ()⟩),
  ("nullable<int>", ⟨nullable number, ({} : WrapperSnapshot NumberSnapshot)⟩),
  ("nullable<string>", ⟨nullable text, ({} : WrapperSnapshot TextConfig)⟩),
  ("nullable<vector>", ⟨nullable numbers, ({} : WrapperSnapshot NumbersKind)⟩),
  ("nullable<point>", ⟨nullable point, ({} : WrapperSnapshot Unit)⟩),
  ("nullable<circle>", ⟨nullable circle, ({} : WrapperSnapshot Unit)⟩),
  ("nullable<nullable<int>>",
    ⟨nullable (nullable number), ({} : WrapperSnapshot (WrapperSnapshot NumberSnapshot))⟩)]

end Family

inductive RegistryEntry where
  | snapshot (empty : Family.AnySnapshot)
  /-- A snapshot type, or null, under some id. -/
  | named (id : Bytes) (empty : Option Family.AnySnapshot)
  /-- The snapshots of the serializer at hand. -/
  | own

namespace RegistryEntry

def always (empty : Option Family.AnySnapshot) : Action Store (Option Family.AnySnapshot) :=
  pure empty

/-- Registers what is described; `blueprint` describes the serializer at hand. -/
def register {f : Family} (blueprint : Blueprint f) (registry : Registry Store Family.AnySnapshot)
    (entry : RegistryEntry) : Action Store (Registry Store Family.AnySnapshot) :=
  match entry with
  | .snapshot empty => return registry.register (Family.snapshotId empty) (always (some empty))
  | .named id empty => return registry.register id (always empty)
  | .own => do
    match ← blueprint.snapshot with
    | none => return registry
    | some made => return registry.register (Family.snapshotId made) blueprint.snapshot

def registerAll {f : Family} (blueprint : Blueprint f) (registry : Registry Store Family.AnySnapshot) :
    List RegistryEntry → Action Store (Registry Store Family.AnySnapshot)
  | [] => return registry
  | entry :: rest => do registerAll blueprint (← entry.register blueprint registry) rest

end RegistryEntry

end SerializerContract
