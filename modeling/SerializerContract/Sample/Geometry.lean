import SerializerContract.Sample.Building
import SerializerContract.ValueType.Dynamic

/-!
# Serializers of points and circles

Points are two coordinates, read both or not at all. Circles are shapes behind pointers: shapes of other
types, and null, are refused.
-/

namespace SerializerContract

def doubleCodec : Codec (BitVec 64) := .number .network 8

abbrev PointSerializer := Object Unit

namespace PointSerializer

def read : Action InputChannel Point := do
  let (x, y) ← InputChannel.read (.both doubleCodec doubleCodec)
  return ⟨x, y⟩

def operations {σ : Type} : Operations σ Point where
  create := return ⟨0, 0⟩
  copy v := return v
  copyInto := Operations.intoTarget
  rawCopy := Action.onFirst (OutputChannel.move 16)
  length := return 16
  serialize v := Action.onFirst do
    OutputChannel.write doubleCodec v.x
    OutputChannel.write doubleCodec v.y
  deserialize := Action.onFirst read
  deserializeInto := do
    let v ← Action.onFirst (Action.onSecond read)
    Action.onFirst (Operations.intoTarget v)

def contract {A : Type} (ofAny : A → Option Unit) : Contract Store A .point PointSerializer Unit where
  operations _ := operations
  duplicate _ := do return some (← Object.make ())
  equals _ _ := return true
  typeName _ := (sampleType "PointSerializer").text
  snapshot _ := return some ()
  ofAny := ofAny
  snapshotId _ := sampleId "PointSerializerSnapshot"
  snapshotVersion _ := 1
  snapshotTypeName _ := (sampleType "PointSerializerSnapshot").text
  writePayload _ := return ()
  readPayload _ _ := return ()
  restore _ := do return some (← Object.make ())
  resolve _ _ := return .asIs

end PointSerializer

abbrev CircleSerializer := Object Unit

namespace CircleSerializer

/-- A shape, or null. -/
abbrev Value := Option (Placed Shape)

/-- A circle of some radius. Shapes are not told apart by their place. -/
def circle (radius : BitVec 64) : Placed Shape := ⟨0, ⟨"Samples", "Circle"⟩, .circle, radius⟩

def isCircle (shape : Shape) : Bool := (ValueType.shape.dynamic shape).type == .circle

def radiusOf : Value → Except Failure (BitVec 64)
  | some ⟨_, shape⟩ =>
    if isCircle shape then .ok shape.extent else .error (.serialization "Only non null circles are supported")
  | none => .error (.serialization "Only non null circles are supported")

/-- The reuse target with another radius: the same circle, or a new one if it is none. -/
def withRadius (radius : BitVec 64) : Value → Value
  | some ⟨place, shape⟩ =>
    if isCircle shape then some ⟨place, { shape with extent := radius }⟩ else some (circle radius)
  | none => some (circle radius)

def intoTarget {σ : Type} (radius : BitVec 64) : Action (Value × σ) (Returned Value) :=
  fun (target, state) => (.ok .target, (withRadius radius target, state))

def operations {σ : Type} : Operations σ Value where
  create := return some (circle 0)
  copy v := do return some (circle (← Action.ofExcept (radiusOf v)))
  copyInto v := do intoTarget (← Action.ofExcept (radiusOf v))
  rawCopy := Action.onFirst (OutputChannel.move 8)
  length := return 8
  serialize v := do
    let radius ← Action.ofExcept (radiusOf v)
    Action.onFirst (OutputChannel.write doubleCodec radius)
  deserialize := do return some (circle (← Action.onFirst (InputChannel.read doubleCodec)))
  deserializeInto := do
    let radius ← Action.onFirst (Action.onSecond (InputChannel.read doubleCodec))
    Action.onFirst (intoTarget radius)

def contract {A : Type} (ofAny : A → Option Unit) :
    Contract Store A .shapePointer CircleSerializer Unit where
  operations _ := operations
  duplicate _ := do return some (← Object.make ())
  equals _ _ := return true
  typeName _ := (sampleType "CircleSerializer").text
  snapshot _ := return some ()
  ofAny := ofAny
  snapshotId _ := sampleId "CircleSerializerSnapshot"
  snapshotVersion _ := 1
  snapshotTypeName _ := (sampleType "CircleSerializerSnapshot").text
  writePayload _ := return ()
  readPayload _ _ := return ()
  restore _ := do return some (← Object.make ())
  resolve _ _ := return .asIs

end CircleSerializer

end SerializerContract
