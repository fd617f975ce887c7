import SerializerContract.Contract
import SerializerContract.Registry

/-!
# Optional values on top of any serializer

Every value is preceded by a flag that says whether it is null. After the flag of a null value there
can be padding, so that a serializer of a fixed length keeps a fixed length. A reuse target that holds
a value lends it to the inner serializer, whatever that returns.
-/

namespace SerializerContract

namespace Nullable

variable {σ α : Type}

def writeFlag (isNull : Bool) : Action OutputChannel Unit :=
  OutputChannel.write boolCodec (if isNull then 1 else 0)

def readFlag : Action InputChannel Bool := do
  return (← InputChannel.read boolCodec) != 0

/-- Runs an inner operation on the value inside a reuse target. -/
def withInner {β ρ : Type} (inner : α) (action : Action ((α × ρ) × σ) β) : Action ((Option α × ρ) × σ) β :=
  fun ((_, rest), state) =>
    let (result, ((inner, rest), state)) := action ((inner, rest), state)
    (result, ((some inner, rest), state))

def assign {ρ : Type} (v : Option α) : Action ((Option α × ρ) × σ) Unit := fun ((_, rest), state) =>
  (.ok (), ((v, rest), state))

def copyInto (inner : Operations σ α) : Option α → Action (Option α × σ) (Returned (Option α))
  | none => fun (_, state) => (.ok .target, (none, state))
  | some v => fun (reuse, state) =>
    match reuse with
    | some old =>
      let (result, (held, state)) := (inner.copyInto v).outcome (old, state)
      (result.map fun _ => .target, (some held, state))
    | none =>
      let (result, state) := (inner.copy v).outcome state
      match result with
      | .ok copied => (.ok .target, (some copied, state))
      | .error failure => (.error failure, (none, state))

/-- Copies a serialized value: the flag, then the padding or the value. -/
def rawCopy (inner : Operations σ α) (padding : Nat) : Action ((InputChannel × OutputChannel) × σ) Unit := do
  let isNull ← Action.onFirst (Action.onFirst readFlag)
  Action.onFirst (Action.onSecond (writeFlag isNull))
  if isNull then Action.onFirst (OutputChannel.move padding) else inner.rawCopy

/-- The length of a padded serializer is fixed. -/
def length (padding : Nat) : Int :=
  if 0 < padding then (BitVec.ofNat 32 (padding + 1)).toInt else variableLength

/-- Writes the flag, then the padding or the value. -/
def serialize (inner : Operations σ α) (padding : Nat) : Option α → Action (OutputChannel × σ) Unit
  | none => do
    Action.onFirst (writeFlag true)
    Action.onFirst (OutputChannel.skip padding)
  | some v => do
    Action.onFirst (writeFlag false)
    inner.serialize v

/-- Reads the flag, then passes over the padding or reads the value. -/
def deserialize (inner : Operations σ α) (padding : Nat) : Action (InputChannel × σ) (Option α) := do
  if ← Action.onFirst readFlag then
    Action.onFirst (InputChannel.skip padding)
    return none
  else
    return some (← inner.deserialize)

def deserializeInto (inner : Operations σ α) (padding : Nat) :
    Action ((Option α × InputChannel) × σ) (Returned (Option α)) := do
  if ← Action.onFirst (Action.onSecond readFlag) then
    Action.onFirst (Action.onSecond (InputChannel.skip padding))
    assign none
  else
    match (← get).1.1 with
    | some old =>
      let _ ← withInner old inner.deserializeInto
    | none =>
      let v ← Action.zoom (fun ((_, input), state) => (input, state))
        (fun (input, state) ((reuse, _), _) => ((reuse, input), state)) inner.deserialize
      assign (some v)
  return .target

def operations (inner : Operations σ α) (padding : Nat) : Operations σ (Option α) where
  create := do return some (← inner.create)
  copy
    | none => return none
    | some v => do return some (← inner.copy v)
  copyInto := copyInto inner
  rawCopy := rawCopy inner padding
  length := return length padding
  serialize := serialize inner padding
  deserialize := deserialize inner padding
  deserializeInto := deserializeInto inner padding

def nothingWrapped : Failure := .invalidArgument "Wrapped serializer must not be null"

/-- A padding must not be negative. -/
def checkPadding (padding : Int) : Except Failure Nat :=
  if padding < 0 then .error (.invalidArgument "Null value padding must not be negative")
  else .ok padding.toNat

/-- The padding of a wrapper that keeps a fixed length fixed. -/
def paddingFor (inner : Operations σ α) (padIfFixed : Bool) : Action σ Int := do
  if padIfFixed then
    if (← inner.length) > 0 then inner.length else return 0
  else return 0

end Nullable

end SerializerContract
