import SerializerContract.Checker
import SerializerContract.Nullable
import SerializerContract.ValueType.Describe

/-!
# The nullability probe

Checks that a serializer keeps its contract when it is wrapped for optional values: null round trips
and is copied as null, a padded wrapper writes null with the same length as values, and every sample
round trips through the wrapper.
-/

namespace SerializerContract

namespace Nullable

variable {σ A S N : Type} {t : ValueType}

/-- The length that a wrapper of a serializer of the given length is expected to report. -/
def expectedLength (length : Action σ Int) : Action σ Int := do
  if (← length) > 0 then return (BitVec.ofInt 32 ((← length) + 1)).toInt else return variableLength

/-- Whether a serialized value has a size other than the fixed length, if there is one. -/
def hasWrongSize (length : Int) (out : OutputChannel) : Bool :=
  decide (length > 0) && (out.size : Int) != length

def probeNull (wrapped : Operations σ (Option t.Val)) (length : Int) : Action σ Unit := do
  let ((), out) ← Action.withLocal {} (wrapped.serialize none)
  if hasWrongSize length out then
    throw (.serialization ("The serialized form of the null value should have the same length as any " ++
      "other if the length is fixed in the serializer"))
  let (restored, input) ← Action.withLocal out.inputView wrapped.deserialize
  if restored.isSome || input.available != 0 then
    throw (.serialization "Serialized null value was not deserialized as null")
  if (← wrapped.copy none).isSome then
    throw (.serialization
      "Serializer has to be able to copy null value if it can serialize null value")

/-- Whether an optional value holds a value that deeply equals the expected one. -/
def holds (checker : Checker) (expected : t.Val) : Option t.Val → Except Failure Bool
  | none => .ok false
  | some v => checker.equals t expected v

/-- The part of the probe that is about one sample; the reuse target is carried along. -/
def probeSample (checker : Checker) (wrapped : Operations σ (Option t.Val)) (length : Int)
    (reuse : Option t.Val) (v : t.Val) : Action σ (Option t.Val) := do
  let ((), out) ← Action.withLocal {} (wrapped.serialize (some v))
  if hasWrongSize length out then
    throw (.serialization ("Wrapped value " ++ t.describe v ++ " was written with " ++ out.size.repr ++
      " bytes, expected " ++ length.repr))
  let (restored, input) ← Action.withLocal out.inputView wrapped.deserialize
  if !(← Action.ofExcept (holds checker v restored)) || input.available != 0 then
    throw (.serialization ("Wrapped value did not round trip. Expected: " ++ t.describe v ++ " Actual: " ++
      (ValueType.optional t).describe restored))
  let (returned, reuse) ← Action.withLocal reuse (wrapped.copyInto restored)
  let copied := returned.value reuse
  if !(← Action.ofExcept (holds checker v copied)) then
    throw (.serialization ("Wrapped value was not copied. Expected: " ++ t.describe v ++ " Actual: " ++
      (ValueType.optional t).describe copied))
  return reuse

def probeSamples (checker : Checker) (wrapped : Operations σ (Option t.Val)) (length : Int) :
    Option t.Val → List t.Val → Action σ Unit
  | _, [] => return ()
  | reuse, v :: rest => do
    let reuse ← probeSample checker wrapped length reuse v
    probeSamples checker wrapped length reuse rest

/-- Wraps a duplicate of a serializer and checks the wrapper. -/
def probe (C : Contract σ A t S N) (checker : Checker) (serializer : S) (samples : List t.Val) :
    Action σ Unit := do
  match ← C.duplicate serializer with
  | none => throw nothingWrapped
  | some inner =>
    let padding ← Action.ofExcept (checkPadding (← paddingFor (C.operations inner) true))
    let wrapped := operations (C.operations inner) padding
    let expected ← expectedLength (C.operations serializer).length
    let reported ← wrapped.length
    if reported ≠ expected then
      throw (.serialization ("Wrapped serializer reports length " ++ reported.repr ++ ", expected " ++
        expected.repr))
    probeNull wrapped expected
    probeSamples checker wrapped expected none samples

end Nullable

end SerializerContract
