import SerializerContract.Nullable.Probe
import SerializerContract.SelfCheck.Codecs
import SerializerContract.SelfCheck.Snapshots

/-!
# Scenarios about serializers of optional values
-/

namespace SerializerContract.SelfCheck

open Scenario

abbrev optionalNumber : Family := .nullable .number

abbrev optionalText : Family := .nullable .text

abbrev WrappedNumber := Object (Wrapper NumberSerializer)

abbrev WrappedText := Object (Wrapper TextSerializer)

def wrapNumber (padIfFixed : Bool) : Scenario WrappedNumber := do
  let inner : NumberSerializer ← make .plain
  onStore (Wrapper.wrap Family.number.contract (some inner) padIfFixed)

def wrapText (padIfFixed : Bool) : Scenario WrappedText := do
  let inner : TextSerializer ← make .unbounded
  onStore (Wrapper.wrap Family.text.contract (some inner) padIfFixed)

def padNumber (padding : Int) : Scenario WrappedNumber := do
  let inner : NumberSerializer ← make .plain
  onStore (Wrapper.make (some inner) padding)

def padBounded (limit : BitVec 32) (padding : Int) : Scenario WrappedText := do
  let inner : TextSerializer ← make (.bounded limit)
  onStore (Wrapper.make (some inner) padding)

/-- Works on a local state beside the store. -/
def beside {s α : Type} (state : s) (action : Action (s × Store) α) : Scenario (α × s) :=
  onStore (Action.withLocal state action)

def serialized (f : Family) (serializer : f.Serializer) : List f.Value → OutputChannel → Scenario OutputChannel
  | [], out => return out
  | v :: rest, out => do
    let ((), out) ← beside out ((f.contract.operations serializer).serialize v)
    serialized f serializer rest out

def rawCopyKeepsPadding (wrapper : WrappedNumber) (out : OutputChannel) : Scenario Unit := do
  let rawCopy := (optionalNumber.contract.operations wrapper).rawCopy
  let ((), channels) ← beside (out.inputView, {}) rawCopy
  let ((), (source, target)) ← beside channels rawCopy
  equalNumbers source.available 0
  equalBytes target.data out.data

def equalOptional (v : Option (BitVec 32)) (n : Int) : Scenario Unit :=
  claim (.equal (.value ⟨.optional .int32, v⟩) (.number n)) (v.any fun w => w.toInt == n)

def equalOptionalText (v : Option Bytes) (s : String) : Scenario Unit :=
  claim (.equal (.value ⟨.optional .string, v⟩) (.text s)) (v.any fun bytes => bytes.toText == s)

def fixedIsPadded : Scenario Unit := do
  let wrapper ← wrapNumber true
  let operations := optionalNumber.contract.operations wrapper
  equalNumbers wrapper.config.padding 4
  equalNumbers (← onStore operations.length) 5
  let out ← serialized optionalNumber wrapper [none, some (-7 : BitVec 32)] {}
  equalNumbers out.size 10
  let (first, input) ← beside out.inputView operations.deserialize
  refuted (Option.isSome first)
  let (returned, (reuse, input)) ← beside (none, input) operations.deserializeInto
  equalOptional (returned.value reuse) (-7)
  equalOptional reuse (-7)
  equalNumbers input.available 0
  inSection "Raw copy keeps padding" (rawCopyKeepsPadding wrapper out)

def variableIsNotPadded : Scenario Unit := do
  let wrapper ← wrapText true
  equalNumbers wrapper.config.padding 0
  equalNumbers (← onStore (optionalText.contract.operations wrapper).length) variableLength
  let out ← serialized optionalText wrapper [none] {}
  equalNumbers out.size 1

def copies : Scenario Unit := do
  let wrapper ← wrapText false
  let operations := optionalText.contract.operations wrapper
  let (returned, reuse) ← beside (some (Bytes.ofText "old")) (operations.copyInto none)
  refuted (Option.isSome (returned.value reuse))
  let (returned, reuse) ← beside reuse (operations.copyInto (some (Bytes.ofText "new")))
  equalOptionalText (returned.value reuse) "new"
  equalOptionalText (← onStore (operations.copy (some (Bytes.ofText "abc")))) "abc"

def invalidArguments : Scenario Unit := do
  let nothing : Option NumberSerializer := none
  let inner : NumberSerializer ← make .plain
  fails (ofKind .invalidArgument) (← tryOnStore (Wrapper.make nothing 0))
  fails (ofKind .invalidArgument) (← tryOnStore (Wrapper.make (some inner) (-1)))
  fails (ofKind .invalidArgument) (← tryOnStore (Wrapper.wrap Family.number.contract nothing true))

def wrapperSnapshots : Scenario Unit := do
  let registry ← registryOf [
    ⟨optionalNumber, ({} : WrapperSnapshot NumberSnapshot)⟩, emptyNumber,
    ⟨optionalText, ({} : WrapperSnapshot TextConfig)⟩, emptyBounded]
  let wrapper ← wrapNumber true
  let clone ← onStore (optionalNumber.contract.clone registry wrapper)
  equalSerializers optionalNumber clone wrapper
  differentSerializers optionalNumber clone (← padNumber 0)
  match ← onStore (optionalNumber.contract.snapshot wrapper) with
  | none => claim (.holds .null) false
  | some snapshot =>
    holds (← verdictOn optionalNumber snapshot wrapper).isAsIs
    holds (← verdictOn optionalNumber snapshot (← padNumber 0)).isIncompatible
  let bounded ← padBounded 8 0
  match ← onStore (optionalText.contract.snapshot bounded) with
  | none => claim (.holds .null) false
  | some snapshot =>
    let verdict ← verdictOn optionalText snapshot (← padBounded 16 0)
    holds verdict.isReconfigured
    reconfiguredIs optionalText verdict bounded
  fails (ofKind .serialization) (← tryOnStore (optionalNumber.contract.restore ({} : WrapperSnapshot NumberSnapshot)))

/-- The outcome of the nullability probe with a fresh checker. -/
def probed (f : Family) (serializer : f.Serializer) (samples : List f.Value) : Scenario (Except Failure Unit) :=
  tryOnStore (Nullable.probe f.contract {} serializer samples)

def probes : Scenario Unit := do
  succeeds (← probed .number (← make NumberKind.plain) ([0, 1, -1] : List (BitVec 32)))
  succeeds (← probed .text (← make TextConfig.unbounded)
    [Bytes.ofText "", Bytes.ofText "a", Bytes.ofText "abc"])
  fails (ofKind .serialization) (← probed .number (← make (NumberKind.defective .overlong))
    ([0, 1] : List (BitVec 32)))

def wrappers : Scenario Unit := do
  inSection "Fixed length is padded" fixedIsPadded
  inSection "Variable length is not padded" variableIsNotPadded
  inSection "Copy" copies
  inSection "Invalid arguments" invalidArguments
  inSection "Snapshot" wrapperSnapshots
  inSection "Null support check" probes

end SerializerContract.SelfCheck
