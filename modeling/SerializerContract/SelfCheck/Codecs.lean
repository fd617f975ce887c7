import SerializerContract.Channel
import SerializerContract.SelfCheck.Scenario
import SerializerContract.ValueType.Codec
import SerializerContract.ValueType.Name

/-!
# Scenarios about codecs
-/

namespace SerializerContract.SelfCheck

open Scenario

abbrev int16 : ValueType := .scalar (.int true .w16)

abbrev char : ValueType := .scalar .char

abbrev int32s : ValueType := .sequence .vector .int32

abbrev bytesType : ValueType := .sequence .vector (.scalar .uint8)

def kindNumber : Kind → Nat
  | .arithmetic => 0
  | .enumeration => 1
  | .contiguous => 2
  | .tuple => 3
  | .iterable => 4
  | .nonSerializable => 5

def kindIs (t : ValueType) (kind : Kind) : Scenario Unit :=
  equalNumbers (kindNumber t.kind) (kindNumber kind)

/-- Bytes compared as a list of numbers. -/
def equalBytes (left right : Bytes) : Scenario Unit :=
  equalValues bytesType (left.map (·.toBitVec)) (right.map (·.toBitVec))

def codecFor (format : Format) (t : ValueType) : Option (Codec t.Val) :=
  if h : t.Serializable then some (t.codec format h) else none

def notWritable (t : ValueType) : Failure := .ofKind .logic (t.name ++ " cannot be written")

def codec (format : Format) (t : ValueType) : Scenario (Codec t.Val) :=
  match codecFor format t with
  | some codec => return codec
  | none => throw (notWritable t)

def encoded (format : Format) (t : ValueType) (v : t.Val) : Scenario Bytes := do
  let emitted := (← codec format t).encode v
  if emitted.complete then return emitted.bytes else throw OutputChannel.tooLarge

def decoded (format : Format) (t : ValueType) (bytes : Bytes) : Scenario (Taken t.Val) := do
  return (← codec format t).decode t.blank bytes

def outcomeOf {α : Type} (taken : Taken α) : Except Failure α :=
  match taken.stop with
  | some stop => .error (InputChannel.failureOf stop)
  | none => .ok taken.value

def roundTrip (format : Format) (t : ValueType) (bytes : Bytes) : Scenario t.Val := do
  let taken ← decoded format t bytes
  let v ← Action.ofExcept (outcomeOf taken)
  equalNumbers taken.rest.length 0
  claim (.equal .reference .reference) taken.rest.isEmpty
  return v

/-- Encodes a value, and checks that it is decoded again. -/
def checkRoundTrip (t : ValueType) (v : t.Val) : Scenario Unit := do
  let data ← encoded .network t v
  equalValues t (← roundTrip .network t data) v

/-! ## Simple types -/

def arithmetic : Scenario Unit := do
  let v ← randomWord
  kindIs .int32 .arithmetic
  let data ← encoded .network .int32 v
  equalNumbers data.length 4
  equalNumbers data.length 4
  equalValues .int32 (← roundTrip .network .int32 data) v

def floatingPoint : Scenario Unit := do
  let v ← randomDouble
  let data ← encoded .network .float64 v
  equalNumbers data.length 8
  equalValues .float64 (← roundTrip .network .float64 data) v

def enumeration : Scenario Unit := do
  let t : ValueType := .enumeration ⟨"", "EnumTestType"⟩ (.int false .w16)
  let v : t.Val := (2 : BitVec 16)
  kindIs t .enumeration
  let data ← encoded .network t v
  equalNumbers data.length 2
  equalValues t (← roundTrip .network t data) v

def contiguous : Scenario Unit := do
  let size ← random 1 1024
  let v ← draws randomWord size.toNat
  kindIs int32s .contiguous
  let data ← encoded .network int32s v
  equalNumbers data.length data.length
  equalNumbers data.length (4 + v.length * 4)
  equalValues int32s (← roundTrip .network int32s data) v

def textRoundTrip : Scenario Unit := do
  let v := Bytes.ofText "conformance"
  kindIs .string .contiguous
  let data ← encoded .network .string v
  equalNumbers data.length (4 + v.length)
  equalValues .string (← roundTrip .network .string data) v

def tuple : Scenario Unit := do
  let numbers ← draws (random (-100) 100) 4
  let t : ValueType := .tuple char (.cons int16 (.cons .int32 (.cons .int64 .nil)))
  let number (i : Nat) : Int := numbers.getD i 0
  let v : t.Val := (BitVec.ofInt 8 (number 0), BitVec.ofInt 16 (number 1), BitVec.ofInt 32 (number 2),
    BitVec.ofInt 64 (number 3), ())
  let least := (t.minSize? .network).getD 0
  kindIs t .tuple
  equalNumbers least (1 + 2 + 4 + 8)
  let data ← encoded .network t v
  equalNumbers data.length least
  equalValues t (← roundTrip .network t data) v

def iterable : Scenario Unit := do
  let size ← random 1 64
  let v ← draws (draws randomWord size.toNat) 3
  let t : ValueType := .sequence .vector int32s
  kindIs t .iterable
  let data ← encoded .network t v
  equalNumbers data.length (4 * 4 + 4 * v.flatten.length)
  equalValues t (← roundTrip .network t data) v

def notSerializable : Scenario Unit := do
  kindIs (.text .zeroTerminated) .nonSerializable
  kindIs (.sequence .vector .bool) .nonSerializable

/-! ## Containers -/

def lists : Scenario Unit := do
  checkRoundTrip (.sequence .list .int32) (← draws randomWord 5)

def sets : Scenario Unit := do
  checkRoundTrip (.set .ordered false .int32)
    (Lookup.ordered.ofList false .int32 id (← draws randomWord 5))

/-- The later value of a key counts. -/
def maps : Scenario Unit := do
  let keys ← draws randomWord 5
  let values ← draws randomWord 5
  let t : ValueType := .map .ordered false .int32 .string
  let entries := (keys.zip values).map fun (k, v) => (k, Bytes.ofText v.toInt.repr)
  let v : t.Val := Lookup.ordered.ofList false .int32 Prod.fst entries.reverse
  kindIs t .iterable
  checkRoundTrip t v

/-! ## Byte order and length fields -/

def orderSample : BitVec 32 := 0x01020304

def bigEndian : Scenario Unit := do
  let format : Format := ⟨.big, .w32⟩
  let data ← encoded format .int32 orderSample
  equalBytes data [0x01, 0x02, 0x03, 0x04]
  equalValues .int32 (← roundTrip format .int32 data) orderSample

def littleEndian : Scenario Unit := do
  let format : Format := ⟨.little, .w32⟩
  let data ← encoded format .int32 orderSample
  equalBytes data [0x04, 0x03, 0x02, 0x01]
  equalValues .int32 (← roundTrip format .int32 data) orderSample

def networkOrder : Scenario Unit := do
  equalBytes (← encoded .network .string (Bytes.ofText "ab")) [0x00, 0x00, 0x00, 0x02, 97, 98]

def shortLengths : Format := ⟨.network, .w8⟩

def fittingLength : Scenario Unit := do
  let t : ValueType := .sequence .vector int16
  let v : t.Val := ([1, -2, 3] : List (BitVec 16))
  let data ← encoded shortLengths t v
  equalNumbers data.length (1 + 2 * 3)
  equalValues t (← roundTrip shortLengths t data) v

def overflowingLength : Scenario Unit := do
  let emitted := (← codec shortLengths .string).encode (List.replicate 256 120)
  fails (ofKind .serialization)
    (if emitted.complete then .ok () else .error OutputChannel.tooLarge : Except Failure Unit)

/-! ## Wrong sizes -/

def tooSmall : Scenario Unit := do
  let v ← random (-0x80000000) 0x7fffffff
  let data ← encoded .network .int64 (BitVec.ofInt 64 v)
  let missing ← random 1 8
  let taken ← decoded .network .int64 (data.take (data.length - missing.toNat))
  fails (ofKind .deserialization) (outcomeOf taken)

def lengthTooLarge : Scenario Unit := do
  let taken ← decoded .network int32s [0xFF, 0xFF, 0xFF, 0xFF, 0x00]
  fails (ofKind .deserialization) (outcomeOf taken)
  holds (List.isEmpty taken.value)

def tooLarge : Scenario Unit := do
  let t : ValueType := .pair int16 .string
  let data ← encoded .network t ((7 : BitVec 16), Bytes.ofText "abc")
  let extra ← random 1 16
  let data := data ++ Bytes.zeros extra.toNat
  let taken ← decoded .network t data
  let v ← Action.ofExcept (outcomeOf taken)
  equalNumbers ((Scalar.int true .w16).toInt v.1) 7
  equalTexts (Bytes.toText v.2) "abc"
  equalNumbers taken.rest.length (data.length - (2 + 4 + 3) : Nat)

def codecs : Scenario Unit := do
  inSection "Simple types" do
    inSection "Arithmetic" arithmetic
    inSection "Floating point" floatingPoint
    inSection "Enum" enumeration
    inSection "Arithmetic contiguous" contiguous
    inSection "String" textRoundTrip
    inSection "Tuple" tuple
    inSection "Iterable" iterable
    inSection "Non serializable" notSerializable
  inSection "Standard containers of basic types" do
    inSection "list" lists
    inSection "set" sets
    inSection "map" maps
  inSection "Change order" do
    inSection "Big endian" bigEndian
    inSection "Little endian" littleEndian
    inSection "Network order is the default" networkOrder
  inSection "Custom size type" do
    inSection "Fitting length" fittingLength
    inSection "Overflowing length" overflowingLength
  inSection "Wrong data size" do
    inSection "Smaller" tooSmall
    inSection "Length larger than data" lengthTooLarge
    inSection "Larger" tooLarge

end SerializerContract.SelfCheck
