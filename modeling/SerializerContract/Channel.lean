import SerializerContract.Action
import SerializerContract.Codec.Basic

/-!
# Channels

An output channel collects bytes; an input channel is a cursor over bytes that never change. A channel
frozen from another one owns its bytes, so later writes are not visible through it. An operation that
fails moves no cursor.
-/

namespace SerializerContract

/-- The bytes written so far. -/
structure OutputChannel where
  data : Bytes := []
deriving DecidableEq, Repr

/-- A cursor between the bytes already read and those still to be read. -/
structure InputChannel where
  past : Bytes := []
  rest : Bytes := []
deriving DecidableEq, Repr

namespace InputChannel

def ofBytes (bytes : Bytes) : InputChannel := ⟨[], bytes⟩

def bytes (input : InputChannel) : Bytes := input.past ++ input.rest

def position (input : InputChannel) : Nat := input.past.length

def available (input : InputChannel) : Nat := input.rest.length

/-- The cursor moved to where only `rest` remains. -/
def advanceTo (input : InputChannel) (rest : Bytes) : InputChannel :=
  ⟨input.past ++ input.rest.take (input.rest.length - rest.length), rest⟩

/-- The failure that a decoding stopped with. -/
def failureOf : Stop → Failure
  | .shortage => .shortage
  | .tooLong => .ofKind .length "container length exceeds the largest possible"

/-- Reads a value into a target. The cursor moves only if the whole value was read; the target may
have been partly updated even if not. -/
def readInto {α : Type} (codec : Codec α) : Action (α × InputChannel) Unit := fun (target, input) =>
  let taken := codec.decode target input.rest
  match taken.stop with
  | some stop => (.error (failureOf stop), (taken.value, input))
  | none => (.ok (), (taken.value, input.advanceTo taken.rest))

def read {α : Type} (codec : Codec α) : Action InputChannel α := fun input =>
  let taken := codec.decode codec.blank input.rest
  match taken.stop with
  | some stop => (.error (failureOf stop), input)
  | none => (.ok taken.value, input.advanceTo taken.rest)

def readRaw (n : Nat) : Action InputChannel Bytes := fun input =>
  match Codec.splitFront n input.rest with
  | some (front, rest) => (.ok front, ⟨input.past ++ front, rest⟩)
  | none => (.error .shortage, input)

def skip (n : Nat) : Action InputChannel Unit := do
  let _ ← readRaw n

end InputChannel

namespace OutputChannel

def capacity : Nat := Bytes.longest

def size (output : OutputChannel) : Nat := output.data.length

/-- The bytes written so far as a channel to read from. -/
def inputView (output : OutputChannel) : InputChannel := .ofBytes output.data

def appended (output : OutputChannel) (bytes : Bytes) : OutputChannel := ⟨output.data ++ bytes⟩

/-- The failure of a container that is too large for the width of its length field. -/
def tooLarge : Failure := .serialization "Container is too large for the configured length type"

/-- Writes a value. A value that cannot be written whole leaves what was emitted before. -/
def write {α : Type} (codec : Codec α) (v : α) : Action OutputChannel Unit := fun output =>
  let emitted := codec.encode v
  (if emitted.complete then .ok () else .error tooLarge, output.appended emitted.bytes)

/-- The number of bytes of a value, found by writing it to a channel of its own. -/
def byteSize {α : Type} (codec : Codec α) (v : α) : Except Failure Nat :=
  let (result, output) := (write codec v).outcome {}
  result.map fun _ => output.size

def writeRaw (bytes : Bytes) : Action OutputChannel Unit := fun output =>
  (.ok (), output.appended bytes)

/-- Asks for a channel with room for `n` bytes. -/
def reserve (n : Nat) : Except Failure Unit :=
  if capacity < n then .error (.ofKind .length "vector::reserve")
  else if Bytes.mostMemory < n then .error .outOfMemory
  else .ok ()

def skip (n : Nat) : Action OutputChannel Unit := fun output =>
  if capacity - output.size < n then
    (.error (.ofKind .length "channel length exceeds the largest possible"), output)
  else if Bytes.mostMemory < n then (.error .outOfMemory, output)
  else (.ok (), output.appended (Bytes.zeros n))

def clear : Action OutputChannel Unit := fun _ => (.ok (), ⟨[]⟩)

/-- Moves the next `n` bytes of an input channel to an output channel without decoding them. -/
def move (n : Nat) : Action (InputChannel × OutputChannel) Unit := fun (input, output) =>
  match Codec.splitFront n input.rest with
  | some (front, rest) => (.ok (), (⟨input.past ++ front, rest⟩, output.appended front))
  | none => (.error .shortage, (input, output))

end OutputChannel

end SerializerContract
