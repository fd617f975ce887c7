import SerializerContract.Channel

/-!
# Input channels in memory

An input channel keeps all of its bytes, and its cursor is how many of them were read, an unsigned number of
64 bits. What is left is the difference of two such numbers, which wraps around. Moving bytes to an output
channel reads them first: if there is no room for them then, they are read all the same.
-/

namespace SerializerContract

/-- The bytes of an input channel, and how many of them were read. -/
structure InputBuffer where
  buffer : Bytes := []
  offset : BitVec 64 := 0
deriving DecidableEq, Repr

namespace InputBuffer

/-- A channel over a copy of some bytes, which has to fit into memory. -/
def load (bytes : Bytes) : Except Failure InputBuffer :=
  if Bytes.mostMemory < bytes.length then .error .outOfMemory else .ok ⟨bytes, 0⟩

def size (input : InputBuffer) : BitVec 64 := BitVec.ofNat 64 input.buffer.length

def position (input : InputBuffer) : BitVec 64 := input.offset

def available (input : InputBuffer) : BitVec 64 := input.size - input.offset

/-- The bytes from the cursor on. -/
def rest (input : InputBuffer) : Bytes := input.buffer.drop input.offset.toNat

/-- Moves the cursor over the next `n` bytes, and hands them over. -/
def consume (n : Nat) : Action InputBuffer Bytes := fun input =>
  if input.available.toNat < n then (.error .shortage, input)
  else (.ok (input.rest.take n), { input with offset := input.offset + BitVec.ofNat 64 n })

/-- Reads a value into a target. The cursor moves only if the whole value was read, to as far from the end as
there are bytes left. -/
def readInto {α : Type} (codec : Codec α) : Action (α × InputBuffer) Unit := fun (target, input) =>
  let taken := codec.decode target input.rest
  match taken.stop with
  | some stop => (.error (InputChannel.failureOf stop), (taken.value, input))
  | none =>
    (.ok (), (taken.value, { input with offset := input.size - BitVec.ofNat 64 taken.rest.length }))

def read {α : Type} (codec : Codec α) : Action InputBuffer α := do
  let ((), v) ← Action.withLocal codec.blank (readInto codec)
  return v

def skip (n : Nat) : Action InputBuffer Unit := do
  let _ ← consume n

end InputBuffer

end SerializerContract
