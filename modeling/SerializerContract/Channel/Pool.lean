import SerializerContract.Channel.Buffer
import SerializerContract.ValueType.Codec
import SerializerContract.ValueType.Dynamic

/-!
# Pools of channels

Any number of output and input channels, and the operations on them. Every operation works on the
channels it names and on no other. Input channels may be kept in any way that offers their operations.

Moving bytes takes them from an input channel first: if there is then no room for them, they are lost.
-/

namespace SerializerContract

/-- What a way of keeping input channels offers. -/
class InputCursor (ι : Type) where
  /-- A channel without bytes. -/
  empty : ι
  /-- A channel over given bytes, none of which was read. -/
  load : Bytes → Except Failure ι
  read {α : Type} : Codec α → Action ι α
  readInto {α : Type} : Codec α → Action (α × ι) Unit
  readRaw : Nat → Action ι Bytes
  skip : Nat → Action ι Unit

instance : InputCursor InputChannel where
  empty := {}
  load bytes := .ok (.ofBytes bytes)
  read := InputChannel.read
  readInto := InputChannel.readInto
  readRaw := InputChannel.readRaw
  skip := InputChannel.skip

instance : InputCursor InputBuffer where
  empty := {}
  load := InputBuffer.load
  read := InputBuffer.read
  readInto := InputBuffer.readInto
  readRaw := InputBuffer.consume
  skip := InputBuffer.skip

/-- Adds bytes behind those that are there, if both have room and memory together. -/
def OutputChannel.insert (bytes : Bytes) : Action OutputChannel Unit := fun output =>
  if capacity - output.size < bytes.length then
    (.error (.ofKind .length "channel length exceeds the largest possible"), output)
  else if Bytes.mostMemory < output.size + bytes.length then (.error .outOfMemory, output)
  else (.ok (), output.appended bytes)

/-- Moves the next `n` bytes to an output channel without decoding them. -/
def InputCursor.move {ι : Type} [InputCursor ι] (n : Nat) : Action (ι × OutputChannel) Unit := do
  let front ← Action.onFirst (InputCursor.readRaw n)
  Action.onSecond (OutputChannel.insert front)

/-- Output and input channels, each known by its index. -/
structure Channels (ι : Type) where
  outputs : List OutputChannel
  inputs : List ι
deriving DecidableEq, Repr

/-- Channels whose cursors divide the bytes that were read from those still to be read. -/
abbrev ChannelPool : Type := Channels InputChannel

/-- Channels as they are in memory. -/
abbrev BufferPool : Type := Channels InputBuffer

inductive ChannelOperation where
  | newOutput (capacity : Nat)
  | newInput (bytes : Bytes)
  /-- A new input channel over what was written to an output channel so far. -/
  | view (output : Nat)
  | write (output : Nat) (t : ValueType) (serializable : t.Serializable) (v : t.Val)
  | writeRaw (output : Nat) (bytes : Bytes)
  | skipWrite (output n : Nat)
  | clear (output : Nat)
  | move (input output n : Nat)
  | setBuffer (input : Nat) (bytes : Bytes)
  /-- Loads an input channel with what was written to an output channel so far. -/
  | setBufferFrom (input output : Nat)
  | read (input : Nat) (t : ValueType) (serializable : t.Serializable)
  | readInto (input : Nat) (t : ValueType) (serializable : t.Serializable) (target : t.Val)
  | readRaw (input n : Nat)
  | skipRead (input n : Nat)

/-- What an operation shows beside its effect on the channels. -/
inductive ChannelSight where
  | nothing
  | value (v : TypedValue)
  | raw (bytes : Bytes)

namespace Channels

variable {ι : Type}

def output (pool : Channels ι) (i : Nat) : OutputChannel := pool.outputs.getD i {}

def setOutput (pool : Channels ι) (i : Nat) (channel : OutputChannel) : Channels ι :=
  { pool with outputs := pool.outputs.set i channel }

def setInput (pool : Channels ι) (i : Nat) (channel : ι) : Channels ι :=
  { pool with inputs := pool.inputs.set i channel }

def addInput (pool : Channels ι) (channel : ι) : Channels ι :=
  { pool with inputs := pool.inputs ++ [channel] }

/-- What follows from an operation: what it shows, its failure, and the pool after it. -/
structure Outcome (ι : Type) where
  sight : ChannelSight
  failure : Option Failure
  pool : Channels ι

def failureOf {α : Type} : Except Failure α → Option Failure
  | .ok _ => none
  | .error failure => some failure

def onOutput (pool : Channels ι) (i : Nat) (action : Action OutputChannel Unit) : Outcome ι :=
  let (result, channel) := action.outcome (pool.output i)
  ⟨.nothing, failureOf result, pool.setOutput i channel⟩

variable [InputCursor ι]

def start : Channels ι := ⟨[{}], [InputCursor.empty]⟩

def input (pool : Channels ι) (i : Nat) : ι := pool.inputs.getD i InputCursor.empty

/-- An operation on one input channel, and what it shows of its result. -/
def onInput {α : Type} (pool : Channels ι) (i : Nat) (action : Action ι α) (sight : α → ChannelSight) :
    Outcome ι :=
  let (result, channel) := action.outcome (pool.input i)
  let shown := match result with
    | .ok a => sight a
    | .error _ => .nothing
  ⟨shown, failureOf result, pool.setInput i channel⟩

/-- Puts an input channel over given bytes in its place. -/
def loading (pool : Channels ι) (bytes : Bytes) (place : ι → Channels ι) : Outcome ι :=
  match InputCursor.load bytes with
  | .error failure => ⟨.nothing, some failure, pool⟩
  | .ok channel => ⟨.nothing, none, place channel⟩

def perform (format : Format) (pool : Channels ι) : ChannelOperation → Outcome ι
  | .newOutput capacity =>
    match OutputChannel.reserve capacity with
    | .error failure => ⟨.nothing, some failure, pool⟩
    | .ok () => ⟨.nothing, none, { pool with outputs := pool.outputs ++ [{}] }⟩
  | .newInput bytes => pool.loading bytes pool.addInput
  | .view o => pool.loading (pool.output o).data pool.addInput
  | .write o t h v => pool.onOutput o (OutputChannel.write (t.codec format h) v)
  | .writeRaw o bytes => pool.onOutput o (OutputChannel.writeRaw bytes)
  | .skipWrite o n => pool.onOutput o (OutputChannel.skip n)
  | .clear o => pool.onOutput o OutputChannel.clear
  | .move i o n =>
    let (result, (source, target)) := (InputCursor.move n).outcome (pool.input i, pool.output o)
    ⟨.nothing, failureOf result, (pool.setInput i source).setOutput o target⟩
  | .setBuffer i bytes => pool.loading bytes (pool.setInput i)
  | .setBufferFrom i o => pool.loading (pool.output o).data (pool.setInput i)
  | .read i t h => pool.onInput i (InputCursor.read (t.codec format h)) fun v => .value ⟨t, v⟩
  | .readInto i t h target =>
    let (result, (v, channel)) := (InputCursor.readInto (t.codec format h)).outcome (target, pool.input i)
    ⟨.value ⟨t, v⟩, failureOf result, pool.setInput i channel⟩
  | .readRaw i n => pool.onInput i (InputCursor.readRaw n) .raw
  | .skipRead i n => pool.onInput i (InputCursor.skip n) fun _ => .nothing

end Channels

end SerializerContract
