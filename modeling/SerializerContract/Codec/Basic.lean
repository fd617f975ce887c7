import SerializerContract.Bytes
import SerializerContract.Row

/-!
# Codecs

A codec writes the values of one type as bytes and reads them back. Both directions can stop half
way, and what was done until then stays done: an encoding that fails leaves the bytes it had emitted,
a decoding that fails leaves a partly updated target and the bytes it had not consumed. Codecs are put
together from codecs of their parts.
-/

namespace SerializerContract

/-- What an encoding emitted, and whether it came to its end. -/
structure Emitted where
  bytes : Bytes
  complete : Bool
deriving DecidableEq, Repr

namespace Emitted

def done (bytes : Bytes) : Emitted := ⟨bytes, true⟩

/-- An encoding that fails before its first byte. -/
def refused : Emitted := ⟨[], false⟩

/-- One encoding after the other; nothing follows an encoding that failed. -/
def andThen (first second : Emitted) : Emitted :=
  if first.complete then ⟨first.bytes ++ second.bytes, second.complete⟩ else first

end Emitted

inductive Stop where
  | shortage
  /-- A container would have to hold more elements than any container can. -/
  | tooLong
deriving DecidableEq, Repr

/-- The state after a decoding: the target, the bytes not consumed, and why it stopped early. -/
structure Taken (α : Type) where
  value : α
  rest : Bytes
  stop : Option Stop
deriving Repr

/-- How the values of one type are written and read. -/
structure Codec (α : Type) where
  /-- The least number of bytes of any value. -/
  minSize : Nat
  /-- The value that an element of a container starts with. -/
  blank : α
  encode : α → Emitted
  /-- Reads into a target from the front of some bytes. -/
  decode : α → Bytes → Taken α

/-- The layout of all numbers: their byte order, and the width of length fields. -/
structure Format where
  order : ByteOrder
  length : Width
deriving DecidableEq, Repr

/-- The layout of channels between serializers. -/
def Format.network : Format := ⟨.network, .w32⟩

namespace Codec

variable {α β ε : Type}

/-! ## Numbers -/

/-- Splits off the first `n` bytes, when there are that many. -/
def splitFront (n : Nat) (bytes : Bytes) : Option (Bytes × Bytes) :=
  if n ≤ bytes.length then some (bytes.take n, bytes.drop n) else none

/-- Numbers of `n` bytes. Without enough bytes nothing is consumed and the target is kept. -/
def number (order : ByteOrder) (n : Nat) : Codec (BitVec (8 * n)) where
  minSize := n
  blank := 0
  encode v := .done (order.toBytes n v.toNat)
  decode target bytes :=
    match splitFront n bytes with
    | some (front, rest) => ⟨BitVec.ofNat (8 * n) (order.ofBytes front), rest, none⟩
    | none => ⟨target, bytes, some .shortage⟩

def byte : Codec UInt8 where
  minSize := 1
  blank := 0
  encode v := .done [v]
  decode target bytes :=
    match bytes with
    | first :: rest => ⟨first, rest, none⟩
    | [] => ⟨target, [], some .shortage⟩

/-! ## Parts in a row -/

def nothing : Codec Unit where
  minSize := 0
  blank := ()
  encode _ := .done []
  decode _ bytes := ⟨(), bytes, none⟩

/-- One part after the other. A part that cannot be read keeps its own failed state, and the parts
after it are not touched. -/
def both (first : Codec α) (second : Codec β) : Codec (α × β) where
  minSize := first.minSize + second.minSize
  blank := (first.blank, second.blank)
  encode v := (first.encode v.1).andThen (second.encode v.2)
  decode target bytes :=
    let one := first.decode target.1 bytes
    match one.stop with
    | some stop => ⟨(one.value, target.2), one.rest, some stop⟩
    | none =>
      let two := second.decode target.2 one.rest
      ⟨(one.value, two.value), two.rest, two.stop⟩

def row (codec : Codec α) : (n : Nat) → Codec (Row α n)
  | 0 => nothing
  | n + 1 => both codec (row codec n)

/-! ## Containers -/

/-- A length field; a length that does not fit is refused. -/
def encodeLength (format : Format) (length : Nat) : Emitted :=
  if length ≤ format.length.maximum then .done (format.order.toBytes format.length.bytes length)
  else .refused

def encodeAll (codec : Codec ε) : List ε → Emitted
  | [] => .done []
  | x :: xs => (codec.encode x).andThen (encodeAll codec xs)

/-- What became of a length field. -/
inductive LengthField where
  /-- It was read, and it is plausible. -/
  | accepted (length : Nat) (rest : Bytes)
  /-- It could not be read, or it claims more than the remaining bytes can hold. -/
  | rejected (rest : Bytes)
deriving DecidableEq, Repr

/-- Reads a length field and compares the least size of that many elements, as a 64-bit number, with
the bytes that are left. -/
def decodeLength (format : Format) (elementSize : Nat) (bytes : Bytes) : LengthField :=
  match splitFront format.length.bytes bytes with
  | none => .rejected bytes
  | some (front, rest) =>
    let length := format.order.ofBytes front
    let least := length * elementSize % 0x10000000000000000
    if rest.length < least then .rejected rest else .accepted length rest

/-- Reads `n` elements one after the other and inserts each into the container. -/
def decodeInto (codec : Codec ε) (insert : List ε → ε → List ε) :
    (n : Nat) → List ε → Bytes → Taken (List ε)
  | 0, container, bytes => ⟨container, bytes, none⟩
  | n + 1, container, bytes =>
    let one := codec.decode codec.blank bytes
    match one.stop with
    | some stop => ⟨container, one.rest, some stop⟩
    | none => decodeInto codec insert n (insert container one.value) one.rest

/-- Reads `n` elements one after the other. -/
def decodeMany (codec : Codec ε) : (n : Nat) → Bytes → Taken (List ε)
  | 0, bytes => ⟨[], bytes, none⟩
  | n + 1, bytes =>
    let one := codec.decode codec.blank bytes
    match one.stop with
    | some stop => ⟨[], one.rest, some stop⟩
    | none =>
      let others := decodeMany codec n one.rest
      ⟨one.value :: others.value, others.rest, others.stop⟩

/-- Any container: a length field and the elements. It is emptied once its length was accepted, and
then holds the elements that were read, also when a later one cannot be read. -/
def container (format : Format) (codec : Codec ε) (insert : List ε → ε → List ε) : Codec (List ε) where
  minSize := format.length.bytes
  blank := []
  encode v := (encodeLength format v.length).andThen (encodeAll codec v)
  decode target bytes :=
    match decodeLength format codec.minSize bytes with
    | .rejected rest => ⟨target, rest, some .shortage⟩
    | .accepted n rest => decodeInto codec insert n [] rest

/-- The most elements of the given size that fit into the address space. -/
def mostElements (elementSize : Nat) : Nat := Bytes.longest / elementSize

/-- A contiguous container of numbers: a length field and the elements. It is resized once its length
was accepted; a length beyond any container's leaves it as it was. -/
def contiguous (format : Format) (codec : Codec ε) : Codec (List ε) where
  minSize := format.length.bytes
  blank := []
  encode v := (encodeLength format v.length).andThen (encodeAll codec v)
  decode target bytes :=
    match decodeLength format codec.minSize bytes with
    | .rejected rest => ⟨target, rest, some .shortage⟩
    | .accepted n rest =>
      if mostElements codec.minSize < n then ⟨target, rest, some .tooLong⟩
      else
        let all := decodeMany codec n rest
        match all.stop with
        | some stop => ⟨target, all.rest, some stop⟩
        | none => all

end Codec

end SerializerContract
