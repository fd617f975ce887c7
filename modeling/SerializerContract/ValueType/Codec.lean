import SerializerContract.Codec.Basic
import SerializerContract.ValueType.Kind
import SerializerContract.ValueType.Order

/-!
# The codec of every serializable type

Each type is written by the codec of its kind, put together from the codecs of the types inside it.
-/

namespace SerializerContract

mutual
def ValueType.codec (format : Format) : (t : ValueType) → t.Serializable → Codec t.Val
  | .scalar s, _ => .number format.order s.size
  | .enumeration _ s, _ => .number format.order s.size
  | .text .owned, _ => .contiguous format .byte
  | .pair a b, h => .both (a.codec format h.1) (b.codec format h.2)
  | .entry k v, h => .both (k.codec format h.1) (v.codec format h.2)
  | .tuple t rest, h => .both (t.codec format h.1) (rest.codec format h.2)
  | .array n t, h => .row (t.codec format h.2) n
  | .sequence kind t, h =>
    if ValueType.isContiguous kind t then .contiguous format (t.codec format h.2)
    else .container format (t.codec format h.2) fun xs x => xs ++ [x]
  | .set lookup multi t, h => .container format (t.codec format h) (lookup.insert multi t id)
  | .map lookup multi k v, h =>
    .container format (.both (k.codec format h.1) (v.codec format h.2)) (lookup.insert multi k Prod.fst)

def FieldTypes.codec (format : Format) : (ts : FieldTypes) → ts.Serializable → Codec ts.Val
  | .nil, _ => .nothing
  | .cons t rest, h => .both (t.codec format h.1) (rest.codec format h.2)
end

namespace ValueType

/-- The least number of bytes of any value, for a type of a kind that can be written. -/
def minSize? (format : Format) (t : ValueType) : Option Nat :=
  match t.kind with
  | .nonSerializable => none
  | .contiguous | .iterable => some format.length.bytes
  | _ => if h : t.Serializable then some (t.codec format h).minSize else none

end ValueType

end SerializerContract
