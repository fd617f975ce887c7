import SerializerContract.Proofs.Codec.Field
import SerializerContract.Proofs.ValueType.Layout

/-! The fields of every type of values. A number is one field; a container is the field of its length and the
fields of its elements. -/
namespace SerializerContract

mutual
/-- The wire format of a type, field by field. -/
def ValueType.spelling (format : Format) : (t : ValueType) → Spelling t.Val
  | .scalar s => .number format.order s.size
  | .enumeration _ s => .number format.order s.size
  | .text .owned => .counted format .byte id
  | .text .view => fun _ _ => False
  | .text .zeroTerminated => fun _ _ => False
  | .record _ _ => fun _ _ => False
  | .optional _ => fun _ _ => False
  | .pointer _ _ => fun _ _ => False
  | .pair a b => .both (a.spelling format) (b.spelling format)
  | .entry k v => .both (k.spelling format) (v.spelling format)
  | .tuple t rest => .both (t.spelling format) (rest.spelling format)
  | .array n t => .row (t.spelling format) n
  | .sequence _ t => .counted format (t.spelling format) id
  | .set lookup multi t => .counted format (t.spelling format) (lookup.ofList multi t id)
  | .map lookup multi k v =>
    .counted format (.both (k.spelling format) (v.spelling format)) (lookup.ofList multi k Prod.fst)

def FieldTypes.spelling (format : Format) : (ts : FieldTypes) → Spelling ts.Val
  | .nil => .nothing
  | .cons t rest => .both (t.spelling format) (rest.spelling format)
end

mutual
/-- The bytes that a layout allows for a value are the spelling of that value. -/
theorem ValueType.layout_spelledBy (format : Format) :
    (t : ValueType) → t.Serializable → (t.layout format).SpelledBy (t.spelling format)
  | .scalar s, _ => Layout.number_spelledBy format.order s.size
  | .enumeration _ s, _ => Layout.number_spelledBy format.order s.size
  | .text .owned, _ => Layout.counted_spelledBy Layout.byte_spelledBy format id
  | .pair a b, h => Layout.both_spelledBy (a.layout_spelledBy format h.1) (b.layout_spelledBy format h.2)
  | .entry k v, h => Layout.both_spelledBy (k.layout_spelledBy format h.1) (v.layout_spelledBy format h.2)
  | .tuple t rest, h =>
    Layout.both_spelledBy (t.layout_spelledBy format h.1) (rest.layout_spelledBy format h.2)
  | .array n t, h => Layout.row_spelledBy (t.layout_spelledBy format h.2) n
  | .sequence _ t, h => Layout.counted_spelledBy (t.layout_spelledBy format h.2) format id
  | .set lookup multi t, h =>
    Layout.counted_spelledBy (t.layout_spelledBy format h) format (lookup.ofList multi t id)
  | .map lookup multi k v, h => Layout.counted_spelledBy
      (Layout.both_spelledBy (k.layout_spelledBy format h.1) (v.layout_spelledBy format h.2)) format
      (lookup.ofList multi k Prod.fst)

theorem FieldTypes.layout_spelledBy (format : Format) :
    (ts : FieldTypes) → ts.Serializable → (ts.layout format).SpelledBy (ts.spelling format)
  | .nil, _ => Layout.nothing_spelledBy
  | .cons t rest, h =>
    Layout.both_spelledBy (t.layout_spelledBy format h.1) (rest.layout_spelledBy format h.2)
end

end SerializerContract
