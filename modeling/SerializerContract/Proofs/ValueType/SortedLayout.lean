import SerializerContract.Proofs.Codec.Rewriting
import SerializerContract.Proofs.ValueType.RoundTrip

/-! Sorted bytes: those in which every set and every map lists its elements in the order of iteration. They are
what is written for a value, and nothing else is. -/
namespace SerializerContract

mutual
/-- The wire format of a type, with the elements of every set and every map in the order of their keys: strictly
for those with unique keys, and at most one element for those that are hashed. -/
def ValueType.sortedLayout (format : Format) : (t : ValueType) → Layout t.Val
  | .scalar s => .number format.order s.size
  | .enumeration _ s => .number format.order s.size
  | .text .owned => .counted format .byte id
  | .text .view => fun _ _ => False
  | .text .zeroTerminated => fun _ _ => False
  | .record _ _ => fun _ _ => False
  | .optional _ => fun _ _ => False
  | .pointer _ _ => fun _ _ => False
  | .pair a b => .both (a.sortedLayout format) (b.sortedLayout format)
  | .entry k v => .both (k.sortedLayout format) (v.sortedLayout format)
  | .tuple t rest => .both (t.sortedLayout format) (rest.sortedLayout format)
  | .array n t => .row (t.sortedLayout format) n
  | .sequence _ t => .counted format (t.sortedLayout format) id
  | .set lookup multi t =>
    .listed format (t.sortedLayout format) (lookup.ofList multi t id) (lookup.Arranged multi t id)
  | .map lookup multi k v =>
    .listed format (.both (k.sortedLayout format) (v.sortedLayout format)) (lookup.ofList multi k Prod.fst)
      (lookup.Arranged multi k Prod.fst)

def FieldTypes.sortedLayout (format : Format) : (ts : FieldTypes) → Layout ts.Val
  | .nil => .nothing
  | .cons t rest => .both (t.sortedLayout format) (rest.sortedLayout format)
end

mutual
/-- A type with no set and no map in it. -/
def ValueType.Unkeyed : ValueType → Prop
  | .scalar _ => True
  | .enumeration _ _ => True
  | .text _ => True
  | .record _ _ => True
  | .optional t => t.Unkeyed
  | .pointer _ t => t.Unkeyed
  | .pair a b => a.Unkeyed ∧ b.Unkeyed
  | .entry k v => k.Unkeyed ∧ v.Unkeyed
  | .tuple t rest => t.Unkeyed ∧ rest.Unkeyed
  | .array _ t => t.Unkeyed
  | .sequence _ t => t.Unkeyed
  | .set _ _ _ => False
  | .map _ _ _ _ => False

def FieldTypes.Unkeyed : FieldTypes → Prop
  | .nil => True
  | .cons t rest => t.Unkeyed ∧ rest.Unkeyed
end

mutual
/-- Without sets and maps there is nothing to sort. -/
theorem ValueType.sortedLayout_of_unkeyed (format : Format) :
    (t : ValueType) → t.Unkeyed → t.sortedLayout format = t.layout format
  | .scalar _, _ => rfl
  | .enumeration _ _, _ => rfl
  | .text .owned, _ => rfl
  | .text .view, _ => rfl
  | .text .zeroTerminated, _ => rfl
  | .record _ _, _ => rfl
  | .optional _, _ => rfl
  | .pointer _ _, _ => rfl
  | .pair a b, h => by
      rw [ValueType.sortedLayout, a.sortedLayout_of_unkeyed format h.1, b.sortedLayout_of_unkeyed format h.2]
      rfl
  | .entry k v, h => by
      rw [ValueType.sortedLayout, k.sortedLayout_of_unkeyed format h.1, v.sortedLayout_of_unkeyed format h.2]
      rfl
  | .tuple t rest, h => by
      rw [ValueType.sortedLayout, t.sortedLayout_of_unkeyed format h.1, rest.sortedLayout_of_unkeyed format h.2]
      rfl
  | .array n t, h => by
      rw [ValueType.sortedLayout, t.sortedLayout_of_unkeyed format h]
      rfl
  | .sequence _ t, h => by
      rw [ValueType.sortedLayout, t.sortedLayout_of_unkeyed format h]
      rfl

theorem FieldTypes.sortedLayout_of_unkeyed (format : Format) :
    (ts : FieldTypes) → ts.Unkeyed → ts.sortedLayout format = ts.layout format
  | .nil, _ => rfl
  | .cons t rest, h => by
      rw [FieldTypes.sortedLayout, t.sortedLayout_of_unkeyed format h.1, rest.sortedLayout_of_unkeyed format h.2]
      rfl
end

/-- An arranged list is taken over by the container as it is. -/
theorem Lookup.ofList_of_arranged {ε : Type} {lookup : Lookup} {multi : Bool} {k : ValueType} {key : ε → k.Val}
    (xs : List ε) (h : lookup.Arranged multi k key xs) : lookup.ofList multi k key xs = xs :=
  ofList_of_holds (holds_of_arranged h)

mutual
/-- Sorted bytes of a value are what is written for it. -/
theorem ValueType.codec_rewrites (format : Format) :
    (t : ValueType) → (h : t.Serializable) → (t.codec format h).Rewrites (t.sortedLayout format)
  | .scalar s, _ => Codec.number_rewrites format.order s.size
  | .enumeration _ s, _ => Codec.number_rewrites format.order s.size
  | .text .owned, _ => fun _ _ hFront => Codec.encode_of_counted Codec.byte_rewrites hFront
  | .pair a b, h => Codec.both_rewrites (a.codec_rewrites format h.1) (b.codec_rewrites format h.2)
  | .entry k v, h => Codec.both_rewrites (k.codec_rewrites format h.1) (v.codec_rewrites format h.2)
  | .tuple t rest, h => Codec.both_rewrites (t.codec_rewrites format h.1) (rest.codec_rewrites format h.2)
  | .array n t, h => Codec.row_rewrites (t.codec_rewrites format h.2) n
  | .sequence _ t, h =>
    have hElement := t.codec_rewrites format h.2
    ValueType.codec_sequence_cases (motive := fun codec => codec.Rewrites _) h
      (fun _ _ _ => Codec.encode_of_counted hElement) fun _ _ => Codec.encode_of_counted hElement
  | .set _ _ t, h => fun _ _ hFront =>
    Codec.encode_of_counted (t.codec_rewrites format h)
      ((Layout.listed_iff Lookup.ofList_of_arranged).mp hFront).1
  | .map _ _ k v, h => fun _ _ hFront =>
    Codec.encode_of_counted (Codec.both_rewrites (k.codec_rewrites format h.1) (v.codec_rewrites format h.2))
      ((Layout.listed_iff Lookup.ofList_of_arranged).mp hFront).1

theorem FieldTypes.codec_rewrites (format : Format) :
    (ts : FieldTypes) → (h : ts.Serializable) → (ts.codec format h).Rewrites (ts.sortedLayout format)
  | .nil, _ => Codec.nothing_rewrites
  | .cons t rest, h => Codec.both_rewrites (t.codec_rewrites format h.1) (rest.codec_rewrites format h.2)
end

mutual
/-- What is written for a value is sorted bytes of it. -/
theorem ValueType.codec_writes_sorted (format : Format) : (t : ValueType) → (h : t.Serializable) →
    (t.codec format h).Writes (t.sortedLayout format) t.WellFormed
  | .scalar s, _ => Codec.number_writes format.order s.size
  | .enumeration _ s, _ => Codec.number_writes format.order s.size
  | .text .owned, _ => fun _ _ hComplete =>
    Codec.encodeLength_andThen_encodeAll Codec.byte_writes (fun _ _ => trivial) rfl hComplete
  | .pair a b, h => Codec.both_writes (a.codec_writes_sorted format h.1) (b.codec_writes_sorted format h.2)
  | .entry k v, h => Codec.both_writes (k.codec_writes_sorted format h.1) (v.codec_writes_sorted format h.2)
  | .tuple t rest, h => Codec.both_writes (t.codec_writes_sorted format h.1) (rest.codec_writes_sorted format h.2)
  | .array n t, h => Codec.row_writes (t.codec_writes_sorted format h.2) n
  | .sequence _ t, h =>
    have hElement := t.codec_writes_sorted format h.2
    ValueType.codec_sequence_cases (motive := fun codec => codec.Writes _ _) h
      (fun _ _ hValid => Codec.encodeLength_andThen_encodeAll hElement hValid rfl)
      fun _ hValid => Codec.encodeLength_andThen_encodeAll hElement hValid rfl
  | .set _ _ t, h => fun _ hValid hComplete => (Layout.listed_iff Lookup.ofList_of_arranged).mpr
      ⟨Codec.encodeLength_andThen_encodeAll (t.codec_writes_sorted format h) hValid.1 rfl hComplete, hValid.2⟩
  | .map _ _ k v, h => fun _ hValid hComplete => (Layout.listed_iff Lookup.ofList_of_arranged).mpr
      ⟨Codec.encodeLength_andThen_encodeAll
        (Codec.both_writes (k.codec_writes_sorted format h.1) (v.codec_writes_sorted format h.2)) hValid.1 rfl
        hComplete, hValid.2⟩

theorem FieldTypes.codec_writes_sorted (format : Format) : (ts : FieldTypes) → (h : ts.Serializable) →
    (ts.codec format h).Writes (ts.sortedLayout format) ts.WellFormed
  | .nil, _ => Codec.nothing_writes
  | .cons t rest, h => Codec.both_writes (t.codec_writes_sorted format h.1) (rest.codec_writes_sorted format h.2)
end

end SerializerContract
