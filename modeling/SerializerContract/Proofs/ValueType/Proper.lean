import SerializerContract.Proofs.Codec.RoundTrip
import SerializerContract.Proofs.ValueType.Insertion
import SerializerContract.Proofs.ValueType.Layout

/-! Proper values: those whose associative containers hold their elements as such containers do. What is
written for a proper value is in the wire format of its type, at that value. -/
namespace SerializerContract

mutual
/-- A value in which every associative container, at any depth, is one that could have been filled by
insertions. -/
def ValueType.Proper : (t : ValueType) → t.Val → Prop
  | .scalar _, _ => True
  | .enumeration _ _, _ => True
  | .text _, _ => True
  | .record _ _, _ => True
  | .optional _, _ => True
  | .pointer _ _, _ => True
  | .pair a b, v => a.Proper v.1 ∧ b.Proper v.2
  | .entry k t, v => k.Proper v.1 ∧ t.Proper v.2
  | .tuple t rest, v => t.Proper v.1 ∧ rest.Proper v.2
  | .array _ t, v => ∀ x ∈ v.toList, t.Proper x
  | .sequence _ t, (xs : List t.Val) => ∀ x ∈ xs, t.Proper x
  | .set lookup multi t, (xs : List t.Val) => (∀ x ∈ xs, t.Proper x) ∧ lookup.Holds multi t id xs
  | .map lookup multi k t, (xs : List (k.Val × t.Val)) =>
    (∀ x ∈ xs, k.Proper x.1 ∧ t.Proper x.2) ∧ lookup.Holds multi k Prod.fst xs

def FieldTypes.Proper : (ts : FieldTypes) → ts.Val → Prop
  | .nil, _ => True
  | .cons t rest, v => t.Proper v.1 ∧ rest.Proper v.2
end

mutual
/-- Proper values are written as their layout says. -/
theorem ValueType.proper_writes (format : Format) : (t : ValueType) → (h : t.Serializable) →
    (t.codec format h).Writes (t.layout format) t.Proper
  | .scalar s, _ => Codec.number_writes format.order s.size
  | .enumeration _ s, _ => Codec.number_writes format.order s.size
  | .text .owned, _ => fun _ _ hComplete =>
    Codec.encodeLength_andThen_encodeAll Codec.byte_writes (fun _ _ => trivial) rfl hComplete
  | .pair a b, h => Codec.both_writes (a.proper_writes format h.1) (b.proper_writes format h.2)
  | .entry k t, h => Codec.both_writes (k.proper_writes format h.1) (t.proper_writes format h.2)
  | .tuple t rest, h => Codec.both_writes (t.proper_writes format h.1) (rest.proper_writes format h.2)
  | .array n t, h => Codec.row_writes (t.proper_writes format h.2) n
  | .sequence _ t, h =>
    have hElement := t.proper_writes format h.2
    ValueType.codec_sequence_cases (motive := fun codec => codec.Writes _ _) h
      (fun _ _ hProper => Codec.encodeLength_andThen_encodeAll hElement hProper rfl)
      fun _ hProper => Codec.encodeLength_andThen_encodeAll hElement hProper rfl
  | .set _ _ t, h => fun _ hProper hComplete => Codec.encodeLength_andThen_encodeAll
      (t.proper_writes format h) hProper.1 (Lookup.ofList_of_holds hProper.2) hComplete
  | .map _ _ k t, h => fun _ hProper hComplete => Codec.encodeLength_andThen_encodeAll
      (Codec.both_writes (k.proper_writes format h.1) (t.proper_writes format h.2)) hProper.1
      (Lookup.ofList_of_holds hProper.2) hComplete

theorem FieldTypes.proper_writes (format : Format) : (ts : FieldTypes) → (h : ts.Serializable) →
    (ts.codec format h).Writes (ts.layout format) ts.Proper
  | .nil, _ => Codec.nothing_writes
  | .cons t rest, h => Codec.both_writes (t.proper_writes format h.1) (rest.proper_writes format h.2)
end

end SerializerContract
