import SerializerContract.ValueType.Basic

/-!
# Which values can be written, and as what

The kind of a type says how its values are laid out; the first kind that fits counts. A type is
serializable when every type inside it has a layout.
-/

namespace SerializerContract

/-- How the values of a type are laid out. -/
inductive Kind where
  | arithmetic
  | enumeration
  /-- A length and numbers, stored contiguously. -/
  | contiguous
  /-- Its parts in a row. -/
  | tuple
  | iterable
  | nonSerializable
deriving DecidableEq, Repr

namespace ValueType

/-- Whether a sequence of such elements stores numbers contiguously and can be resized. -/
def isContiguous (kind : SequenceKind) (element : ValueType) : Bool :=
  match kind, element with
  | .vector, .scalar s => s != .bool
  | _, _ => false

/-- Whether the sequence packs its truth values, so that no element has an address. -/
def isPacked (kind : SequenceKind) (element : ValueType) : Bool :=
  kind == .vector && element == .bool

def kind : ValueType → Kind
  | .scalar s => if s.size ≤ 8 then .arithmetic else .nonSerializable
  | .enumeration _ _ => .enumeration
  | .text .owned => .contiguous
  | .text _ => .nonSerializable
  | .record _ _ => .nonSerializable
  | .optional _ => .nonSerializable
  | .pointer _ _ => .nonSerializable
  | .pair _ _ => .tuple
  | .entry _ _ => .tuple
  | .tuple _ _ => .tuple
  | .array n _ => if n = 0 then .nonSerializable else .tuple
  | .sequence kind t =>
    if isContiguous kind t then .contiguous
    else if isPacked kind t then .nonSerializable
    else .iterable
  | .set _ _ _ => .iterable
  | .map _ _ _ _ => .iterable

end ValueType

mutual
/-- Every type inside has a layout. -/
def ValueType.Serializable : ValueType → Prop
  | .scalar s => s.size ≤ 8
  | .enumeration _ s => s.size ≤ 8
  | .text kind => kind = .owned
  | .record _ _ => False
  | .optional _ => False
  | .pointer _ _ => False
  | .pair a b => a.Serializable ∧ b.Serializable
  | .entry k v => k.Serializable ∧ v.Serializable
  | .tuple t rest => t.Serializable ∧ rest.Serializable
  | .array n t => 0 < n ∧ t.Serializable
  | .sequence kind t => ValueType.isPacked kind t = false ∧ t.Serializable
  | .set _ _ t => t.Serializable
  | .map _ _ k v => k.Serializable ∧ v.Serializable

def FieldTypes.Serializable : FieldTypes → Prop
  | .nil => True
  | .cons t rest => t.Serializable ∧ rest.Serializable
end

mutual
def ValueType.decSerializable : (t : ValueType) → Decidable t.Serializable
  | .scalar s => inferInstanceAs (Decidable (s.size ≤ 8))
  | .enumeration _ s => inferInstanceAs (Decidable (s.size ≤ 8))
  | .text kind => inferInstanceAs (Decidable (kind = .owned))
  | .record _ _ => inferInstanceAs (Decidable False)
  | .optional _ => inferInstanceAs (Decidable False)
  | .pointer _ _ => inferInstanceAs (Decidable False)
  | .pair a b => @instDecidableAnd _ _ a.decSerializable b.decSerializable
  | .entry k v => @instDecidableAnd _ _ k.decSerializable v.decSerializable
  | .tuple t rest => @instDecidableAnd _ _ t.decSerializable rest.decSerializable
  | .array n t => @instDecidableAnd (0 < n) _ inferInstance t.decSerializable
  | .sequence kind t =>
    @instDecidableAnd (ValueType.isPacked kind t = false) _ inferInstance t.decSerializable
  | .set _ _ t => t.decSerializable
  | .map _ _ k v => @instDecidableAnd _ _ k.decSerializable v.decSerializable

def FieldTypes.decSerializable : (ts : FieldTypes) → Decidable ts.Serializable
  | .nil => inferInstanceAs (Decidable True)
  | .cons t rest => @instDecidableAnd _ _ t.decSerializable rest.decSerializable
end

instance (t : ValueType) : Decidable t.Serializable := t.decSerializable

end SerializerContract
