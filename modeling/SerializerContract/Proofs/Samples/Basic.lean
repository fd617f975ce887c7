import SerializerContract.Family

/-! The serializers of the library by themselves, without wrappers and without defects. What they do is said by
their configuration and by their own cell. -/
namespace SerializerContract

/-- A serializer of the library. All that can be configured is the most bytes that a text may have. -/
inductive Sample : Family → Type where
  | number : Sample .number
  | text (config : TextConfig) : Sample .text
  | numbers : Sample .numbers
  | point : Sample .point
  | circle : Sample .circle

namespace Sample

variable {f : Family}

/-- The serializers that are configured this way. -/
def Configures : {f : Family} → Sample f → f.Serializer → Prop
  | _, number, x => Object.config x = NumberKind.plain
  | _, text config, x => Object.config x = config
  | _, numbers, x => Object.config x = NumbersKind.plain
  | _, point, _ => True
  | _, circle, _ => True

/-- The operations of a serializer with the given cell. -/
def operations : {f : Family} → Sample f → Nat → Operations Store f.Value
  | _, number, _ => NumberSerializer.plain
  | _, text .unbounded, _ => TextSerializer.unbounded
  | _, text (.bounded limit), _ => TextSerializer.bounded limit
  | _, numbers, id => NumbersSerializer.plain id
  | _, point, _ => PointSerializer.operations
  | _, circle, _ => CircleSerializer.operations

theorem operations_eq (s : Sample f) {x : f.Serializer} (h : s.Configures x) :
    f.contract.operations x = s.operations (f.objectId x) := by
  cases s with
  | number =>
      obtain ⟨id, kind⟩ := x
      obtain rfl : kind = .plain := h
      rfl
  | text config =>
      obtain ⟨id, config'⟩ := x
      obtain rfl : config' = config := h
      cases config' <;> rfl
  | numbers =>
      obtain ⟨id, kind⟩ := x
      obtain rfl : kind = .plain := h
      rfl
  | point | circle => rfl

end Sample

end SerializerContract
