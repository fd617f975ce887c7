import SerializerContract.ValueType.Basic

/-!
# Null values and dynamic types

Shapes are declared by their base and are values of a more specific type, which can be seen through a
pointer.
-/

namespace SerializerContract

structure TypedValue where
  type : ValueType
  value : type.Val

namespace ValueType

/-- Whether values of the type can be of a more specific type. -/
def isPolymorphic : ValueType → Bool
  | .record _ .shape => true
  | .record _ .circle => true
  | .record _ .square => true
  | _ => false

/-- A value seen at its own type. -/
def dynamic : (t : ValueType) → t.Val → TypedValue
  | .record name .shape, v =>
    match v with
    | ⟨own, .circle, extent⟩ => ⟨.record own .circle, extent⟩
    | ⟨own, .square, extent⟩ => ⟨.record own .square, extent⟩
    | v => ⟨.record name .shape, v⟩
  | t, v => ⟨t, v⟩

def isNull : (t : ValueType) → t.Val → Bool
  | .optional _, v => v.isNone
  | .pointer _ _, v => v.isNone
  | _, _ => false

/-- The type that values of a type are declared with: what a pointer points to. -/
def declared : ValueType → ValueType
  | .pointer _ t => t
  | t => t

/-- The type that a value has when it is looked at: of what a pointer points to, where there is
something. -/
def runtime : (t : ValueType) → t.Val → ValueType
  | .pointer _ t, some v => if t.isPolymorphic then (t.dynamic v.value).type else t
  | .pointer _ t, none => t
  | t, _ => t

end ValueType

end SerializerContract
