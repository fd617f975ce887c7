import SerializerContract.Checker.Named

/-! Deep equality. Values of types that have an equality of their own are the same exactly if they are equal,
as long as nothing is registered for the type. -/
namespace SerializerContract

namespace Comparator

/-- A number that is not a NaN equals itself. -/
theorem doubleSame_self {v : BitVec 64} (h : Scalar.float64.isNaN v = false) : doubleSame v v = true := by
  have hNumber : FloatFormat.double.isNaN v.toNat = false := h
  change FloatFormat.double.same v.toNat v.toNat = true
  simp [FloatFormat.same, hNumber]

end Comparator

namespace Checker

theorem orElse_of_find {checker : Checker} {t : ValueType} (h : checker.find t = none)
    (structural : Comparator t) : checker.orElse t structural = structural := by
  rw [orElse, h, Option.getD_none]

/-- The comparator that was registered last for a type decides. -/
theorem equals_of_find {checker : Checker} {t : ValueType} {comparator : Comparator t}
    (h : checker.find t = some comparator) : checker.equals t = comparator := by
  have hElse (structural : Comparator t) : checker.orElse t structural = comparator := by
    rw [orElse, h, Option.getD_some]
  cases t with
  | set order multi t => cases order <;> (rw [equals]; exact hElse _)
  | map order multi k v => cases order <;> (rw [equals]; exact hElse _)
  | _ => rw [equals]; exact hElse _

/-- The comparator that was registered last for a type is found. -/
theorem find_register (checker : Checker) (t : ValueType) (comparator : Comparator t) :
    (checker.register t comparator).find t = some comparator :=
  dif_pos rfl

/-- A comparator does not change what is found for other types. -/
theorem find_register_of_ne {checker : Checker} {s t : ValueType} (h : s ≠ t) (comparator : Comparator s) :
    (checker.register s comparator).find t = checker.find t :=
  dif_neg h

theorem decide_self {α : Type} [DecidableEq α] (a : α) :
    (.ok (decide (a = a)) : Except Failure Bool) = .ok true :=
  congrArg Except.ok (decide_eq_true rfl)

/-- Lists of elements that are compared by their equality are compared by theirs. -/
theorem listEqual_eq {α : Type} [DecidableEq α] {equal : α → α → Except Failure Bool}
    (h : ∀ x y, equal x y = .ok (decide (x = y))) (xs ys : List α) :
    listEqual equal xs ys = .ok (decide (xs = ys)) := by
  induction xs generalizing ys with
  | nil => cases ys <;> simp [listEqual]
  | cons x xs ih =>
      cases ys with
      | nil => simp [listEqual]
      | cons y ys =>
          rw [listEqual, h, ih]
          by_cases hSame : x = y <;> simp [bothEqual, hSame]

/-- Numbers are compared by their bits. -/
theorem equals_int32 (a b : BitVec 32) : equals {} .int32 a b = .ok (decide (a = b)) := by
  change Except.ok (Scalar.int32.isNaN a && Scalar.int32.isNaN b || Scalar.int32.same a b) = _
  exact congrArg Except.ok (Bool.beq_eq_decide_eq a b)

theorem equals_int64 (a b : BitVec 64) : equals {} (.scalar .int64) a b = .ok (decide (a = b)) := by
  change Except.ok (Scalar.int64.isNaN a && Scalar.int64.isNaN b || Scalar.int64.same a b) = _
  exact congrArg Except.ok (Bool.beq_eq_decide_eq a b)

/-- Texts are compared by their bytes. -/
theorem equals_string (a b : Bytes) : equals {} .string a b = .ok (decide (a = b)) :=
  congrArg Except.ok (Bool.beq_eq_decide_eq a b)

/-- Lists of numbers are compared by their elements. -/
theorem equals_int64s (a b : List (BitVec 64)) : equals {} .int64s a b = .ok (decide (a = b)) :=
  listEqual_eq equals_int64 a b

/-- Null equals null alone; other values are compared without the pointer or the flag around them. -/
theorem equals_optional {checker : Checker} {t : ValueType} (h : checker.find (.optional t) = none)
    {like : t.Val → t.Val → Prop} {v w : Option t.Val} (hLike : Option.Rel like v w)
    (hEquals : ∀ x y, v = some x → like x y → checker.equals t x y = .ok true) :
    checker.equals (.optional t) v w = .ok true := by
  rw [equals, orElse_of_find h]
  cases hLike with
  | none => rfl
  | some hLike => exact hEquals _ _ rfl hLike

end Checker

end SerializerContract
