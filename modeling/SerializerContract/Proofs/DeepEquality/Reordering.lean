import SerializerContract.Proofs.DeepEquality.Classes

/-! The order in which a hashed container lists its elements is no part of its value. Here is when two values
differ in such orders only, and that equality as the types define it themselves does not see the difference;
it is an equivalence on the values of every type that has one and no floating point numbers inside. -/
namespace SerializerContract

mutual
/-- The same value, except that hashed containers in it list their elements in another order. -/
def ValueType.Reordered : (t : ValueType) → t.Val → t.Val → Prop
  | .scalar _ => Eq
  | .enumeration _ _ => Eq
  | .text _ => Eq
  | .record _ _ => Eq
  | .optional t => Option.Rel t.Reordered
  | .pointer _ t => Option.Rel fun x y => x.place = y.place ∧ t.Reordered x.value y.value
  | .pair s t => fun a b => s.Reordered a.1 b.1 ∧ t.Reordered a.2 b.2
  | .entry k v => fun a b => k.Reordered a.1 b.1 ∧ v.Reordered a.2 b.2
  | .tuple t rest => fun a b => t.Reordered a.1 b.1 ∧ rest.Reordered a.2 b.2
  | .array _ t => fun a b => List.Forall₂ t.Reordered a.toList b.toList
  | .sequence _ t => List.Forall₂ t.Reordered
  | .set .ordered _ t => List.Forall₂ t.Reordered
  | .set .hashed _ t => Rearranged t.Reordered
  | .map .ordered _ k v => List.Forall₂ fun x y => k.Reordered x.1 y.1 ∧ v.Reordered x.2 y.2
  | .map .hashed _ k v => Rearranged fun x y => k.Reordered x.1 y.1 ∧ v.Reordered x.2 y.2

def FieldTypes.Reordered : (ts : FieldTypes) → ts.Val → ts.Val → Prop
  | .nil => fun _ _ => True
  | .cons t rest => fun a b => t.Reordered a.1 b.1 ∧ rest.Reordered a.2 b.2
end

mutual
/-- The type's own equality is an equivalence: it has one, and no floating point numbers inside. Pointers are
compared by place, whatever they point to. -/
def ValueType.Comparable : ValueType → Prop
  | .scalar s => s.floatFormat = none
  | .enumeration _ s => s.floatFormat = none
  | .text _ => True
  | .record _ r => r.hasEquality = true
  | .optional t => t.Comparable
  | .pointer _ _ => True
  | .pair s t => s.Comparable ∧ t.Comparable
  | .entry k v => k.Comparable ∧ v.Comparable
  | .tuple t rest => t.Comparable ∧ rest.Comparable
  | .array _ t => t.Comparable
  | .sequence _ t => t.Comparable
  | .set _ _ t => t.Comparable
  | .map _ _ k v => k.Comparable ∧ v.Comparable

def FieldTypes.Comparable : FieldTypes → Prop
  | .nil => True
  | .cons t rest => t.Comparable ∧ rest.Comparable
end

/-! ## Comparisons that cannot fail -/

namespace Checker

variable {α : Type}

theorem listEqual_ok (same : α → α → Bool) (xs ys : List α) :
    listEqual (fun x y => .ok (same x y)) xs ys = .ok (allSame same xs ys) := by
  induction xs generalizing ys with
  | nil => cases ys <;> rfl
  | cons x xs ih =>
      cases ys with
      | nil => rfl
      | cons y ys => cases h : same x y <;> simp [listEqual, bothEqual, allSame, h, ih]

/-- The first element that is the same is taken away. -/
theorem takeEqual_ok (same : α → α → Bool) (x : α) (ys : List α) :
    takeEqual (fun x y => .ok (same x y)) x ys = .ok ((ys.findIdx? (same x)).map ys.eraseIdx) := by
  induction ys with
  | nil => rfl
  | cons y ys ih =>
      cases h : same x y with
      | true => simp [takeEqual, List.findIdx?_cons, h]
      | false =>
          simp only [takeEqual, List.findIdx?_cons, h, ih]
          cases ys.findIdx? (same x) <;> rfl

/-- One of a list that was found and erased leaves one less. -/
theorem length_eraseIdx_found {p : α → Bool} {ys : List α} {i : Nat} (h : ys.findIdx? p = some i) :
    (ys.eraseIdx i).length + 1 = ys.length := by
  have hi : i < ys.length := (List.findIdx?_eq_some_iff_findIdx_eq.mp h).1
  rw [List.length_eraseIdx_of_lt hi]
  omega

/-- Only lists of one length pair up. -/
theorem length_eq_of_pairsUp {same : α → α → Bool} {xs ys : List α} (h : pairsUp same xs ys = true) :
    xs.length = ys.length := by
  induction xs generalizing ys with
  | nil => exact (List.length_eq_zero_iff.mpr (List.isEmpty_iff.mp h)).symm
  | cons x xs ih =>
      rw [pairsUp] at h
      cases hFound : ys.findIdx? (same x) with
      | none => simp [hFound] at h
      | some i =>
          rw [hFound] at h
          rw [List.length_cons, ih h, length_eraseIdx_found hFound]

theorem allFound_ok {same : α → α → Bool} {xs ys : List α} (hLength : xs.length = ys.length) :
    allFound (fun x y => .ok (same x y)) xs ys = .ok (pairsUp same xs ys) := by
  induction xs generalizing ys with
  | nil =>
      obtain rfl : ys = [] := List.length_eq_zero_iff.mp hLength.symm
      rfl
  | cons x xs ih =>
      rw [allFound, takeEqual_ok, pairsUp]
      cases hFound : ys.findIdx? (same x) with
      | none => rfl
      | some i => exact ih (Nat.succ_inj.mp (hLength.trans (length_eraseIdx_found hFound).symm))

/-- Where comparing always answers, lists are equal without an order exactly if they pair up. -/
theorem unorderedEqual_ok (same : α → α → Bool) (xs ys : List α) :
    unorderedEqual (fun x y => .ok (same x y)) xs ys = .ok (pairsUp same xs ys) := by
  rw [unorderedEqual]
  by_cases hLength : xs.length = ys.length
  · rw [if_neg (by simpa using hLength), allFound_ok hLength]
  · rw [if_pos (by simpa using hLength)]
    exact congrArg Except.ok (Bool.eq_false_iff.mpr fun h => hLength (length_eq_of_pairsUp h)).symm

end Checker

open Checker

section SortsAll

variable {α β : Type} {same : α → α → Bool} {alike : α → α → Prop}

/-- All values have classes, and alike ones are of one class. -/
abbrev SortsAll (same : α → α → Bool) (alike : α → α → Prop) : Prop :=
  Sorts (fun a b => .ok (same a b)) (fun _ => True) True alike

/-- An equality of pairs sorts them by both parts. -/
theorem sortsAll_pair {same' : β → β → Bool} {alike' : β → β → Prop} (h : SortsAll same alike)
    (h' : SortsAll same' alike') :
    SortsAll (fun a b : α × β => same a.1 b.1 && same' a.2 b.2) fun a b => alike a.1 b.1 ∧ alike' a.2 b.2 := by
  have hEqual : (fun a b : α × β => bothEqual (.ok (same a.1 b.1)) fun _ => .ok (same' a.2 b.2)) =
      fun a b => .ok (same a.1 b.1 && same' a.2 b.2) := by
    funext a b
    cases same a.1 b.1 <;> rfl
  have hPair := sorts_pair h h'
  rw [hEqual] at hPair
  exact hPair.restrict (fun _ _ => ⟨trivial, trivial⟩) fun _ _ _ _ => trivial

theorem sortsAll_option (h : SortsAll same alike) {sameOption : Option α → Option α → Bool}
    (hOption : ∀ a b, .ok (sameOption a b) = optionEqual (fun x y => .ok (same x y)) a b) :
    SortsAll sameOption (Option.Rel alike) :=
  (sorts_option h hOption).restrict (fun _ _ _ _ => trivial) fun _ _ _ _ => trivial

theorem sortsAll_list (h : SortsAll same alike) : SortsAll (allSame same) (List.Forall₂ alike) := by
  have hList := sorts_list h
  rw [funext₂ (listEqual_ok same)] at hList
  exact hList.restrict (fun _ _ _ _ => trivial) fun _ _ _ _ => trivial

/-- An equality without an order sorts lists by the classes of their elements, in any order. -/
theorem sortsAll_unordered (h : SortsAll same alike) : SortsAll (pairsUp same) (Rearranged alike) := by
  have hUnordered := sorts_unordered h
  rw [funext₂ (unorderedEqual_ok same)] at hUnordered
  exact hUnordered.restrict (fun _ _ _ _ => trivial) fun _ _ _ _ => trivial

end SortsAll

/-! ## The equality of a type -/

/-- Numbers other than floating point ones are the same only as themselves. -/
theorem Scalar.same_sorts {s : Scalar} (h : s.floatFormat = none) : SortsAll s.same Eq :=
  .of_key id (fun a b => by simp [Scalar.same, h]) fun _ _ hab => hab

theorem Bytes.same_iff (a b : Bytes) : Bytes.same a b = true ↔ a = b :=
  beq_iff_eq

theorem TextKind.same_sorts (kind : TextKind) : SortsAll kind.same Eq := by
  cases kind with
  | zeroTerminated => exact .of_key Placed.place (fun a b => by simp [TextKind.same]) fun _ _ hab => hab ▸ rfl
  | owned => exact .of_key id Bytes.same_iff fun _ _ hab => hab
  | view => exact .of_key id Bytes.same_iff fun _ _ hab => hab

/-- Records with an equality of their own are sorted by it, and are the same as themselves. -/
theorem Record.same_sorts {r : Record} (h : r.hasEquality = true) : SortsAll r.same Eq := by
  cases r with
  | label => exact .of_key id Bytes.same_iff fun _ _ hab => hab
  | tag => exact .of_key Placed.place (fun a b => by simp [Record.same]) fun _ _ hab => hab ▸ rfl
  | _ => cases h

mutual
/-- Equality of values sorts all values of a type without floating point numbers, and does not see
rearrangements. -/
theorem ValueType.same_sorts : (t : ValueType) → t.Comparable → SortsAll t.same t.Reordered
  | .scalar s, h => Scalar.same_sorts h
  | .enumeration _ s, h => Scalar.same_sorts h
  | .text kind, _ => kind.same_sorts
  | .record _ r, h => Record.same_sorts h
  | .optional t, h => sortsAll_option (t.same_sorts h) fun a b => by cases a <;> cases b <;> rfl
  | .pointer _ t, _ => .of_key (Option.map Placed.place) (fun a b => by simp [ValueType.same]) fun a b hab => by
    cases hab with
    | none => rfl
    | some hab => exact congrArg some hab.1
  | .pair s t, h => sortsAll_pair (s.same_sorts h.1) (t.same_sorts h.2)
  | .entry k v, h => sortsAll_pair (k.same_sorts h.1) (v.same_sorts h.2)
  | .tuple t rest, h => sortsAll_pair (t.same_sorts h.1) (rest.same_sorts h.2)
  | .array _ t, h => (sortsAll_list (t.same_sorts h)).comap Row.toList
  | .sequence _ t, h => sortsAll_list (t.same_sorts h)
  | .set .ordered _ t, h => sortsAll_list (t.same_sorts h)
  | .set .hashed _ t, h => sortsAll_unordered (t.same_sorts h)
  | .map .ordered _ k v, h => sortsAll_list (sortsAll_pair (k.same_sorts h.1) (v.same_sorts h.2))
  | .map .hashed _ k v, h => sortsAll_unordered (sortsAll_pair (k.same_sorts h.1) (v.same_sorts h.2))

/-- Equality of tuples sorts them by their fields. -/
theorem FieldTypes.same_sorts : (ts : FieldTypes) → ts.Comparable → SortsAll ts.same ts.Reordered
  | .nil, _ => .of_key (fun _ => ()) (fun _ _ => iff_of_true rfl rfl) fun _ _ _ => rfl
  | .cons t rest, h => sortsAll_pair (t.same_sorts h.1) (rest.same_sorts h.2)
end

end SerializerContract
