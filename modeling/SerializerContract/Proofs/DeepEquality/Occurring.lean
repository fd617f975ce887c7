import SerializerContract.Proofs.Checker

/-! The types that a comparison of two values can look up: those that are nested in the type of the values, and
the dynamic types of what pointers in the values point to. Comparators for other types make no difference. Hashed
containers are left out, since they ask whether there is any comparator at all. -/
namespace SerializerContract

/-- Hashed containers, with or without values for their keys. -/
def ValueType.isHashed : ValueType → Bool
  | .set .hashed _ _ => true
  | .map .hashed _ _ _ => true
  | _ => false

mutual
/-- The type and the types inside it: of parts and elements, of what may be held and of what is pointed to, as
declared. The elements of a map have a type of their own. -/
def ValueType.nested : ValueType → List ValueType
  | .scalar s => [.scalar s]
  | .enumeration name s => [.enumeration name s]
  | .text kind => [.text kind]
  | .record name r => [.record name r]
  | .optional t => .optional t :: t.nested
  | .pointer kind t => .pointer kind t :: t.nested
  | .pair s t => .pair s t :: (s.nested ++ t.nested)
  | .entry k v => .entry k v :: (k.nested ++ v.nested)
  | .tuple t rest => .tuple t rest :: (t.nested ++ rest.nested)
  | .array n t => .array n t :: t.nested
  | .sequence kind t => .sequence kind t :: t.nested
  | .set lookup multi t => .set lookup multi t :: t.nested
  | .map lookup multi k v => .map lookup multi k v :: .entry k v :: (k.nested ++ v.nested)

def FieldTypes.nested : FieldTypes → List ValueType
  | .nil => []
  | .cons t rest => t.nested ++ rest.nested
end

/-- The own type of a value that can be of a more specific type than the declared one. -/
def ValueType.specific (t : ValueType) (v : t.Val) : List ValueType :=
  if t.isPolymorphic then [(t.dynamic v).type] else []

mutual
/-- The own types of what the pointers in a value point to. -/
def ValueType.pointeeTypes : (t : ValueType) → t.Val → List ValueType
  | .scalar _, _ => []
  | .enumeration _ _, _ => []
  | .text _, _ => []
  | .record _ _, _ => []
  | .optional t, (v : Option t.Val) => v.toList.flatMap t.pointeeTypes
  | .pointer _ t, (v : Option (Placed t.Val)) =>
    v.toList.flatMap fun x => t.specific x.value ++ t.pointeeTypes x.value
  | .pair s t, v => s.pointeeTypes v.1 ++ t.pointeeTypes v.2
  | .entry k t, v => k.pointeeTypes v.1 ++ t.pointeeTypes v.2
  | .tuple t rest, v => t.pointeeTypes v.1 ++ rest.pointeeTypes v.2
  | .array _ t, v => v.toList.flatMap t.pointeeTypes
  | .sequence _ t, (xs : List t.Val) => xs.flatMap t.pointeeTypes
  | .set _ _ t, (xs : List t.Val) => xs.flatMap t.pointeeTypes
  | .map _ _ k t, (xs : List (k.Val × t.Val)) => xs.flatMap fun x => k.pointeeTypes x.1 ++ t.pointeeTypes x.2

def FieldTypes.pointeeTypes : (ts : FieldTypes) → ts.Val → List ValueType
  | .nil, _ => []
  | .cons t rest, v => t.pointeeTypes v.1 ++ rest.pointeeTypes v.2
end

/-- All types that a comparison of two values can look up. -/
def ValueType.occurring (t : ValueType) (a b : t.Val) : List ValueType :=
  t.nested ++ (t.pointeeTypes a ++ t.pointeeTypes b)

namespace Registration

/-- The comparator, if it is one for the type. -/
def comparatorFor (s : ValueType) (registration : Registration) : Option (Comparator s) :=
  if h : registration.type = s then some (h ▸ registration.comparator) else none

/-- The comparator that was registered last for a type, if any was. -/
def lastFor (s : ValueType) (registrations : List Registration) : Option (Comparator s) :=
  (registrations.filterMap (comparatorFor s)).getLast?

end Registration

namespace Checker

variable {α : Type} {first second : Checker}

/-- Two checkers have the same comparators, or none, for some types. -/
def AgreeOn (first second : Checker) (types : List ValueType) : Prop :=
  ∀ s ∈ types, first.find s = second.find s

/-- The last registration for a type is what is found for it. -/
theorem find_register_eq (checker : Checker) (registration : Registration) (s : ValueType) :
    (checker.register registration.type registration.comparator).find s =
      (registration.comparatorFor s).or (checker.find s) := by
  rw [find, register, findIn, Registration.comparatorFor]
  split
  · rfl
  · rfl

/-- What a sequence of registrations leaves for a type: the last comparator for it, or what had been there. -/
theorem find_registerAll (checker : Checker) (registrations : List Registration) (s : ValueType) :
    (checker.registerAll registrations).find s = (Registration.lastFor s registrations).or (checker.find s) := by
  induction registrations generalizing checker with
  | nil => rfl
  | cons registration rest ih =>
      have hFirst : checker.registerAll (registration :: rest) =
          (checker.register registration.type registration.comparator).registerAll rest := rfl
      rw [hFirst, ih, find_register_eq, Registration.lastFor, Registration.lastFor, List.filterMap_cons]
      cases registration.comparatorFor s with
      | none => rfl
      | some comparator =>
          cases hRest : rest.filterMap (Registration.comparatorFor s) with
          | nil => rfl
          | cons other others => rw [List.getLast?_cons_cons, List.getLast?_cons, Option.some_or, Option.some_or]

/-- Two checkers that find the same for a type and compare its structure alike compare its values alike. -/
theorem orElse_congr {t : ValueType} (hFind : first.find t = second.find t) {structural structural' : Comparator t}
    {a b : t.Val} (h : structural a b = structural' a b) :
    first.orElse t structural a b = second.orElse t structural' a b := by
  rw [orElse, orElse, hFind]
  cases second.find t with
  | none => exact h
  | some comparator => rfl

theorem bothEqual_congr {one one' two two' : Except Failure Bool} (h : one = one') (h' : two = two') :
    (bothEqual one fun _ => two) = bothEqual one' fun _ => two' := by
  rw [h, h']

/-- Only elements in the same position are compared. -/
theorem listEqual_congr {equal equal' : α → α → Except Failure Bool} {xs ys : List α}
    (h : ∀ p ∈ xs.zip ys, equal p.1 p.2 = equal' p.1 p.2) : listEqual equal xs ys = listEqual equal' xs ys := by
  induction xs generalizing ys with
  | nil => cases ys <;> rfl
  | cons x xs ih =>
      cases ys with
      | nil => rfl
      | cons y ys =>
          rw [List.zip_cons_cons, List.forall_mem_cons] at h
          exact bothEqual_congr h.1 (ih h.2)

/-- A comparison of pointees looks up the expected one's own type, and only if both are of that type. -/
theorem pointeeEqual_congr {t : ValueType} {equal equal' : t.Val → t.Val → Except Failure Bool} {a b : t.Val}
    (hFind : first.AgreeOn second (t.specific a)) (h : equal a b = equal' a b) :
    first.pointeeEqual t equal a b = second.pointeeEqual t equal' a b := by
  by_cases hPolymorphic : t.isPolymorphic = true
  · have hOwn : first.find (t.dynamic a).type = second.find (t.dynamic a).type :=
      hFind _ (by rw [ValueType.specific, if_pos hPolymorphic]; exact List.mem_singleton_self _)
    simp only [pointeeEqual, if_pos hPolymorphic, hOwn, h]
  · simp only [pointeeEqual, if_neg hPolymorphic, h]

/-- Checkers agree on some types together if they agree on both parts. -/
theorem agreeOn_append {types types' : List ValueType} :
    first.AgreeOn second (types ++ types') ↔ first.AgreeOn second types ∧ first.AgreeOn second types' :=
  List.forall_mem_append

theorem agreeOn_flatMap {xs : List α} {types : α → List ValueType} :
    first.AgreeOn second (xs.flatMap types) ↔ ∀ x ∈ xs, first.AgreeOn second (types x) :=
  List.forall_mem_flatMap

end Checker

open Checker in
mutual
/-- Checkers that agree on the types inside a type, and on the own types of what an expected value points to,
compare the value alike with any other. -/
theorem Checker.equals_congr {first second : Checker} : (t : ValueType) →
    (∀ s ∈ t.nested, s.isHashed = false ∧ first.find s = second.find s) → ∀ a b,
      first.AgreeOn second (t.pointeeTypes a) → first.equals t a b = second.equals t a b
  | .scalar _, h, _, _, _ => orElse_congr (h _ List.mem_cons_self).2 rfl
  | .enumeration _ _, h, _, _, _ => orElse_congr (h _ List.mem_cons_self).2 rfl
  | .text _, h, _, _, _ => orElse_congr (h _ List.mem_cons_self).2 rfl
  | .record _ _, h, _, _, _ => orElse_congr (h _ List.mem_cons_self).2 rfl
  | .optional t, h, a, b, hPointees => by
    obtain ⟨hSelf, hNested⟩ := List.forall_mem_cons.mp h
    refine orElse_congr hSelf.2 ?_
    match a, b with
    | some x, some y =>
      exact Checker.equals_congr t hNested x y (agreeOn_flatMap.mp hPointees x List.mem_cons_self)
    | some _, none => rfl
    | none, some _ => rfl
    | none, none => rfl
  | .pointer _ t, h, a, b, hPointees => by
    obtain ⟨hSelf, hNested⟩ := List.forall_mem_cons.mp h
    refine orElse_congr hSelf.2 ?_
    match a, b with
    | some x, some y =>
      obtain ⟨hOwn, hInside⟩ := agreeOn_append.mp (agreeOn_flatMap.mp hPointees x List.mem_cons_self)
      exact pointeeEqual_congr hOwn (Checker.equals_congr t hNested x.value y.value hInside)
    | some _, none => rfl
    | none, some _ => rfl
    | none, none => rfl
  | .pair s t, h, a, b, hPointees => by
    obtain ⟨hSelf, hParts⟩ := List.forall_mem_cons.mp h
    obtain ⟨hFirst, hSecond⟩ := List.forall_mem_append.mp hParts
    obtain ⟨hPointees, hPointees'⟩ := agreeOn_append.mp hPointees
    exact orElse_congr hSelf.2 (bothEqual_congr (Checker.equals_congr s hFirst a.1 b.1 hPointees)
      (Checker.equals_congr t hSecond a.2 b.2 hPointees'))
  | .entry k v, h, a, b, hPointees => by
    obtain ⟨hSelf, hParts⟩ := List.forall_mem_cons.mp h
    obtain ⟨hKey, hValue⟩ := List.forall_mem_append.mp hParts
    obtain ⟨hPointees, hPointees'⟩ := agreeOn_append.mp hPointees
    exact orElse_congr hSelf.2 (bothEqual_congr (Checker.equals_congr k hKey a.1 b.1 hPointees)
      (Checker.equals_congr v hValue a.2 b.2 hPointees'))
  | .tuple t rest, h, a, b, hPointees => by
    obtain ⟨hSelf, hParts⟩ := List.forall_mem_cons.mp h
    obtain ⟨hFirst, hRest⟩ := List.forall_mem_append.mp hParts
    obtain ⟨hPointees, hPointees'⟩ := agreeOn_append.mp hPointees
    exact orElse_congr hSelf.2 (bothEqual_congr (Checker.equals_congr t hFirst a.1 b.1 hPointees)
      (Checker.fieldsEqual_congr rest hRest a.2 b.2 hPointees'))
  | .array _ t, h, a, b, hPointees => by
    obtain ⟨hSelf, hNested⟩ := List.forall_mem_cons.mp h
    refine orElse_congr hSelf.2 (listEqual_congr fun p hp => ?_)
    exact Checker.equals_congr t hNested p.1 p.2 (agreeOn_flatMap.mp hPointees p.1 (List.of_mem_zip hp).1)
  | .sequence _ t, h, a, b, hPointees => by
    obtain ⟨hSelf, hNested⟩ := List.forall_mem_cons.mp h
    refine orElse_congr hSelf.2 (listEqual_congr fun p hp => ?_)
    exact Checker.equals_congr t hNested p.1 p.2 (agreeOn_flatMap.mp hPointees p.1 (List.of_mem_zip hp).1)
  | .set .ordered _ t, h, a, b, hPointees => by
    obtain ⟨hSelf, hNested⟩ := List.forall_mem_cons.mp h
    refine orElse_congr hSelf.2 (listEqual_congr fun p hp => ?_)
    exact Checker.equals_congr t hNested p.1 p.2 (agreeOn_flatMap.mp hPointees p.1 (List.of_mem_zip hp).1)
  | .map .ordered _ k v, h, a, b, hPointees => by
    obtain ⟨hSelf, hElements⟩ := List.forall_mem_cons.mp h
    obtain ⟨hEntry, hParts⟩ := List.forall_mem_cons.mp hElements
    obtain ⟨hKey, hValue⟩ := List.forall_mem_append.mp hParts
    refine orElse_congr hSelf.2 (listEqual_congr fun p hp => orElse_congr hEntry.2 ?_)
    obtain ⟨hPointees, hPointees'⟩ := agreeOn_append.mp (agreeOn_flatMap.mp hPointees p.1 (List.of_mem_zip hp).1)
    exact bothEqual_congr (Checker.equals_congr k hKey p.1.1 p.2.1 hPointees)
      (Checker.equals_congr v hValue p.1.2 p.2.2 hPointees')
  | .set .hashed _ _, h, _, _, _ => nomatch (h _ List.mem_cons_self).1
  | .map .hashed _ _ _, h, _, _, _ => nomatch (h _ List.mem_cons_self).1

/-- Checkers that agree on the types of the fields, and on those of the pointees that occur, compare tuples
alike. -/
theorem Checker.fieldsEqual_congr {first second : Checker} : (ts : FieldTypes) →
    (∀ s ∈ ts.nested, s.isHashed = false ∧ first.find s = second.find s) → ∀ a b,
      first.AgreeOn second (ts.pointeeTypes a) → first.fieldsEqual ts a b = second.fieldsEqual ts a b
  | .nil, _, _, _, _ => rfl
  | .cons t rest, h, a, b, hPointees => by
    obtain ⟨hFirst, hRest⟩ := List.forall_mem_append.mp h
    obtain ⟨hPointees, hPointees'⟩ := agreeOn_append.mp hPointees
    exact bothEqual_congr (Checker.equals_congr t hFirst a.1 b.1 hPointees)
      (Checker.fieldsEqual_congr rest hRest a.2 b.2 hPointees')
end

namespace Checker

/-- On types without hashed containers only the comparators matter that were registered last for the types
that occur in the comparison: sequences of registrations that end alike for each of these lead to the same
answer, or to the same failure. -/
theorem equals_of_same_lasts (t : ValueType) (hUnhashed : ∀ s ∈ t.nested, s.isHashed = false) (a b : t.Val)
    (registrations others : List Registration)
    (hLast : ∀ s ∈ t.occurring a b, Registration.lastFor s registrations = Registration.lastFor s others) :
    (registerAll {} registrations).equals t a b = (registerAll {} others).equals t a b := by
  have hFind : (registerAll {} registrations).AgreeOn (registerAll {} others) (t.occurring a b) := by
    intro s hs
    rw [find_registerAll, find_registerAll, hLast s hs]
  obtain ⟨hStatic, hPointees⟩ := agreeOn_append.mp hFind
  exact equals_congr t (fun s hs => ⟨hUnhashed s hs, hStatic s hs⟩) a b (agreeOn_append.mp hPointees).1

section Wheels

abbrev wheels : ValueType := .sequence .vector .shapePointer

/-- A circle of radius one, and one of radius two. -/
def smallWheel : wheels.Val := [some ⟨1, ⟨"Samples", "Circle"⟩, .circle, 0x3FF0000000000000#64⟩]

def largeWheel : wheels.Val := [some ⟨2, ⟨"Samples", "Circle"⟩, .circle, 0x4000000000000000#64⟩]

def byRadius : Registration := ⟨.circle, Comparator.ofBool Comparator.doubleSame⟩

/-- One comparator for circles is replaced by another, and numbers do not occur. -/
def replaced : List Registration := [⟨.circle, Comparator.always⟩, ⟨.int32, Comparator.never⟩, byRadius]

/-- Texts do not occur either. -/
def besideTexts : List Registration := [byRadius, ⟨.string, Comparator.failing⟩]

/-- A comparator that was replaced, and comparators for types that do not occur, make no difference to two lists
of wheels. -/
theorem equals_of_same_lasts_wheels :
    (∀ s ∈ wheels.nested, s.isHashed = false) ∧
    (∀ s ∈ wheels.occurring smallWheel largeWheel,
      Registration.lastFor s replaced = Registration.lastFor s besideTexts) ∧
    (registerAll {} replaced).equals wheels smallWheel largeWheel =
      (registerAll {} besideTexts).equals wheels smallWheel largeWheel ∧
    (registerAll {} besideTexts).equals wheels smallWheel largeWheel = .ok false := by
  have hUnhashed : ∀ s ∈ wheels.nested, s.isHashed = false := by decide
  have hOccurring : wheels.occurring smallWheel largeWheel =
      [wheels, .shapePointer, .shape, .circle, .circle] := rfl
  have hLast : ∀ s ∈ wheels.occurring smallWheel largeWheel,
      Registration.lastFor s replaced = Registration.lastFor s besideTexts := by
    rw [hOccurring]
    simp only [List.forall_mem_cons]
    exact ⟨rfl, rfl, rfl, rfl, rfl, by simp⟩
  exact ⟨hUnhashed, hLast, equals_of_same_lasts wheels hUnhashed _ _ _ _ hLast, rfl⟩

end Wheels

end Checker

end SerializerContract
