import SerializerContract.Proofs.DeepEquality.Points

/-! When a comparison fails. It does if it comes to values that nothing says how to compare, and it comes to them
only if everything before them is equal. It never does if there is a comparator or a rule for each type that is
not looked into. -/
namespace SerializerContract

/-- The type itself if there is a comparator for it, and otherwise the types inside. -/
def Checker.typesOr (checker : Checker) (t : ValueType) (inside : List ValueType) : List ValueType :=
  match checker.find t with
  | some _ => [t]
  | none => inside

open Checker in
mutual
/-- The types of the values that comparisons of values of a type do not look into. -/
def Checker.leafTypes (checker : Checker) : ValueType → List ValueType
  | .scalar s => [.scalar s]
  | .enumeration name s => [.enumeration name s]
  | .text kind => [.text kind]
  | .record name r => [.record name r]
  | .optional t => checker.typesOr (.optional t) (checker.leafTypes t)
  | .pointer kind t => checker.typesOr (.pointer kind t) (checker.leafTypes t)
  | .pair s t => checker.typesOr (.pair s t) (checker.leafTypes s ++ checker.leafTypes t)
  | .entry k v => checker.typesOr (.entry k v) (checker.leafTypes k ++ checker.leafTypes v)
  | .tuple t rest => checker.typesOr (.tuple t rest) (checker.leafTypes t ++ checker.fieldsLeafTypes rest)
  | .array n t => checker.typesOr (.array n t) (checker.leafTypes t)
  | .sequence kind t => checker.typesOr (.sequence kind t) (checker.leafTypes t)
  | .set lookup multi t => checker.typesOr (.set lookup multi t) (checker.leafTypes t)
  | .map lookup multi k v => checker.typesOr (.map lookup multi k v)
    (checker.typesOr (.entry k v) (checker.leafTypes k ++ checker.leafTypes v))

def Checker.fieldsLeafTypes (checker : Checker) : FieldTypes → List ValueType
  | .nil => []
  | .cons t rest => checker.leafTypes t ++ checker.fieldsLeafTypes rest
end

namespace Checker

variable {checker : Checker} {α : Type} {points points' : List ComparisonPoint} {types : List ValueType}

/-- There is a comparator for values of each of the types, or a rule. -/
def CoversTypes (checker : Checker) (types : List ValueType) : Prop := ∀ s ∈ types, checker.ruleFor s ≠ none

/-- At each of the points something says how the values compare. -/
def RulesAt (checker : Checker) (points : List ComparisonPoint) : Prop := ∀ p ∈ points, ∀ s, ¬ checker.LacksRule s p

theorem rulesAt_nil : checker.RulesAt [] := nofun

theorem rulesAt_values {t : ValueType} (h : checker.ruleFor t ≠ none) (a b : t.Val) :
    checker.RulesAt [.values t a b] :=
  List.forall_mem_singleton.mpr fun _ hLacks => h hLacks.2

/-- A leaf whose type is covered has a rule. -/
theorem rulesAt_leaf {t : ValueType} (h : checker.CoversTypes [t]) (a b : t.Val) :
    checker.RulesAt [.values t a b] :=
  rulesAt_values (h t List.mem_cons_self) a b

theorem rulesAt_presence {a b : Bool} (h : checker.RulesAt points) : checker.RulesAt (.presence a b :: points) :=
  List.forall_mem_cons.mpr ⟨fun _ hLacks => hLacks, h⟩

/-- There are rules at all points, if there are at those of both parts. -/
theorem RulesAt.append (h : checker.RulesAt points) (h' : checker.RulesAt points') :
    checker.RulesAt (points ++ points') :=
  List.forall_mem_append.mpr ⟨h, h'⟩

theorem coversTypes_append {types' : List ValueType} :
    checker.CoversTypes (types ++ types') ↔ checker.CoversTypes types ∧ checker.CoversTypes types' :=
  List.forall_mem_append

/-- A comparator is a rule. -/
theorem ruleFor_of_find {t : ValueType} {comparator : Comparator t} (h : checker.find t = some comparator) :
    checker.ruleFor t ≠ none := by
  rw [ruleFor, h, Option.some_or]
  exact Option.some_ne_none comparator

/-- Where there is a comparator it does not matter what is inside. -/
theorem rulesAt_pointsOr {t : ValueType} {inside : t.Val → t.Val → List ComparisonPoint} {a b : t.Val}
    (hCovers : checker.CoversTypes (checker.typesOr t types))
    (h : checker.CoversTypes types → checker.RulesAt (inside a b)) :
    checker.RulesAt (checker.pointsOr t inside a b) := by
  rw [typesOr] at hCovers
  rw [pointsOr]
  cases hFind : checker.find t with
  | some comparator => exact rulesAt_values (ruleFor_of_find hFind) a b
  | none =>
      rw [hFind] at hCovers
      exact h hCovers

/-- There are rules at the points of lists, if there are at those of any two elements. -/
theorem rulesAt_list {element : α → α → List ComparisonPoint} (h : ∀ x y, checker.RulesAt (element x y))
    (xs ys : List α) : checker.RulesAt (listPoints element xs ys) := by
  refine RulesAt.append (fun p hp => ?_) (List.forall_mem_singleton.mpr fun _ hLacks => hLacks)
  obtain ⟨pair, -, hPoint⟩ := List.mem_flatMap.mp hp
  exact h pair.1 pair.2 p hPoint

/-- There are rules at the points of two pointees, by their declared type or by the dynamic one they share. -/
theorem rulesAt_pointee {t : ValueType} {declared : t.Val → t.Val → List ComparisonPoint} {a b : t.Val}
    (h : checker.RulesAt (declared a b)) : checker.RulesAt (checker.pointeePoints t declared a b) := by
  rw [pointeePoints]
  split
  · refine List.forall_mem_cons.mpr ⟨fun _ hLacks => hLacks, ?_⟩
    split
    · rw [pointsOr]
      cases hFind : checker.find (t.dynamic a).type with
      | some comparator => exact rulesAt_values (ruleFor_of_find hFind) _ _
      | none => exact h
    · exact rulesAt_nil
  · exact h

end Checker

open Checker in
mutual
/-- There is a rule at every point of a comparison if all types of leaves are covered. -/
theorem Checker.rulesAt_points {checker : Checker} : (t : ValueType) → checker.CoversTypes (checker.leafTypes t) →
    ∀ a b, checker.RulesAt (checker.points t a b)
  | .scalar _, h, _, _ => rulesAt_leaf h _ _
  | .enumeration _ _, h, _, _ => rulesAt_leaf h _ _
  | .text _, h, _, _ => rulesAt_leaf h _ _
  | .record _ _, h, _, _ => rulesAt_leaf h _ _
  | .optional t, h, a, b => by
    refine rulesAt_pointsOr h fun hInside => rulesAt_presence ?_
    match a, b with
    | some x, some y => exact Checker.rulesAt_points t hInside x y
    | some _, none => exact rulesAt_nil
    | none, _ => exact rulesAt_nil
  | .pointer _ t, h, a, b => by
    refine rulesAt_pointsOr h fun hInside => rulesAt_presence ?_
    match a, b with
    | some x, some y => exact rulesAt_pointee (Checker.rulesAt_points t hInside x.value y.value)
    | some _, none => exact rulesAt_nil
    | none, _ => exact rulesAt_nil
  | .pair s t, h, a, b => by
    refine rulesAt_pointsOr h fun hInside => ?_
    obtain ⟨hFirst, hSecond⟩ := coversTypes_append.mp hInside
    exact (Checker.rulesAt_points s hFirst a.1 b.1).append (Checker.rulesAt_points t hSecond a.2 b.2)
  | .entry k v, h, a, b => by
    refine rulesAt_pointsOr h fun hInside => ?_
    obtain ⟨hKey, hValue⟩ := coversTypes_append.mp hInside
    exact (Checker.rulesAt_points k hKey a.1 b.1).append (Checker.rulesAt_points v hValue a.2 b.2)
  | .tuple t rest, h, a, b => by
    refine rulesAt_pointsOr h fun hInside => ?_
    obtain ⟨hFirst, hRest⟩ := coversTypes_append.mp hInside
    exact (Checker.rulesAt_points t hFirst a.1 b.1).append (Checker.rulesAt_fieldsPoints rest hRest a.2 b.2)
  | .array _ t, h, _, _ =>
    rulesAt_pointsOr h fun hInside => rulesAt_list (Checker.rulesAt_points t hInside) _ _
  | .sequence _ t, h, _, _ =>
    rulesAt_pointsOr h fun hInside => rulesAt_list (Checker.rulesAt_points t hInside) _ _
  | .set .ordered _ t, h, _, _ =>
    rulesAt_pointsOr h fun hInside => rulesAt_list (Checker.rulesAt_points t hInside) _ _
  | .set .hashed _ _, h, _, _ => rulesAt_pointsOr h fun _ => rulesAt_nil
  | .map .ordered _ k v, h, _, _ => by
    refine rulesAt_pointsOr h fun hElements => rulesAt_list (fun x y => ?_) _ _
    refine rulesAt_pointsOr hElements fun hInside => ?_
    obtain ⟨hKey, hValue⟩ := coversTypes_append.mp hInside
    exact (Checker.rulesAt_points k hKey x.1 y.1).append (Checker.rulesAt_points v hValue x.2 y.2)
  | .map .hashed _ _ _, h, _, _ => rulesAt_pointsOr h fun _ => rulesAt_nil

/-- There are rules at all points of two tuples whose leaves are covered. -/
theorem Checker.rulesAt_fieldsPoints {checker : Checker} : (ts : FieldTypes) →
    checker.CoversTypes (checker.fieldsLeafTypes ts) → ∀ a b, checker.RulesAt (checker.fieldsPoints ts a b)
  | .nil, _, _, _ => rulesAt_nil
  | .cons t rest, h, a, b => by
    obtain ⟨hFirst, hRest⟩ := coversTypes_append.mp h
    exact (Checker.rulesAt_points t hFirst a.1 b.1).append (Checker.rulesAt_fieldsPoints rest hRest a.2 b.2)
end

namespace Checker

variable {checker : Checker}

/-- A comparison fails exactly if there is no rule at the first point that is not found equal, and then names the
type that meets there. Otherwise the values are equal exactly if all points are. -/
theorem first_difference_decides (hAnswers : checker.Answers) (t : ValueType)
    (hUnhashed : ∀ s ∈ t.nested, s.isHashed = false) (a b : t.Val) :
    (∀ failure, checker.equals t a b = .error failure ↔
      ∃ before p after s, checker.points t a b = before ++ p :: after ∧
        (∀ q ∈ before, checker.FindsEqual q) ∧ checker.LacksRule s p ∧
        failure = .fixture "deep equality" ("No comparator registered for type " ++ s.name)) ∧
    (checker.equals t a b = .ok true ↔ ∀ p ∈ checker.points t a b, checker.FindsEqual p) ∧
    (checker.CoversTypes (checker.leafTypes t) → ∃ equal, checker.equals t a b = .ok equal) := by
  have hFails (failure : Failure) : checker.equals t a b = .error failure ↔
      ∃ before p after s, checker.points t a b = before ++ p :: after ∧
        (∀ q ∈ before, checker.FindsEqual q) ∧ checker.LacksRule s p ∧ failure = missing s := by
    rw [equals_eq_judge t hUnhashed, judge_eq_error_iff]
    simp only [hAnswers.verdict_eq_error_iff, exists_and_left]
  refine ⟨hFails, ?_, fun hCovers => ?_⟩
  · rw [equals_eq_judge t hUnhashed, judge_eq_true_iff]
  · cases hEquals : checker.equals t a b with
    | ok equal => exact ⟨equal, rfl⟩
    | error failure =>
        obtain ⟨before, p, after, s, hPoints, -, hLacks, -⟩ := (hFails failure).mp hEquals
        have hPoint : p ∈ checker.points t a b := hPoints ▸ List.mem_append_right before List.mem_cons_self
        exact absurd hLacks (rulesAt_points t hCovers a b p hPoint s)

section NumberedShapes

/-- All numbers count as equal, and nothing says how shapes compare. -/
def anyNumbers : Checker := register {} .int32 Comparator.always

abbrev numberedShapes : ValueType := .sequence .vector (.pair .int32 .shapePointer)

def numberedCircle : numberedShapes.Val := [(1#32, none), (2#32, some ⟨1, ⟨"Samples", "Circle"⟩, .circle, 0#64⟩)]

/-- Equal up to the shapes, both of them circles. -/
def renumberedCircle : numberedShapes.Val := [(11#32, none), (12#32, some ⟨2, ⟨"Samples", "Circle"⟩, .circle, 0#64⟩)]

/-- Equal up to the types of the shapes. -/
def renumberedSquare : numberedShapes.Val := [(11#32, none), (12#32, some ⟨2, ⟨"drv", "Square"⟩, .square, 0#64⟩)]

/-- Up to the second shape everything is equal: the first numbers, that there is no first shape, the second
numbers, that there is a second shape, and that it is a circle. -/
theorem first_difference_decides_circles :
    anyNumbers.Answers ∧ (∀ s ∈ numberedShapes.nested, s.isHashed = false) ∧
    anyNumbers.equals numberedShapes numberedCircle renumberedCircle = .error (missing .shape) ∧
    anyNumbers.equals numberedShapes numberedCircle renumberedSquare = .ok false := by
  have hAnswers : anyNumbers.Answers := answers_empty.register fun _ _ => ⟨_, rfl⟩
  have hUnhashed : ∀ s ∈ numberedShapes.nested, s.isHashed = false := by decide
  have hPoints : anyNumbers.points numberedShapes numberedCircle renumberedCircle =
      [.values .int32 1#32 11#32, .presence false false, .values .int32 2#32 12#32, .presence true true,
        .ownTypes .circle .circle] ++
      [.values .shape ⟨⟨"Samples", "Circle"⟩, .circle, 0#64⟩ ⟨⟨"Samples", "Circle"⟩, .circle, 0#64⟩,
        .lengths 2 2] := rfl
  have hBefore : ∀ q ∈ [ComparisonPoint.values .int32 1#32 11#32, .presence false false, .values .int32 2#32 12#32,
      .presence true true, .ownTypes .circle .circle], anyNumbers.FindsEqual q := by
    simp only [List.forall_mem_cons]
    exact ⟨⟨_, rfl, rfl⟩, rfl, ⟨_, rfl, rfl⟩, rfl, rfl, nofun⟩
  obtain ⟨hFails, -, -⟩ := first_difference_decides hAnswers numberedShapes hUnhashed numberedCircle renumberedCircle
  refine ⟨hAnswers, hUnhashed, ?_, rfl⟩
  exact (hFails _).mpr ⟨_, _, _, .shape, hPoints, hBefore, ⟨rfl, rfl⟩, rfl⟩

end NumberedShapes

end Checker

end SerializerContract
