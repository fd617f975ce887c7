import SerializerContract.Proofs.DeepEquality.Occurring

/-! A comparison goes through two values from left to right, and at each place from the outside to the inside. It
stops at the first point at which the values are not found equal: with a failure if nothing says how they compare
there, and otherwise because they differ. Hashed containers are not gone through in an order, and are left out. -/
namespace SerializerContract

/-- What values without parts are compared by if there is no comparator. For a record that is its own equality,
if it has one. -/
def ValueType.leafRule : (t : ValueType) → Option (t.Val → t.Val → Bool)
  | .scalar s => some (Checker.scalarEqual s)
  | .enumeration _ s => some s.same
  | .text kind => some fun a b => Bytes.same (kind.bytes a) (kind.bytes b)
  | .record _ r => if r.hasEquality then some r.same else none
  | _ => none

/-- A point that a comparison can come to. -/
inductive ComparisonPoint where
  /-- Two values that are not looked into: by a comparator for their type, or as they have no parts. -/
  | values (t : ValueType) (expected actual : t.Val)
  /-- Whether each of two values is there, and not null. -/
  | presence (expected actual : Bool)
  /-- The own types of what two pointers point to. -/
  | ownTypes (expected actual : ValueType)
  /-- How many elements two containers have, at the end of the shorter one. -/
  | lengths (expected actual : Nat)

namespace Checker

variable {checker : Checker}

/-- What two values that are not looked into are compared by. -/
def ruleFor (checker : Checker) (t : ValueType) : Option (Comparator t) :=
  (checker.find t).or (t.leafRule.map fun equal a b => .ok (equal a b))

def FindsEqual (checker : Checker) : ComparisonPoint → Prop
  | .values t a b => ∃ equal, checker.ruleFor t = some equal ∧ equal a b = .ok true
  | .presence a b => a = b
  | .ownTypes s t => s = t
  | .lengths m n => m = n

/-- Values of the type meet, and there is neither a comparator for them nor a rule. -/
def LacksRule (checker : Checker) (s : ValueType) : ComparisonPoint → Prop
  | .values t _ _ => t = s ∧ checker.ruleFor t = none
  | _ => False

def verdict (checker : Checker) : ComparisonPoint → Except Failure Bool
  | .values t a b =>
    match checker.ruleFor t with
    | some equal => equal a b
    | none => .error (missing t)
  | .presence a b => .ok (decide (a = b))
  | .ownTypes s t => .ok (decide (s = t))
  | .lengths m n => .ok (decide (m = n))

/-- The verdict about one point is true exactly if the checker finds its two sides equal. -/
theorem verdict_eq_true_iff (p : ComparisonPoint) : checker.verdict p = .ok true ↔ checker.FindsEqual p := by
  cases p with
  | values t a b =>
      simp only [verdict, FindsEqual]
      cases checker.ruleFor t with
      | none => simp
      | some equal => simp
  | presence a b | ownTypes a b | lengths a b => simp [verdict, FindsEqual]

/-! ## The first point that is not equal -/

/-- What is said at the points in their order, up to the first one that is not equal. -/
def judge (checker : Checker) : List ComparisonPoint → Except Failure Bool
  | [] => .ok true
  | p :: rest => bothEqual (checker.verdict p) fun _ => checker.judge rest

theorem judge_singleton (p : ComparisonPoint) : checker.judge [p] = checker.verdict p := by
  rw [judge]
  rcases checker.verdict p with failure | _ | _ <;> rfl

/-- Points are judged one after the other, and the second part only if the first one is equal. -/
theorem judge_append (first second : List ComparisonPoint) :
    checker.judge (first ++ second) = bothEqual (checker.judge first) fun _ => checker.judge second := by
  induction first with
  | nil => rfl
  | cons p rest ih =>
      rw [List.cons_append, judge, judge, ih]
      rcases checker.verdict p with failure | _ | _ <;> rfl

/-- The judgement is true exactly if the two sides are found equal at every point. -/
theorem judge_eq_true_iff (points : List ComparisonPoint) :
    checker.judge points = .ok true ↔ ∀ p ∈ points, checker.FindsEqual p := by
  induction points with
  | nil => simp [judge]
  | cons p rest ih =>
      rw [List.forall_mem_cons, ← ih, ← verdict_eq_true_iff, judge]
      rcases checker.verdict p with failure | _ | _ <;> simp [bothEqual]

/-- A failure comes from a point that is reached: at each point before it the values are equal. -/
theorem judge_eq_error_iff (points : List ComparisonPoint) (failure : Failure) :
    checker.judge points = .error failure ↔ ∃ before p after, points = before ++ p :: after ∧
      (∀ q ∈ before, checker.FindsEqual q) ∧ checker.verdict p = .error failure := by
  constructor
  · induction points with
    | nil => exact nofun
    | cons p rest ih =>
        intro h
        rw [judge] at h
        cases hVerdict : checker.verdict p with
        | error own =>
            rw [hVerdict] at h
            exact ⟨[], p, rest, rfl, nofun, hVerdict.trans h⟩
        | ok equal =>
            rw [hVerdict] at h
            cases equal with
            | false => exact nomatch h
            | true =>
                obtain ⟨before, q, after, rfl, hBefore, hFailure⟩ := ih h
                have hEqual := (verdict_eq_true_iff p).mp hVerdict
                exact ⟨p :: before, q, after, rfl, List.forall_mem_cons.mpr ⟨hEqual, hBefore⟩, hFailure⟩
  · rintro ⟨before, p, after, rfl, hBefore, hFailure⟩
    rw [judge_append, (judge_eq_true_iff before).mpr hBefore]
    change checker.judge (p :: after) = _
    rw [judge, hFailure]
    rfl

/-- No comparator fails. -/
def Answers (checker : Checker) : Prop :=
  ∀ t comparator, checker.find t = some comparator → ∀ a b, ∃ equal, comparator a b = .ok equal

theorem answers_empty : Answers {} := fun _ _ h => nomatch h

/-- One more comparator that always answers does no harm. -/
theorem Answers.register (h : checker.Answers) {t : ValueType} {comparator : Comparator t}
    (hComparator : ∀ a b, ∃ equal, comparator a b = .ok equal) : (checker.register t comparator).Answers := by
  intro s found hFound
  by_cases hSame : t = s
  · subst hSame
    rw [find_register] at hFound
    obtain rfl := Option.some.inj hFound
    exact hComparator
  · rw [find_register_of_ne hSame] at hFound
    exact h s found hFound

/-- Neither do the rules of types without parts. -/
theorem Answers.ruleFor (h : checker.Answers) {t : ValueType} {equal : Comparator t}
    (hRule : checker.ruleFor t = some equal) (a b : t.Val) : ∃ found, equal a b = .ok found := by
  rw [Checker.ruleFor] at hRule
  cases hFind : checker.find t with
  | some comparator =>
      rw [hFind, Option.some_or] at hRule
      obtain rfl := Option.some.inj hRule
      exact h t comparator hFind a b
  | none =>
      rw [hFind, Option.none_or, Option.map_eq_some_iff] at hRule
      obtain ⟨rule, -, rfl⟩ := hRule
      exact ⟨rule a b, rfl⟩

/-- The only failure that there can be is the one that names the type of the values. -/
theorem Answers.verdict_eq_error_iff (h : checker.Answers) (p : ComparisonPoint) (failure : Failure) :
    checker.verdict p = .error failure ↔ ∃ s, checker.LacksRule s p ∧ failure = missing s := by
  cases p with
  | values t a b =>
      simp only [verdict, LacksRule]
      cases hRule : checker.ruleFor t with
      | none =>
          simp only [and_true, Except.error.injEq, exists_eq_left']
          exact eq_comm
      | some equal =>
          obtain ⟨found, hFound⟩ := h.ruleFor hRule a b
          simp [hFound]
  | presence a b | ownTypes a b | lengths a b => simp [verdict, LacksRule]

end Checker

/-! ## The points of a comparison -/

namespace Checker

variable {α : Type}

/-- Values with a comparator for their type are one point; others are looked into. -/
def pointsOr (checker : Checker) (t : ValueType) (inside : t.Val → t.Val → List ComparisonPoint)
    (a b : t.Val) : List ComparisonPoint :=
  match checker.find t with
  | some _ => [.values t a b]
  | none => inside a b

/-- Behind pointers the own types come first, and a comparator for the own type counts before the declared
type does. -/
def pointeePoints (checker : Checker) (t : ValueType) (declared : t.Val → t.Val → List ComparisonPoint)
    (a b : t.Val) : List ComparisonPoint :=
  if t.isPolymorphic then
    let x := t.dynamic a
    let y := t.dynamic b
    .ownTypes x.type y.type ::
      if h : y.type = x.type then
        checker.pointsOr x.type (fun _ _ => declared a b) x.value (h ▸ y.value)
      else []
  else declared a b

/-- The points of the elements in the same position, and then the lengths. -/
def listPoints (element : α → α → List ComparisonPoint) (xs ys : List α) : List ComparisonPoint :=
  ((xs.zip ys).flatMap fun pair => element pair.1 pair.2) ++ [.lengths xs.length ys.length]

end Checker

open Checker in
mutual
/-- All points of a comparison of two values in their order, also those behind points that are not equal. -/
def Checker.points (checker : Checker) : (t : ValueType) → t.Val → t.Val → List ComparisonPoint
  | .scalar s, a, b => [.values (.scalar s) a b]
  | .enumeration name s, a, b => [.values (.enumeration name s) a b]
  | .text kind, a, b => [.values (.text kind) a b]
  | .record name r, a, b => [.values (.record name r) a b]
  | .optional t, a, b => checker.pointsOr (.optional t) (fun (a b : Option t.Val) =>
    .presence a.isSome b.isSome :: match a, b with
      | some x, some y => checker.points t x y
      | _, _ => []) a b
  | .pointer kind t, a, b => checker.pointsOr (.pointer kind t) (fun (a b : Option (Placed t.Val)) =>
    .presence a.isSome b.isSome :: match a, b with
      | some x, some y => checker.pointeePoints t (checker.points t) x.value y.value
      | _, _ => []) a b
  | .pair s t, a, b => checker.pointsOr (.pair s t) (fun a b =>
    checker.points s a.1 b.1 ++ checker.points t a.2 b.2) a b
  | .entry k v, a, b => checker.pointsOr (.entry k v) (fun a b =>
    checker.points k a.1 b.1 ++ checker.points v a.2 b.2) a b
  | .tuple t rest, a, b => checker.pointsOr (.tuple t rest) (fun a b =>
    checker.points t a.1 b.1 ++ checker.fieldsPoints rest a.2 b.2) a b
  | .array n t, a, b => checker.pointsOr (.array n t) (fun a b => listPoints (checker.points t) a.toList b.toList) a b
  | .sequence kind t, a, b => checker.pointsOr (.sequence kind t) (listPoints (checker.points t)) a b
  | .set .ordered multi t, a, b => checker.pointsOr (.set .ordered multi t) (listPoints (checker.points t)) a b
  | .set .hashed multi t, a, b => checker.pointsOr (.set .hashed multi t) (fun _ _ => []) a b
  | .map .ordered multi k v, a, b => checker.pointsOr (.map .ordered multi k v)
    (listPoints (checker.pointsOr (.entry k v) fun x y =>
      checker.points k x.1 y.1 ++ checker.points v x.2 y.2)) a b
  | .map .hashed multi k v, a, b => checker.pointsOr (.map .hashed multi k v) (fun _ _ => []) a b

def Checker.fieldsPoints (checker : Checker) : (ts : FieldTypes) → ts.Val → ts.Val → List ComparisonPoint
  | .nil, _, _ => []
  | .cons t rest, a, b => checker.points t a.1 b.1 ++ checker.fieldsPoints rest a.2 b.2
end

namespace Checker

variable {checker : Checker} {α : Type}

/-- A comparator for the type is the rule for its values. -/
theorem judge_values_of_find {t : ValueType} {comparator : Comparator t} (h : checker.find t = some comparator)
    (a b : t.Val) : checker.judge [.values t a b] = comparator a b := by
  rw [judge_singleton, verdict, ruleFor, h]
  rfl

/-- Two leaves are judged by the rule for their type. -/
theorem judge_values_of_rule {t : ValueType} (h : checker.find t = none) {equal : t.Val → t.Val → Bool}
    (hRule : t.leafRule = some equal) (a b : t.Val) : checker.judge [.values t a b] = .ok (equal a b) := by
  rw [judge_singleton, verdict, ruleFor, h, hRule]
  rfl

/-- Two leaves without a rule cannot be judged. -/
theorem judge_values_of_noRule {t : ValueType} (h : checker.find t = none) (hRule : t.leafRule = none)
    (a b : t.Val) : checker.judge [.values t a b] = .error (missing t) := by
  rw [judge_singleton, verdict, ruleFor, h, hRule]
  rfl

/-- Values are judged at one point if there is a comparator for them, and inside otherwise. -/
theorem orElse_eq_judge {t : ValueType} {structural : Comparator t} {inside : t.Val → t.Val → List ComparisonPoint}
    {a b : t.Val} (h : structural a b = checker.judge (inside a b)) :
    checker.orElse t structural a b = checker.judge (checker.pointsOr t inside a b) := by
  rw [orElse, pointsOr]
  cases hFind : checker.find t with
  | none => exact h
  | some comparator => exact (judge_values_of_find hFind a b).symm

/-- Values that are not looked into are one point, with a comparator or without. -/
theorem orElse_eq_values {t : ValueType} {structural : Comparator t} {a b : t.Val}
    (h : checker.find t = none → structural a b = checker.judge [.values t a b]) :
    checker.orElse t structural a b = checker.judge [.values t a b] := by
  rw [orElse]
  cases hFind : checker.find t with
  | none => exact h hFind
  | some comparator => exact (judge_values_of_find hFind a b).symm

theorem leaf_eq_judge {t : ValueType} {equal : t.Val → t.Val → Bool} (h : t.leafRule = some equal) (a b : t.Val) :
    checker.orElse t (fun a b => .ok (equal a b)) a b = checker.judge [.values t a b] :=
  orElse_eq_values fun hFind => (judge_values_of_rule hFind h a b).symm

theorem record_eq_judge (name : DeclaredName) (r : Record) (a b : r.Val) :
    checker.orElse (.record name r) (recordEqual name r) a b = checker.judge [.values (.record name r) a b] := by
  refine orElse_eq_values fun hFind => ?_
  by_cases hOwn : r.hasEquality = true
  · exact (if_pos hOwn).trans (judge_values_of_rule hFind (if_pos hOwn) a b).symm
  · exact (if_neg hOwn).trans (judge_values_of_noRule hFind (if_neg hOwn) a b).symm

/-- Two parts are judged at the points of the one and then at those of the other. -/
theorem bothEqual_eq_judge {one two : Except Failure Bool} {first second : List ComparisonPoint}
    (h : one = checker.judge first) (h' : two = checker.judge second) :
    (bothEqual one fun _ => two) = checker.judge (first ++ second) := by
  rw [judge_append, h, h']

/-- Lists are judged by their lengths and then element by element. -/
theorem listEqual_eq_judge {equal : α → α → Except Failure Bool} {element : α → α → List ComparisonPoint}
    (h : ∀ x y, equal x y = checker.judge (element x y)) (xs ys : List α) :
    listEqual equal xs ys = checker.judge (listPoints element xs ys) := by
  have hLengths (m n : Nat) : checker.judge [.lengths m n] = .ok (decide (m = n)) := judge_singleton _
  -- what is said of the lengths does not change when an element is taken off both lists
  rw [listPoints, judge_append, hLengths]
  induction xs generalizing ys with
  | nil => cases ys <;> rfl
  | cons x xs ih =>
      cases ys with
      | nil => rfl
      | cons y ys =>
          rw [listEqual, ih, h, List.zip_cons_cons, List.flatMap_cons, judge_append, List.length_cons, List.length_cons]
          rcases checker.judge (element x y) with failure | _ | _
          · rfl
          · rfl
          · simp [bothEqual]

/-- Pointees are judged as what they are, if both are of the same dynamic type, and otherwise as what they are
declared to be. -/
theorem pointeeEqual_eq_judge {t : ValueType} {equal : t.Val → t.Val → Except Failure Bool}
    {declared : t.Val → t.Val → List ComparisonPoint} {a b : t.Val} (h : equal a b = checker.judge (declared a b)) :
    checker.pointeeEqual t equal a b = checker.judge (checker.pointeePoints t declared a b) := by
  rw [pointeeEqual, pointeePoints]
  by_cases hPolymorphic : t.isPolymorphic = true
  · simp only [if_pos hPolymorphic, judge, verdict]
    by_cases hOwn : (t.dynamic b).type = (t.dynamic a).type
    · rw [dif_pos hOwn, dif_pos hOwn, decide_eq_true hOwn.symm]
      change _ = checker.judge (checker.pointsOr _ _ _ _)
      rw [pointsOr]
      cases hFind : checker.find (t.dynamic a).type with
      | none => exact h
      | some comparator => exact (judge_values_of_find hFind _ _).symm
    · rw [dif_neg hOwn, decide_eq_false (Ne.symm hOwn)]
      rfl
  · rw [if_neg hPolymorphic, if_neg hPolymorphic, h]

end Checker

open Checker in
mutual
/-- Values are compared as their points are judged. -/
theorem Checker.equals_eq_judge {checker : Checker} : (t : ValueType) → (∀ s ∈ t.nested, s.isHashed = false) →
    ∀ a b, checker.equals t a b = checker.judge (checker.points t a b)
  | .scalar s, _, a, b => leaf_eq_judge (t := .scalar s) rfl a b
  | .enumeration name s, _, a, b => leaf_eq_judge (t := .enumeration name s) rfl a b
  | .text kind, _, a, b => leaf_eq_judge (t := .text kind) rfl a b
  | .record name r, _, a, b => record_eq_judge name r a b
  | .optional t, h, a, b => by
    refine orElse_eq_judge ?_
    match a, b with
    | some x, some y => exact Checker.equals_eq_judge t (List.forall_mem_cons.mp h).2 x y
    | some _, none => rfl
    | none, some _ => rfl
    | none, none => rfl
  | .pointer _ t, h, a, b => by
    refine orElse_eq_judge ?_
    match a, b with
    | some x, some y =>
      exact pointeeEqual_eq_judge (Checker.equals_eq_judge t (List.forall_mem_cons.mp h).2 x.value y.value)
    | some _, none => rfl
    | none, some _ => rfl
    | none, none => rfl
  | .pair s t, h, a, b => by
    obtain ⟨hFirst, hSecond⟩ := List.forall_mem_append.mp (List.forall_mem_cons.mp h).2
    exact orElse_eq_judge (bothEqual_eq_judge (Checker.equals_eq_judge s hFirst a.1 b.1)
      (Checker.equals_eq_judge t hSecond a.2 b.2))
  | .entry k v, h, a, b => by
    obtain ⟨hKey, hValue⟩ := List.forall_mem_append.mp (List.forall_mem_cons.mp h).2
    exact orElse_eq_judge (bothEqual_eq_judge (Checker.equals_eq_judge k hKey a.1 b.1)
      (Checker.equals_eq_judge v hValue a.2 b.2))
  | .tuple t rest, h, a, b => by
    obtain ⟨hFirst, hRest⟩ := List.forall_mem_append.mp (List.forall_mem_cons.mp h).2
    exact orElse_eq_judge (bothEqual_eq_judge (Checker.equals_eq_judge t hFirst a.1 b.1)
      (Checker.fieldsEqual_eq_judge rest hRest a.2 b.2))
  | .array _ t, h, _, _ =>
    orElse_eq_judge (listEqual_eq_judge (Checker.equals_eq_judge t (List.forall_mem_cons.mp h).2) _ _)
  | .sequence _ t, h, _, _ =>
    orElse_eq_judge (listEqual_eq_judge (Checker.equals_eq_judge t (List.forall_mem_cons.mp h).2) _ _)
  | .set .ordered _ t, h, _, _ =>
    orElse_eq_judge (listEqual_eq_judge (Checker.equals_eq_judge t (List.forall_mem_cons.mp h).2) _ _)
  | .map .ordered _ k v, h, a, b => by
    have hParts := (List.forall_mem_cons.mp (List.forall_mem_cons.mp h).2).2
    obtain ⟨hKey, hValue⟩ := List.forall_mem_append.mp hParts
    refine orElse_eq_judge (listEqual_eq_judge (fun x y => orElse_eq_judge ?_) _ _)
    exact bothEqual_eq_judge (Checker.equals_eq_judge k hKey x.1 y.1) (Checker.equals_eq_judge v hValue x.2 y.2)
  | .set .hashed _ _, h, _, _ => nomatch h _ List.mem_cons_self
  | .map .hashed _ _ _, h, _, _ => nomatch h _ List.mem_cons_self

/-- Tuples are judged at the points of their fields in their order. -/
theorem Checker.fieldsEqual_eq_judge {checker : Checker} : (ts : FieldTypes) →
    (∀ s ∈ ts.nested, s.isHashed = false) → ∀ a b,
      checker.fieldsEqual ts a b = checker.judge (checker.fieldsPoints ts a b)
  | .nil, _, _, _ => rfl
  | .cons t rest, h, a, b => by
    obtain ⟨hFirst, hRest⟩ := List.forall_mem_append.mp h
    exact bothEqual_eq_judge (Checker.equals_eq_judge t hFirst a.1 b.1)
      (Checker.fieldsEqual_eq_judge rest hRest a.2 b.2)
end

end SerializerContract
