import SerializerContract.Proofs.DeepEquality.Matching
import SerializerContract.Proofs.DeepEquality.Occurring

/-! Hashed containers are compared in two ways: by the equality that their elements have of their own as long as
no comparator is registered, and by deep equality afterwards. The two ways part where values meet about which the
equalities disagree: NaNs, and pointers to equal values in different places. Everywhere else it makes no difference
whether there are comparators for types that do not occur. -/
namespace SerializerContract

namespace Checker

/-- Of two lists those elements meet that are in the same position, up to the first difference. -/
def concurAlong {α : Type} (concur : α → α → Prop) (same : α → α → Bool) : List α → List α → Prop
  | x :: xs, y :: ys => concur x y ∧ (same x y = true → concurAlong concur same xs ys)
  | _, _ => True

end Checker

open Checker in
mutual
/-- The type's own equality and deep equality agree about all that meets when two values are compared: no NaN
meets a NaN, and pointers that meet point to deeply equal values exactly if they point to the same place. -/
def Checker.Concurs (checker : Checker) : (t : ValueType) → t.Val → t.Val → Prop
  | .scalar s, a, b => ¬ (s.isNaN a = true ∧ s.isNaN b = true)
  | .enumeration _ _, _, _ => True
  | .text kind, a, b => kind.same a b = Bytes.same (kind.bytes a) (kind.bytes b)
  | .record _ r, _, _ => r.hasEquality = true
  | .optional t, some x, some y => checker.Concurs t x y
  | .optional _, _, _ => True
  | .pointer _ t, some x, some y =>
    checker.pointeeEqual t (checker.equals t) x.value y.value = .ok (x.place == y.place)
  | .pointer _ _, _, _ => True
  | .pair s t, a, b => checker.Concurs s a.1 b.1 ∧ (s.same a.1 b.1 = true → checker.Concurs t a.2 b.2)
  | .entry k v, a, b => checker.Concurs k a.1 b.1 ∧ (k.same a.1 b.1 = true → checker.Concurs v a.2 b.2)
  | .tuple t rest, a, b => checker.Concurs t a.1 b.1 ∧ (t.same a.1 b.1 = true → checker.ConcursFields rest a.2 b.2)
  | .array _ t, a, b => concurAlong (checker.Concurs t) t.same a.toList b.toList
  | .sequence _ t, a, b => concurAlong (checker.Concurs t) t.same a b
  | .set .ordered _ t, a, b => concurAlong (checker.Concurs t) t.same a b
  | .set .hashed _ t, (xs : List t.Val), (ys : List t.Val) => ∀ x ∈ xs, ∀ y ∈ ys, checker.Concurs t x y
  | .map .ordered _ k v, a, b => concurAlong
    (fun x y => checker.Concurs k x.1 y.1 ∧ (k.same x.1 y.1 = true → checker.Concurs v x.2 y.2))
    (ValueType.entry k v).same a b
  | .map .hashed _ k v, (xs : List (k.Val × v.Val)), (ys : List (k.Val × v.Val)) => ∀ x ∈ xs, ∀ y ∈ ys,
    checker.Concurs k x.1 y.1 ∧ (k.same x.1 y.1 = true → checker.Concurs v x.2 y.2)

def Checker.ConcursFields (checker : Checker) : (ts : FieldTypes) → ts.Val → ts.Val → Prop
  | .nil, _, _ => True
  | .cons t rest, a, b => checker.Concurs t a.1 b.1 ∧ (t.same a.1 b.1 = true → checker.ConcursFields rest a.2 b.2)
end

namespace Checker

variable {α : Type} {equal : α → α → Except Failure Bool} {same : α → α → Bool}

/-- Where nothing is registered for a type, its structure decides. -/
theorem orElse_eq {checker : Checker} {t : ValueType} (hFind : checker.find t = none) {structural : Comparator t}
    {a b : t.Val} {verdict : Bool} (h : structural a b = .ok verdict) :
    checker.orElse t structural a b = .ok verdict := by
  rw [orElse_of_find hFind, h]

theorem bothEqual_ok {first second : Except Failure Bool} {p q : Bool} (h : first = .ok p)
    (h' : p = true → second = .ok q) : (bothEqual first fun _ => second) = .ok (p && q) := by
  rw [h]
  cases p with
  | false => rfl
  | true => exact h' rfl

/-- Lists whose elements concur up to the first difference are deeply equal exactly if they are the same. -/
theorem listEqual_of_concur {concur : α → α → Prop} (hEqual : ∀ x y, concur x y → equal x y = .ok (same x y))
    {xs ys : List α} (h : concurAlong concur same xs ys) : listEqual equal xs ys = .ok (allSame same xs ys) := by
  induction xs generalizing ys with
  | nil => cases ys <;> rfl
  | cons x xs ih =>
      cases ys with
      | nil => rfl
      | cons y ys => exact bothEqual_ok (hEqual x y h.1) fun hSame => ih (h.2 hSame)

theorem takeEqual_congr {equal' : α → α → Except Failure Bool} {x : α} {ys : List α}
    (h : ∀ y ∈ ys, equal x y = equal' x y) : takeEqual equal x ys = takeEqual equal' x ys := by
  induction ys with
  | nil => rfl
  | cons y ys ih =>
      rw [List.forall_mem_cons] at h
      rw [takeEqual, takeEqual, h.1, ih h.2]

/-- Candidates that are left over are among those there were, and so the equalities still agree about them. -/
theorem allFound_of_same {xs ys : List α} (h : ∀ x ∈ xs, ∀ y ∈ ys, equal x y = .ok (same x y)) :
    allFound equal xs ys = allFound (fun x y => .ok (same x y)) xs ys := by
  induction xs generalizing ys with
  | nil => rfl
  | cons x xs ih =>
      rw [List.forall_mem_cons] at h
      have hTake : takeEqual equal x ys = takeEqual (fun x y => .ok (same x y)) x ys := takeEqual_congr h.1
      rw [allFound, allFound, hTake, takeEqual_ok]
      cases ys.findIdx? (same x) with
      | none => rfl
      | some i => exact ih fun a ha b hb => h.2 a ha b (ys.eraseIdx_subset hb)

/-- Elements whose two equalities agree pair off by the one as by the other. -/
theorem unorderedEqual_of_same {xs ys : List α} (h : ∀ x ∈ xs, ∀ y ∈ ys, equal x y = .ok (same x y)) :
    unorderedEqual equal xs ys = .ok (pairsUp same xs ys) := by
  rw [← unorderedEqual_ok, unorderedEqual, unorderedEqual, allFound_of_same h]

/-- Hashed containers whose elements' two equalities agree are compared alike by both. -/
theorem hashedEqual_of_same {checker : Checker} (hSome : checker.isEmpty = false) {hasEquality : Bool} {xs ys : List α}
    (h : ∀ x ∈ xs, ∀ y ∈ ys, equal x y = .ok (same x y)) :
    checker.hashedEqual hasEquality same equal xs ys = .ok (pairsUp same xs ys) := by
  rw [hashedEqual_eq, if_neg (not_own_of_some hSome _), unorderedEqual_of_same h]

end Checker

open Checker in
mutual
/-- Values that concur are deeply equal exactly if they are the same by their own equality. -/
theorem Checker.equals_of_concurs {checker : Checker} (hSome : checker.isEmpty = false) : (t : ValueType) →
    (∀ s ∈ t.nested, checker.find s = none) → ∀ a b, checker.Concurs t a b →
      checker.equals t a b = .ok (t.same a b)
  | .scalar s, hFind, a, b, h => by
    have hNumbers : (s.isNaN a && s.isNaN b) = false := by
      rw [Bool.eq_false_iff, ne_eq, Bool.and_eq_true]
      exact h
    have hEqual : scalarEqual s a b = s.same a b := by
      change (s.isNaN a && s.isNaN b || s.same a b) = _
      rw [hNumbers, Bool.false_or]
    exact orElse_eq (hFind _ List.mem_cons_self) (congrArg Except.ok hEqual)
  | .enumeration _ _, hFind, _, _, _ => orElse_eq (hFind _ List.mem_cons_self) rfl
  | .text _, hFind, _, _, h => orElse_eq (hFind _ List.mem_cons_self) (congrArg Except.ok h.symm)
  | .record _ _, hFind, _, _, h => orElse_eq (hFind _ List.mem_cons_self) (if_pos h)
  | .optional t, hFind, a, b, h => by
    obtain ⟨hSelf, hNested⟩ := List.forall_mem_cons.mp hFind
    refine orElse_eq hSelf ?_
    match a, b with
    | some x, some y => exact Checker.equals_of_concurs hSome t hNested x y h
    | some _, none => rfl
    | none, some _ => rfl
    | none, none => rfl
  | .pointer _ t, hFind, a, b, h => by
    refine orElse_eq (hFind _ List.mem_cons_self) ?_
    match a, b with
    | some _, some _ => exact h
    | some _, none => rfl
    | none, some _ => rfl
    | none, none => rfl
  | .pair s t, hFind, a, b, h => by
    obtain ⟨hSelf, hParts⟩ := List.forall_mem_cons.mp hFind
    obtain ⟨hFirst, hSecond⟩ := List.forall_mem_append.mp hParts
    exact orElse_eq hSelf (bothEqual_ok (Checker.equals_of_concurs hSome s hFirst a.1 b.1 h.1)
      fun hSame => Checker.equals_of_concurs hSome t hSecond a.2 b.2 (h.2 hSame))
  | .entry k v, hFind, a, b, h => by
    obtain ⟨hSelf, hParts⟩ := List.forall_mem_cons.mp hFind
    obtain ⟨hKey, hValue⟩ := List.forall_mem_append.mp hParts
    exact orElse_eq hSelf (bothEqual_ok (Checker.equals_of_concurs hSome k hKey a.1 b.1 h.1)
      fun hSame => Checker.equals_of_concurs hSome v hValue a.2 b.2 (h.2 hSame))
  | .tuple t rest, hFind, a, b, h => by
    obtain ⟨hSelf, hParts⟩ := List.forall_mem_cons.mp hFind
    obtain ⟨hFirst, hRest⟩ := List.forall_mem_append.mp hParts
    exact orElse_eq hSelf (bothEqual_ok (Checker.equals_of_concurs hSome t hFirst a.1 b.1 h.1)
      fun hSame => Checker.fieldsEqual_of_concurs hSome rest hRest a.2 b.2 (h.2 hSame))
  | .array _ t, hFind, _, _, h => by
    obtain ⟨hSelf, hNested⟩ := List.forall_mem_cons.mp hFind
    exact orElse_eq hSelf (listEqual_of_concur (Checker.equals_of_concurs hSome t hNested) h)
  | .sequence _ t, hFind, _, _, h => by
    obtain ⟨hSelf, hNested⟩ := List.forall_mem_cons.mp hFind
    exact orElse_eq hSelf (listEqual_of_concur (Checker.equals_of_concurs hSome t hNested) h)
  | .set .ordered _ t, hFind, _, _, h => by
    obtain ⟨hSelf, hNested⟩ := List.forall_mem_cons.mp hFind
    exact orElse_eq hSelf (listEqual_of_concur (Checker.equals_of_concurs hSome t hNested) h)
  | .set .hashed _ t, hFind, _, _, h => by
    obtain ⟨hSelf, hNested⟩ := List.forall_mem_cons.mp hFind
    exact orElse_eq hSelf (hashedEqual_of_same hSome fun x hx y hy =>
      Checker.equals_of_concurs hSome t hNested x y (h x hx y hy))
  | .map .ordered _ k v, hFind, _, _, h => by
    obtain ⟨hSelf, hElements⟩ := List.forall_mem_cons.mp hFind
    obtain ⟨hEntry, hParts⟩ := List.forall_mem_cons.mp hElements
    obtain ⟨hKey, hValue⟩ := List.forall_mem_append.mp hParts
    exact orElse_eq hSelf (listEqual_of_concur (fun x y hEntries => orElse_eq hEntry
      (bothEqual_ok (Checker.equals_of_concurs hSome k hKey x.1 y.1 hEntries.1)
        fun hSame => Checker.equals_of_concurs hSome v hValue x.2 y.2 (hEntries.2 hSame))) h)
  | .map .hashed _ k v, hFind, _, _, h => by
    obtain ⟨hSelf, hElements⟩ := List.forall_mem_cons.mp hFind
    obtain ⟨hEntry, hParts⟩ := List.forall_mem_cons.mp hElements
    obtain ⟨hKey, hValue⟩ := List.forall_mem_append.mp hParts
    exact orElse_eq hSelf (hashedEqual_of_same hSome fun x hx y hy => orElse_eq hEntry
      (bothEqual_ok (Checker.equals_of_concurs hSome k hKey x.1 y.1 (h x hx y hy).1)
        fun hSame => Checker.equals_of_concurs hSome v hValue x.2 y.2 ((h x hx y hy).2 hSame)))

/-- Tuples whose fields concur are deeply equal exactly if they are the same. -/
theorem Checker.fieldsEqual_of_concurs {checker : Checker} (hSome : checker.isEmpty = false) : (ts : FieldTypes) →
    (∀ s ∈ ts.nested, checker.find s = none) → ∀ a b, checker.ConcursFields ts a b →
      checker.fieldsEqual ts a b = .ok (ts.same a b)
  | .nil, _, _, _, _ => rfl
  | .cons t rest, hFind, a, b, h => by
    obtain ⟨hFirst, hRest⟩ := List.forall_mem_append.mp hFind
    exact bothEqual_ok (Checker.equals_of_concurs hSome t hFirst a.1 b.1 h.1)
      fun hSame => Checker.fieldsEqual_of_concurs hSome rest hRest a.2 b.2 (h.2 hSame)
end

namespace Checker

/-- A checker without comparators is the empty one. -/
theorem eq_empty_of_isEmpty {checker : Checker} (h : checker.isEmpty = true) : checker = {} := by
  obtain ⟨registrations⟩ := checker
  obtain rfl : registrations = [] := List.isEmpty_iff.mp h
  rfl

/-- Without comparators hashed containers are equal by the equality of their elements. -/
theorem equals_hashed_empty {c : HashedType} (hOwn : c.element.hasEquality = true) (xs ys : c.type.Val) :
    equals {} c.type xs ys = .ok (pairsUp c.element.same (c.elements xs) (c.elements ys)) := by
  have hFast : (c.element.hasEquality && isEmpty {}) = true := by rw [hOwn]; rfl
  rw [equals_hashed rfl, if_pos hFast, unorderedEqual_ok]

/-- Hashed containers of elements with an equality of their own are compared alike without comparators and with
comparators for other types only, as long as the two equalities agree about what meets when elements of the one
are compared with elements of the other. -/
theorem own_and_deep_agree {checker : Checker} (c : HashedType) (hOwn : c.element.hasEquality = true)
    (hOther : ∀ s ∈ c.type.nested, checker.find s = none) (xs ys : c.type.Val)
    (h : ∀ x ∈ c.elements xs, ∀ y ∈ c.elements ys, checker.Concurs c.element x y) :
    checker.equals c.type xs ys = equals {} c.type xs ys ∧
      equals {} c.type xs ys = .ok (pairsUp c.element.same (c.elements xs) (c.elements ys)) := by
  refine ⟨?_, equals_hashed_empty hOwn xs ys⟩
  cases hEmpty : checker.isEmpty with
  | true => rw [eq_empty_of_isEmpty hEmpty]
  | false =>
      have hConcurs : checker.Concurs c.type xs ys := by
        cases c <;> exact h
      have hSame : c.type.same xs ys = pairsUp c.element.same (c.elements xs) (c.elements ys) := by
        cases c <;> rfl
      rw [equals_of_concurs hEmpty c.type hOther xs ys hConcurs, hSame, equals_hashed_empty hOwn]

section Unrelated

/-- Points do not occur in what follows. -/
def aboutPoints : Checker := register {} .point Comparator.never

/-- For each number a measurement that may be missing, and a counter that may be shared. -/
abbrev readings : HashedType := .map false .int32 (.pair (.optional .float64) (.pointer .shared .int32))

def firstReadings : readings.type.Val := [(1#32, some 0#64, some ⟨7, 5#32⟩), (2#32, none, some ⟨8, 6#32⟩)]

/-- In another order, and with a negative zero. -/
def laterReadings : readings.type.Val :=
  [(2#32, none, some ⟨8, 6#32⟩), (1#32, some 0x8000000000000000#64, some ⟨7, 5#32⟩)]

/-- Two tables of readings in different orders, one with a negative zero: both equalities find them equal, as no
NaN and no copy of a pointee occurs. -/
theorem own_and_deep_agree_readings :
    readings.element.hasEquality = true ∧
    (∀ s ∈ readings.type.nested, aboutPoints.find s = none) ∧
    (∀ x ∈ readings.elements firstReadings, ∀ y ∈ readings.elements laterReadings,
      aboutPoints.Concurs readings.element x y) ∧
    aboutPoints.equals readings.type firstReadings laterReadings = equals {} readings.type firstReadings laterReadings ∧
    equals {} readings.type firstReadings laterReadings = .ok true := by
  have hOther : ∀ s ∈ readings.type.nested, aboutPoints.find s = none := by
    decide
  have hConcurs : ∀ x ∈ readings.elements firstReadings, ∀ y ∈ readings.elements laterReadings,
      aboutPoints.Concurs readings.element x y := by
    have hKeys (k k' : BitVec 32) : aboutPoints.Concurs .int32 k k' := fun h => nomatch h.1
    have hZeros : aboutPoints.Concurs .float64 0#64 0x8000000000000000#64 := fun h => nomatch h.1
    -- what belongs to different numbers never meets
    rintro x (_ | ⟨_, _ | ⟨_, ⟨⟩⟩⟩) y (_ | ⟨_, _ | ⟨_, ⟨⟩⟩⟩)
    · exact ⟨hKeys _ _, nofun⟩
    · exact ⟨hKeys _ _, fun _ => ⟨hZeros, fun _ => rfl⟩⟩
    · exact ⟨hKeys _ _, fun _ => ⟨trivial, fun _ => rfl⟩⟩
    · exact ⟨hKeys _ _, nofun⟩
  obtain ⟨hAlike, -⟩ := own_and_deep_agree readings rfl hOther firstReadings laterReadings hConcurs
  exact ⟨rfl, hOther, hConcurs, hAlike, rfl⟩

/-- A NaN is not the same as itself, and yet deeply equal to itself. -/
abbrev numbers : HashedType := .set false .float64

def justNaN : numbers.type.Val := [0x7FF8000000000000#64]

/-- A hashed container of one NaN differs from itself by the equality of its elements, and equals itself element
by element as soon as any comparator is registered, even one for a type that does not occur. -/
theorem own_and_deep_differ_about_nan :
    numbers.element.hasEquality = true ∧
    (∀ s ∈ numbers.type.occurring justNaN justNaN, aboutPoints.find s = none) ∧
    equals {} numbers.type justNaN justNaN = .ok false ∧
    aboutPoints.equals numbers.type justNaN justNaN = .ok true := by
  refine ⟨rfl, ?_, rfl, rfl⟩
  decide

end Unrelated

end Checker

end SerializerContract
