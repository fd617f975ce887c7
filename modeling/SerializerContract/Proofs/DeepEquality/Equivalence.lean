import Mathlib.Tactic.Choose
import SerializerContract.Proofs.DeepEquality.Reordering

/-! Deep equality is an equivalence on the values that a checker covers: those in which everything has a
comparator, a structure or an equality of its own to be compared by. The classes of a type are found along its
structure, and a registered comparator replaces the structure wherever one is looked up. -/
namespace SerializerContract

/-- Numbers of any format: a NaN is of one class with all others, and a number with its equals. -/
theorem Checker.scalarEqual_sorts (s : Scalar) : SortsAll (Checker.scalarEqual s) Eq := by
  cases h : s.floatFormat with
  | none =>
      refine .of_key id (fun a b => ?_) fun _ _ hab => hab
      simp [Checker.scalarEqual, Scalar.isNaN, Scalar.same, h]
  | some format =>
      refine .of_key (fun v => if format.isNaN (s.floatBits v) then none else some (format.rank (s.floatBits v)))
        (fun a b => ?_) fun _ _ hab => hab ▸ rfl
      simp only [Checker.scalarEqual, Scalar.isNaN, Scalar.same, h, FloatFormat.same]
      cases hA : format.isNaN (s.floatBits a) <;> cases hB : format.isNaN (s.floatBits b) <;> simp

/-- What a function makes of values is compared as an equivalence. -/
theorem Comparator.on_equates {t : ValueType} {β : Type} [BEq β] [LawfulBEq β] (f : t.Val → β) :
    Equates (Comparator.on f) fun _ => True :=
  (Sorts.of_key f (fun _ _ => beq_iff_eq) fun _ _ h => congrArg f h : Sorts _ _ True Eq).equates

namespace Checker

/-- A comparator for the type decides about a value, or its parts are decided about. -/
def orCovers (checker : Checker) (t : ValueType) (parts : t.Val → Prop) (v : t.Val) : Prop :=
  checker.hasComparator t = true ∨ parts v

/-- What a pointer points to: a comparator for its dynamic type decides, where values of the type can be of
a more specific one, and otherwise what decides about the declared type. -/
def coversPointee (checker : Checker) (t : ValueType) (covers : t.Val → Prop) (v : t.Val) : Prop :=
  (t.isPolymorphic = true ∧ checker.hasComparator (t.dynamic v).type = true) ∨ covers v

/-- The elements of a hashed container. Without any comparator those that have an equality of their own
are compared by it, which must be an equivalence. -/
def coversHashed {α : Type} (checker : Checker) (hasEquality : Bool) (comparable : Prop) (covers : α → Prop)
    (v : List α) : Prop :=
  if hasEquality && checker.isEmpty then comparable else ∀ x ∈ v, covers x

end Checker

open Checker in
mutual
/-- Everything in a value can be compared: a part of each kind has a comparator, a structure or an equality
of its own. -/
def Checker.Covers (checker : Checker) : (t : ValueType) → t.Val → Prop
  | .scalar s => checker.orCovers (.scalar s) fun _ => True
  | .enumeration name s => checker.orCovers (.enumeration name s) fun _ => s.floatFormat = none
  | .text kind => checker.orCovers (.text kind) fun _ => True
  | .record name r => checker.orCovers (.record name r) fun _ => r.hasEquality = true
  | .optional t => checker.orCovers (.optional t) fun v : Option t.Val => ∀ x ∈ v, checker.Covers t x
  | .pointer kind t => checker.orCovers (.pointer kind t) fun v : Option (Placed t.Val) =>
    ∀ x ∈ v, checker.coversPointee t (checker.Covers t) x.value
  | .pair s t => checker.orCovers (.pair s t) fun v => checker.Covers s v.1 ∧ checker.Covers t v.2
  | .entry k v => checker.orCovers (.entry k v) fun x => checker.Covers k x.1 ∧ checker.Covers v x.2
  | .tuple t rest => checker.orCovers (.tuple t rest) fun v =>
    checker.Covers t v.1 ∧ checker.CoversFields rest v.2
  | .array n t => checker.orCovers (.array n t) fun v => ∀ x ∈ v.toList, checker.Covers t x
  | .sequence kind t => checker.orCovers (.sequence kind t) fun v : List t.Val => ∀ x ∈ v, checker.Covers t x
  | .set .ordered multi t => checker.orCovers (.set .ordered multi t) fun v : List t.Val =>
    ∀ x ∈ v, checker.Covers t x
  | .set .hashed multi t => checker.orCovers (.set .hashed multi t) fun v =>
    checker.coversHashed t.hasEquality t.Comparable (checker.Covers t) v
  | .map .ordered multi k v => checker.orCovers (.map .ordered multi k v) fun xs : List (k.Val × v.Val) =>
    ∀ x ∈ xs, checker.orCovers (.entry k v) (fun x => checker.Covers k x.1 ∧ checker.Covers v x.2) x
  | .map .hashed multi k v => checker.orCovers (.map .hashed multi k v) fun xs =>
    checker.coversHashed (ValueType.entry k v).hasEquality (ValueType.entry k v).Comparable
      (checker.orCovers (.entry k v) fun x => checker.Covers k x.1 ∧ checker.Covers v x.2) xs

def Checker.CoversFields (checker : Checker) : (ts : FieldTypes) → ts.Val → Prop
  | .nil, _ => True
  | .cons t rest, v => checker.Covers t v.1 ∧ checker.CoversFields rest v.2
end

namespace Checker

/-- Every registered comparator always answers, and answers as an equivalence would. -/
def ComparesWell (checker : Checker) : Prop :=
  ∀ t comparator, checker.find t = some comparator → Equates comparator fun _ => True

/-- No registered comparator looks at the order in which a hashed container lists its elements. -/
def IgnoresOrder (checker : Checker) : Prop :=
  ∀ t comparator, checker.find t = some comparator →
    ∀ a b, t.Reordered a b → comparator a b = .ok true

/-- Hashed containers are compared without an order: by their elements' own equality if nothing is registered,
and deeply otherwise. -/
theorem hashedEqual_eq (checker : Checker) {α : Type} (hasEquality : Bool) (same : α → α → Bool)
    (equal : α → α → Except Failure Bool) :
    checker.hashedEqual hasEquality same equal =
      unorderedEqual (if hasEquality && checker.isEmpty then fun x y => .ok (same x y) else equal) := by
  funext xs ys
  by_cases hOwn : (hasEquality && checker.isEmpty) = true
  · rw [hashedEqual, if_pos hOwn, if_pos hOwn, unorderedEqual]
    split
    · rfl
    · next hLength => exact (allFound_ok (by simpa using hLength)).symm
  · rw [hashedEqual, if_neg hOwn, if_neg hOwn, unorderedEqual]

/-- Where nothing is registered, nothing compares badly. -/
theorem comparesWell_empty : ComparesWell {} :=
  fun _ _ h => nomatch h

theorem ignoresOrder_empty : IgnoresOrder {} :=
  fun _ _ h => nomatch h

/-- One more comparator that is an equivalence does no harm. -/
theorem ComparesWell.register {checker : Checker} (h : checker.ComparesWell) {t : ValueType}
    {comparator : Comparator t} (hEquates : Equates comparator fun _ => True) :
    (checker.register t comparator).ComparesWell := by
  intro s found hFind
  by_cases hType : t = s
  · subst hType
    rw [find_register] at hFind
    obtain rfl := Option.some.inj hFind
    exact hEquates
  · rw [find_register_of_ne hType] at hFind
    exact h s found hFind

/-- One more comparator that ignores the order of hashed containers does no harm. -/
theorem IgnoresOrder.register {checker : Checker} (h : checker.IgnoresOrder) {t : ValueType}
    {comparator : Comparator t} (hAlike : ∀ a b, t.Reordered a b → comparator a b = .ok true) :
    (checker.register t comparator).IgnoresOrder := by
  intro s found hFind
  by_cases hType : t = s
  · subst hType
    rw [find_register] at hFind
    obtain rfl := Option.some.inj hFind
    exact hAlike
  · rw [find_register_of_ne hType] at hFind
    exact h s found hFind

section Parts

variable {checker : Checker}

/-- A comparator has classes, which are those of rearranged values where it does not look at their order. -/
theorem comparator_sorts (hWell : checker.ComparesWell) {t : ValueType} {comparator : Comparator t}
    (hFind : checker.find t = some comparator) :
    Sorts comparator (fun _ => True) checker.IgnoresOrder t.Reordered :=
  .of_equates (hWell t comparator hFind) fun hOrder a b _ hab => ⟨trivial, hOrder t comparator hFind a b hab⟩

/-- All comparators together. -/
theorem exists_classes (hWell : checker.ComparesWell) : ∃ (κ : ValueType → Type) (key : ∀ s, s.Val → κ s),
    ∀ s comparator, checker.find s = some comparator →
      ∀ x y, ∃ verdict, comparator x y = .ok verdict ∧ (verdict = true ↔ key s x = key s y) := by
  have hClasses (s : ValueType) : ∃ (κ : Type) (key : s.Val → κ), ∀ comparator, checker.find s = some comparator →
      ∀ x y, ∃ verdict, comparator x y = .ok verdict ∧ (verdict = true ↔ key x = key y) := by
    cases hFind : checker.find s with
    | none => exact ⟨Unit, fun _ => (), fun _ h => nomatch h⟩
    | some comparator =>
        obtain ⟨κ, key, hEqual, -⟩ := comparator_sorts hWell hFind
        refine ⟨κ, key, fun _ h x y => ?_⟩
        obtain rfl := Option.some.inj h
        exact hEqual x y trivial trivial
  choose κ key hKey using hClasses
  exact ⟨κ, key, hKey⟩

/-- The classes of a type: by its comparator if there is one, by its structure otherwise. -/
theorem orElse_sorts (hWell : checker.ComparesWell) (t : ValueType) {structural : Comparator t}
    {parts : t.Val → Prop} (h : Sorts structural parts checker.IgnoresOrder t.Reordered) :
    Sorts (checker.orElse t structural) (checker.orCovers t parts) checker.IgnoresOrder t.Reordered := by
  cases hFind : checker.find t with
  | none =>
      have hParts : checker.orCovers t parts = parts := by
        funext v
        simp [orCovers, hasComparator, hFind]
      rwa [orElse_of_find hFind, hParts]
  | some comparator =>
      have hHas : checker.hasComparator t = true := by rw [hasComparator, hFind]; rfl
      rw [orElse, hFind, Option.getD_some]
      exact (comparator_sorts hWell hFind).restrict (fun _ _ => trivial) fun _ _ _ _ => .inl hHas

/-- Values that can be of a more specific type hold no containers. -/
theorem eq_of_reordered {t : ValueType} (hPolymorphic : t.isPolymorphic = true) {a b : t.Val}
    (h : t.Reordered a b) : a = b := by
  cases t with
  | record name r => exact h
  | _ => cases hPolymorphic

/-- What pointers point to: the class of a value is its dynamic type with the class in that type, or in the
declared one. -/
theorem pointeeEqual_sorts (hWell : checker.ComparesWell) (t : ValueType) {equal : t.Val → t.Val → Except Failure Bool}
    {covers : t.Val → Prop} (h : Sorts equal covers checker.IgnoresOrder t.Reordered) :
    Sorts (checker.pointeeEqual t equal) (checker.coversPointee t covers) checker.IgnoresOrder t.Reordered := by
  by_cases hPolymorphic : t.isPolymorphic = true
  · obtain ⟨κ, key, hEqual, hKey⟩ := h
    obtain ⟨κDynamic, keyDynamic, hDynamic⟩ := exists_classes hWell
    refine ⟨Σ s, κDynamic s ⊕ κ, fun v => ⟨(t.dynamic v).type, if checker.hasComparator (t.dynamic v).type
      then .inl (keyDynamic _ (t.dynamic v).value) else .inr (key v)⟩, fun a b ha hb => ?_, fun _ a b ha hab => ?_⟩
    · simp only [pointeeEqual, hPolymorphic, if_true]
      simp only [coversPointee, hPolymorphic, true_and] at ha hb
      generalize t.dynamic a = x at *
      generalize t.dynamic b = y at *
      obtain ⟨s, x⟩ := x
      obtain ⟨s', y⟩ := y
      by_cases hType : s' = s
      · subst hType
        rw [dif_pos rfl]
        cases hFind : checker.find s' with
        | none =>
            have hNone : checker.hasComparator s' = false := by rw [hasComparator, hFind]; rfl
            simp only [hNone, Bool.false_eq_true, false_or] at ha hb
            simpa [hNone] using hEqual a b ha hb
        | some comparator =>
            have hHas : checker.hasComparator s' = true := by rw [hasComparator, hFind]; rfl
            simpa [hHas] using hDynamic s' comparator hFind x y
      · refine ⟨false, dif_neg hType, iff_of_false Bool.false_ne_true fun h => hType ?_⟩
        exact (congrArg Sigma.fst h).symm
    · obtain rfl := eq_of_reordered hPolymorphic hab
      exact ⟨ha, rfl⟩
  · have hEqual : checker.pointeeEqual t equal = equal := by
      funext a b
      exact if_neg hPolymorphic
    have hCovers : checker.coversPointee t covers = covers := by
      funext v
      simp [coversPointee, hPolymorphic]
    rwa [hEqual, hCovers]

/-- Records with an equality of their own are sorted by it. -/
theorem recordEqual_sorts (name : DeclaredName) (r : Record) :
    Sorts (recordEqual name r) (fun _ => r.hasEquality = true) checker.IgnoresOrder Eq := by
  refine .of_imp fun h => ?_
  have hEqual : recordEqual name r = fun a b => .ok (r.same a b) := by
    funext a b
    exact if_pos h
  rw [hEqual]
  exact (Record.same_sorts h).weaken fun _ => trivial

/-- Hashed containers: by the equality of their elements as long as nothing is registered, and by deep equality
otherwise. -/
theorem hashedEqual_sorts {α : Type} {hasEquality : Bool} {same : α → α → Bool} {comparable : Prop}
    {equal : α → α → Except Failure Bool} {covers : α → Prop} {like : α → α → Prop}
    (hSame : comparable → SortsAll same like) (h : Sorts equal covers checker.IgnoresOrder like) :
    Sorts (checker.hashedEqual hasEquality same equal) (checker.coversHashed hasEquality comparable covers)
      checker.IgnoresOrder (Rearranged like) := by
  have hEqual := checker.hashedEqual_eq hasEquality same equal
  by_cases hOwn : (hasEquality && checker.isEmpty) = true
  · rw [if_pos hOwn] at hEqual
    have hCovers : checker.coversHashed hasEquality comparable covers = fun _ => comparable := by
      funext v
      exact if_pos hOwn
    rw [hEqual, funext₂ (unorderedEqual_ok same), hCovers]
    exact .of_imp fun h => (sortsAll_unordered (hSame h)).weaken fun _ => trivial
  · rw [if_neg hOwn] at hEqual
    have hCovers : checker.coversHashed hasEquality comparable covers = fun v => ∀ x ∈ v, covers x := by
      funext v
      exact if_neg hOwn
    rw [hEqual, hCovers]
    exact sorts_unordered h

end Parts

end Checker

open Checker in
mutual
/-- Deep equality sorts the covered values of every type, and values that are rearranged fall into one class. -/
theorem Checker.equals_sorts {checker : Checker} (hWell : checker.ComparesWell) : (t : ValueType) →
    Sorts (checker.equals t) (checker.Covers t) checker.IgnoresOrder t.Reordered
  | .scalar s => orElse_sorts hWell _ ((scalarEqual_sorts s).weaken fun _ => trivial)
  | .enumeration name s => orElse_sorts hWell _ (.of_imp fun h => (Scalar.same_sorts h).weaken fun _ => trivial)
  | .text kind => orElse_sorts hWell _ (.of_key kind.bytes (fun _ _ => Bytes.same_iff _ _) fun _ _ h => h ▸ rfl)
  | .record name r => orElse_sorts hWell _ (recordEqual_sorts name r)
  | .optional t =>
    orElse_sorts hWell _ (sorts_option (Checker.equals_sorts hWell t) fun a b => by cases a <;> cases b <;> rfl)
  | .pointer kind t => by
    have hPointee := (pointeeEqual_sorts hWell t (Checker.equals_sorts hWell t)).comap fun x : Placed t.Val => x.value
    refine orElse_sorts hWell _ (sorts_option (hPointee.finer fun _ _ h => h.2) fun a b => ?_)
    cases a <;> cases b <;> rfl
  | .pair s t => orElse_sorts hWell _ (sorts_pair (Checker.equals_sorts hWell s) (Checker.equals_sorts hWell t))
  | .entry k v =>
    orElse_sorts hWell _ (sorts_pair (Checker.equals_sorts hWell k) (Checker.equals_sorts hWell v))
  | .tuple t rest =>
    orElse_sorts hWell _ (sorts_pair (Checker.equals_sorts hWell t) (Checker.fieldsEqual_sorts hWell rest))
  | .array n t => orElse_sorts hWell _ ((sorts_list (Checker.equals_sorts hWell t)).comap Row.toList)
  | .sequence kind t => orElse_sorts hWell _ (sorts_list (Checker.equals_sorts hWell t))
  | .set .ordered multi t => orElse_sorts hWell _ (sorts_list (Checker.equals_sorts hWell t))
  | .set .hashed multi t => orElse_sorts hWell _ (hashedEqual_sorts t.same_sorts (Checker.equals_sorts hWell t))
  | .map .ordered multi k v =>
    orElse_sorts hWell _ (sorts_list (orElse_sorts hWell (.entry k v)
      (sorts_pair (Checker.equals_sorts hWell k) (Checker.equals_sorts hWell v))))
  | .map .hashed multi k v =>
    orElse_sorts hWell _ (hashedEqual_sorts (ValueType.entry k v).same_sorts (orElse_sorts hWell (.entry k v)
      (sorts_pair (Checker.equals_sorts hWell k) (Checker.equals_sorts hWell v))))

/-- Deep equality sorts tuples by their fields. -/
theorem Checker.fieldsEqual_sorts {checker : Checker} (hWell : checker.ComparesWell) : (ts : FieldTypes) →
    Sorts (checker.fieldsEqual ts) (checker.CoversFields ts) checker.IgnoresOrder ts.Reordered
  | .nil => .of_key (fun _ => ()) (fun _ _ => iff_of_true rfl rfl) fun _ _ _ => rfl
  | .cons t rest => sorts_pair (Checker.equals_sorts hWell t) (Checker.fieldsEqual_sorts hWell rest)
end

namespace Checker

/-- For every checker with comparators that always answer and are equivalences, deep equality always answers
about covered values of a type and is an equivalence of them. Where no comparator looks at the order in
which hashed containers list their elements, a value equals all its rearrangements. -/
theorem equals_is_equivalence {checker : Checker} (hWell : checker.ComparesWell) (t : ValueType) :
    Equates (checker.equals t) (checker.Covers t) ∧
      (checker.IgnoresOrder → ∀ a b, checker.Covers t a → t.Reordered a b →
        checker.Covers t b ∧ checker.equals t a b = .ok true) :=
  ⟨(equals_sorts hWell t).equates, fun hOrder _ _ ha hab => (equals_sorts hWell t).equal_of_alike hOrder ha hab⟩

section Drawings

/-- Numbers with shapes, in no order. -/
abbrev drawings : ValueType := .set .hashed true (.pair .float64 .shapePointer)

/-- Circles are compared by their bits, so that those without a proper radius are equal too. -/
def circlesByBits : Checker := register {} .circle (Comparator.on fun v => BitVec.toNat (w := 64) v)

/-- A NaN with a circle whose radius is one, and a zero without a shape. -/
def drawn : List (BitVec 64 × Option (Placed Shape)) :=
  [(0x7FF8000000000000#64, some ⟨1, ⟨"Samples", "Circle"⟩, .circle, 0x7FF8000000000000#64⟩), (0#64, none)]

/-- A NaN beside a circle, in a hashed container: it is equal to itself and to its rearrangement, by a
comparator for circles and the rule for NaN. -/
theorem equals_is_equivalence_drawings :
    circlesByBits.ComparesWell ∧ circlesByBits.IgnoresOrder ∧ circlesByBits.Covers drawings drawn ∧
      drawings.Reordered drawn drawn.reverse ∧ circlesByBits.equals drawings drawn drawn = .ok true ∧
        circlesByBits.equals drawings drawn drawn.reverse = .ok true := by
  have hWell : circlesByBits.ComparesWell := comparesWell_empty.register (Comparator.on_equates _)
  have hOrder : circlesByBits.IgnoresOrder :=
    ignoresOrder_empty.register fun a b h => by
      obtain rfl : a = b := h
      exact (Comparator.on_equates _).refl a trivial
  have hCovers : circlesByBits.Covers drawings drawn := by
    refine .inr fun x hx => .inr ⟨.inr trivial, .inr fun shape hShape => ?_⟩
    cases hx with
    | head =>
        obtain rfl := Option.some.inj hShape
        exact .inl ⟨rfl, rfl⟩
    | tail _ hx =>
        obtain rfl := List.mem_singleton.mp hx
        cases hShape
  have hReordered : drawings.Reordered drawn drawn.reverse := by
    refine ⟨drawn, List.forall₂_same.mpr fun x _ => ⟨rfl, ?_⟩, (List.reverse_perm drawn).symm⟩
    obtain ⟨_, _ | shape⟩ := x
    · exact .none
    · exact .some ⟨rfl, rfl⟩
  obtain ⟨hEquates, hRearranged⟩ := equals_is_equivalence hWell drawings
  exact ⟨hWell, hOrder, hCovers, hReordered, hEquates.refl drawn hCovers,
    (hRearranged hOrder drawn drawn.reverse hCovers hReordered).2⟩

end Drawings

end Checker

end SerializerContract
