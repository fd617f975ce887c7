import Mathlib.Data.List.Forall2
import Mathlib.Data.Multiset.Defs
import SerializerContract.Proofs.Checker

/-! Comparisons that sort values into classes. A comparison that always answers, and answers as an
equivalence would, gives every value a class and finds two values equal exactly if they are of one class.
The ways in which a comparison is put together from comparisons of parts all keep this, and say what the
classes of the whole are. -/
namespace SerializerContract

/-- On the values of a domain the comparison always answers, and its answers are an equivalence. -/
structure Equates {α : Type} (equal : α → α → Except Failure Bool) (domain : α → Prop) : Prop where
  total : ∀ a b, domain a → domain b → ∃ verdict, equal a b = .ok verdict
  refl : ∀ a, domain a → equal a a = .ok true
  symm : ∀ a b, domain a → domain b → equal a b = .ok true → equal b a = .ok true
  trans : ∀ a b c, domain a → domain b → domain c →
    equal a b = .ok true → equal b c = .ok true → equal a c = .ok true

/-- Values that are found equal are of one class; a value outside of the domain is a class of its own. -/
def Equates.classes {α : Type} {equal : α → α → Except Failure Bool} {domain : α → Prop} (h : Equates equal domain) :
    Setoid α where
  r a b := a = b ∨ (domain a ∧ domain b ∧ equal a b = .ok true)
  iseqv := by
    refine ⟨fun a => .inl rfl, ?_, ?_⟩
    · rintro a b (rfl | ⟨ha, hb, hab⟩)
      · exact .inl rfl
      · exact .inr ⟨hb, ha, h.symm a b ha hb hab⟩
    · rintro a b c (rfl | ⟨ha, hb, hab⟩) hbc
      · exact hbc
      · obtain rfl | ⟨-, hc, hbc⟩ := hbc
        · exact .inr ⟨ha, hb, hab⟩
        · exact .inr ⟨ha, hc, h.trans a b c ha hb hc hab hbc⟩

/-- Every value of the domain has a class, and two of them are found equal exactly if they are of one class.
Under a condition, which is to be that nothing looks at the order of hashed containers, alike values are of
one class. -/
def Sorts {α : Type} (equal : α → α → Except Failure Bool) (domain : α → Prop) (order : Prop)
    (alike : α → α → Prop) : Prop :=
  ∃ (κ : Type) (key : α → κ),
    (∀ a b, domain a → domain b → ∃ verdict, equal a b = .ok verdict ∧ (verdict = true ↔ key a = key b)) ∧
      (order → ∀ a b, domain a → alike a b → domain b ∧ key a = key b)

/-- Element by element alike, after the elements of one of the lists have been put into another order. -/
def Rearranged {α : Type} (alike : α → α → Prop) (xs ys : List α) : Prop :=
  ∃ zs, List.Forall₂ alike xs zs ∧ zs.Perm ys

namespace Sorts

variable {α β : Type} {equal : α → α → Except Failure Bool} {domain : α → Prop} {order : Prop}
  {alike : α → α → Prop}

/-- What sorts values into classes always answers, and is an equivalence. -/
theorem equates (h : Sorts equal domain order alike) : Equates equal domain := by
  obtain ⟨κ, key, hEqual, -⟩ := h
  have hTrue (a b : α) (ha : domain a) (hb : domain b) : equal a b = .ok true ↔ key a = key b := by
    obtain ⟨verdict, hVerdict, hKey⟩ := hEqual a b ha hb
    rw [hVerdict, ← hKey, Except.ok.injEq]
  refine ⟨fun a b ha hb => ?_, fun a ha => ?_, fun a b ha hb hab => ?_, fun a b c ha hb hc hab hbc => ?_⟩
  · obtain ⟨verdict, hVerdict, -⟩ := hEqual a b ha hb
    exact ⟨verdict, hVerdict⟩
  · exact (hTrue a a ha ha).mpr rfl
  · exact (hTrue b a hb ha).mpr ((hTrue a b ha hb).mp hab).symm
  · exact (hTrue a c ha hc).mpr (((hTrue a b ha hb).mp hab).trans ((hTrue b c hb hc).mp hbc))

/-- Values that are alike are equal, where the order does not count. -/
theorem equal_of_alike (h : Sorts equal domain order alike) (hOrder : order) {a b : α} (ha : domain a)
    (hAlike : alike a b) : domain b ∧ equal a b = .ok true := by
  obtain ⟨κ, key, hEqual, hKey⟩ := h
  obtain ⟨hb, hSame⟩ := hKey hOrder a b ha hAlike
  obtain ⟨verdict, hVerdict, hTrue⟩ := hEqual a b ha hb
  exact ⟨hb, by rw [hVerdict, hTrue.mpr hSame]⟩

/-- An equivalence sorts values into its classes. -/
theorem of_equates (h : Equates equal domain)
    (hAlike : order → ∀ a b, domain a → alike a b → domain b ∧ equal a b = .ok true) :
    Sorts equal domain order alike := by
  have hKey (a b : α) (ha : domain a) (hb : domain b) :
      Quotient.mk h.classes a = Quotient.mk h.classes b ↔ equal a b = .ok true := by
    rw [Quotient.eq]
    constructor
    · rintro (rfl | ⟨-, -, hab⟩)
      · exact h.refl a ha
      · exact hab
    · exact fun hab => .inr ⟨ha, hb, hab⟩
  refine ⟨Quotient h.classes, Quotient.mk h.classes, fun a b ha hb => ?_, fun hOrder a b ha hab => ?_⟩
  · obtain ⟨verdict, hVerdict⟩ := h.total a b ha hb
    refine ⟨verdict, hVerdict, ?_⟩
    rw [hKey a b ha hb, hVerdict, Except.ok.injEq]
  · obtain ⟨hb, hEqual⟩ := hAlike hOrder a b ha hab
    exact ⟨hb, (hKey a b ha hb).mpr hEqual⟩

/-- A comparison of all values by a part of them. -/
theorem of_key {κ : Type} {verdict : α → α → Bool} (key : α → κ) (hVerdict : ∀ a b, verdict a b = true ↔ key a = key b)
    (hAlike : ∀ a b, alike a b → key a = key b) :
    Sorts (fun a b => .ok (verdict a b)) (fun _ => True) order alike :=
  ⟨κ, key, fun a b _ _ => ⟨verdict a b, rfl, hVerdict a b⟩, fun _ a b _ hab => ⟨trivial, hAlike a b hab⟩⟩

/-- A comparison that ignores the order under one condition does so under any stronger one. -/
theorem weaken (h : Sorts equal domain order alike) {order' : Prop} (hOrder : order' → order) :
    Sorts equal domain order' alike := by
  obtain ⟨κ, key, hEqual, hKey⟩ := h
  exact ⟨κ, key, hEqual, fun h => hKey (hOrder h)⟩

/-- Fewer values can be called alike. -/
theorem finer (h : Sorts equal domain order alike) {alike' : α → α → Prop}
    (hAlike : ∀ a b, alike' a b → alike a b) : Sorts equal domain order alike' := by
  obtain ⟨κ, key, hEqual, hKey⟩ := h
  exact ⟨κ, key, hEqual, fun hOrder a b ha hab => hKey hOrder a b ha (hAlike a b hab)⟩

/-- A comparison can be looked at on fewer values, if those that are alike are kept. -/
theorem restrict (h : Sorts equal domain order alike) {domain' : α → Prop} (hDomain : ∀ a, domain' a → domain a)
    (hKept : ∀ a b, domain' a → alike a b → domain' b) : Sorts equal domain' order alike := by
  obtain ⟨κ, key, hEqual, hKey⟩ := h
  exact ⟨κ, key, fun a b ha hb => hEqual a b (hDomain a ha) (hDomain b hb), fun hOrder a b ha hab =>
    ⟨hKept a b ha hab, (hKey hOrder a b (hDomain a ha) hab).2⟩⟩

/-- A comparison of all values that is asked for under a condition only. -/
theorem of_imp {condition : Prop} (h : condition → Sorts equal (fun _ => True) order alike) :
    Sorts equal (fun _ => condition) order alike := by
  by_cases hCondition : condition
  · exact (h hCondition).restrict (fun _ _ => trivial) fun _ _ _ _ => hCondition
  · exact ⟨Unit, fun _ => (), fun _ _ ha => absurd ha hCondition, fun _ _ _ ha => absurd ha hCondition⟩

/-- Values are sorted by sorting a part of each. -/
theorem comap (h : Sorts equal domain order alike) (part : β → α) :
    Sorts (fun a b => equal (part a) (part b)) (fun a => domain (part a)) order
      fun a b => alike (part a) (part b) := by
  obtain ⟨κ, key, hEqual, hKey⟩ := h
  exact ⟨κ, fun a => key (part a), fun a b => hEqual (part a) (part b), fun hOrder a b =>
    hKey hOrder (part a) (part b)⟩

end Sorts

namespace Checker

variable {α β : Type} {equal : α → α → Except Failure Bool} {domain : α → Prop} {order : Prop}
  {alike : α → α → Prop}

/-- Pairs are sorted by sorting both parts. -/
theorem sorts_pair {equal' : β → β → Except Failure Bool} {domain' : β → Prop} {alike' : β → β → Prop}
    (h : Sorts equal domain order alike) (h' : Sorts equal' domain' order alike') :
    Sorts (fun a b : α × β => bothEqual (equal a.1 b.1) fun _ => equal' a.2 b.2)
      (fun a => domain a.1 ∧ domain' a.2) order fun a b => alike a.1 b.1 ∧ alike' a.2 b.2 := by
  obtain ⟨κ, key, hEqual, hKey⟩ := h
  obtain ⟨κ', key', hEqual', hKey'⟩ := h'
  refine ⟨κ × κ', fun a => (key a.1, key' a.2), ?_, ?_⟩
  · rintro ⟨a, a'⟩ ⟨b, b'⟩ ⟨ha, ha'⟩ ⟨hb, hb'⟩
    obtain ⟨first, hFirst, hSame⟩ := hEqual a b ha hb
    obtain ⟨second, hSecond, hSame'⟩ := hEqual' a' b' ha' hb'
    refine ⟨first && second, ?_, ?_⟩
    · cases first <;> simp [bothEqual, hFirst, hSecond]
    · rw [Bool.and_eq_true, hSame, hSame', Prod.mk.injEq]
  · rintro hOrder ⟨a, a'⟩ ⟨b, b'⟩ ⟨ha, ha'⟩ ⟨hab, hab'⟩
    obtain ⟨hb, hSame⟩ := hKey hOrder a b ha hab
    obtain ⟨hb', hSame'⟩ := hKey' hOrder a' b' ha' hab'
    exact ⟨⟨hb, hb'⟩, Prod.ext hSame hSame'⟩

/-- Nothing equals nothing only. -/
def optionEqual (equal : α → α → Except Failure Bool) : Option α → Option α → Except Failure Bool
  | some x, some y => equal x y
  | none, none => .ok true
  | _, _ => .ok false

/-- Optional values are sorted by sorting those that are there. -/
theorem sorts_option (h : Sorts equal domain order alike) {equalOption : Option α → Option α → Except Failure Bool}
    (hOption : ∀ a b, equalOption a b = optionEqual equal a b) :
    Sorts equalOption (fun a => ∀ x ∈ a, domain x) order (Option.Rel alike) := by
  rw [funext₂ hOption]
  obtain ⟨κ, key, hEqual, hKey⟩ := h
  refine ⟨Option κ, Option.map key, fun a b ha hb => ?_, fun hOrder a b ha hab => ?_⟩
  · match a, b with
    | some x, some y =>
      obtain ⟨verdict, hVerdict, hSame⟩ := hEqual x y (ha x rfl) (hb y rfl)
      exact ⟨verdict, hVerdict, by simpa using hSame⟩
    | none, none => exact ⟨true, rfl, by simp⟩
    | some x, none => exact ⟨false, rfl, by simp⟩
    | none, some y => exact ⟨false, rfl, by simp⟩
  · cases hab with
    | none => exact ⟨ha, rfl⟩
    | some hab =>
      obtain ⟨hb, hSame⟩ := hKey hOrder _ _ (ha _ rfl) hab
      exact ⟨by simpa using hb, by simpa using hSame⟩

/-- Lists of values that are alike one by one are in the same classes one by one. -/
theorem domain_of_forall₂ {κ : Type} {key : α → κ} (hKey : ∀ a b, domain a → alike a b → domain b ∧ key a = key b)
    {xs ys : List α} (hx : ∀ x ∈ xs, domain x) (hAlike : List.Forall₂ alike xs ys) :
    (∀ y ∈ ys, domain y) ∧ xs.map key = ys.map key := by
  induction hAlike with
  | nil => exact ⟨hx, rfl⟩
  | cons hab _ ih =>
      rw [List.forall_mem_cons] at hx
      obtain ⟨hb, hSame⟩ := hKey _ _ hx.1 hab
      obtain ⟨hRest, hSameRest⟩ := ih hx.2
      exact ⟨List.forall_mem_cons.mpr ⟨hb, hRest⟩, by rw [List.map_cons, List.map_cons, hSame, hSameRest]⟩

/-- Position by position: the class of a list is the list of the classes. -/
theorem sorts_list (h : Sorts equal domain order alike) :
    Sorts (listEqual equal) (fun xs => ∀ x ∈ xs, domain x) order (List.Forall₂ alike) := by
  obtain ⟨κ, key, hEqual, hKey⟩ := h
  refine ⟨List κ, List.map key, fun xs ys hx hy => ?_, fun hOrder xs ys hx => domain_of_forall₂ (hKey hOrder) hx⟩
  induction xs generalizing ys with
  | nil => cases ys <;> simp [listEqual]
  | cons x xs ih =>
      cases ys with
      | nil => simp [listEqual]
      | cons y ys =>
          rw [List.forall_mem_cons] at hx hy
          obtain ⟨first, hFirst, hSame⟩ := hEqual x y hx.1 hy.1
          obtain ⟨rest, hRest, hSameRest⟩ := ih ys hx.2 hy.2
          refine ⟨first && rest, ?_, ?_⟩
          · cases first <;> simp [listEqual, bothEqual, hFirst, hRest]
          · rw [Bool.and_eq_true, hSame, hSameRest, List.map_cons, List.map_cons, List.cons.injEq]

/-! ## Elements in any order -/

section Matching

variable {κ : Type} {key : α → κ}

/-- The candidate that is taken is of the class that was asked for; if none is taken, there is none. -/
theorem takeEqual_outcome {x : α} {ys : List α}
    (hEqual : ∀ y ∈ ys, ∃ verdict, equal x y = .ok verdict ∧ (verdict = true ↔ key x = key y)) :
    (takeEqual equal x ys = .ok none ∧ key x ∉ ys.map key) ∨
      ∃ y rest, takeEqual equal x ys = .ok (some rest) ∧ key x = key y ∧ ys.Perm (y :: rest) := by
  induction ys with
  | nil => exact .inl ⟨rfl, List.not_mem_nil⟩
  | cons y ys ih =>
      rw [List.forall_mem_cons] at hEqual
      obtain ⟨verdict, hVerdict, hSame⟩ := hEqual.1
      cases verdict with
      | true => exact .inr ⟨y, ys, by rw [takeEqual, hVerdict], hSame.mp rfl, .refl _⟩
      | false =>
          have hOther : key x ≠ key y := fun h => Bool.false_ne_true (hSame.mpr h)
          obtain ⟨hTake, hNone⟩ | ⟨z, rest, hTake, hz, hPerm⟩ := ih hEqual.2
          · refine .inl ⟨by rw [takeEqual, hVerdict]; simp [hTake, Except.map], ?_⟩
            rw [List.map_cons, List.mem_cons]
            exact not_or.mpr ⟨hOther, hNone⟩
          · refine .inr ⟨z, y :: rest, by rw [takeEqual, hVerdict]; simp [hTake, Except.map], hz, ?_⟩
            exact (hPerm.cons y).trans (.swap z y rest)

/-- Partners are found for everybody exactly if there are as many of each class on either side. Elements of
one class are interchangeable, so that the first free partner is as good as any. -/
theorem allFound_outcome {xs ys : List α} (hLength : xs.length = ys.length)
    (hEqual : ∀ x ∈ xs, ∀ y ∈ ys, ∃ verdict, equal x y = .ok verdict ∧ (verdict = true ↔ key x = key y)) :
    ∃ verdict, allFound equal xs ys = .ok verdict ∧ (verdict = true ↔ (xs.map key).Perm (ys.map key)) := by
  induction xs generalizing ys with
  | nil =>
      obtain rfl : ys = [] := List.length_eq_zero_iff.mp hLength.symm
      exact ⟨true, rfl, by simp⟩
  | cons x xs ih =>
      rw [List.forall_mem_cons] at hEqual
      obtain ⟨hTake, hNone⟩ | ⟨y, rest, hTake, hSame, hPerm⟩ := takeEqual_outcome hEqual.1
      · refine ⟨false, by rw [allFound, hTake], ?_⟩
        refine iff_of_false Bool.false_ne_true fun h => hNone ?_
        exact h.subset (List.mem_map_of_mem List.mem_cons_self)
      · have hShorter : xs.length = rest.length := by
          have hCons := hPerm.length_eq
          rw [← hLength, List.length_cons, List.length_cons] at hCons
          exact Nat.succ_inj.mp hCons
        obtain ⟨verdict, hFound, hVerdict⟩ := ih hShorter fun a ha b hb =>
          hEqual.2 a ha b (hPerm.symm.subset (List.mem_cons_of_mem y hb))
        refine ⟨verdict, by rw [allFound, hTake]; exact hFound, hVerdict.trans ?_⟩
        have hKeys : (ys.map key).Perm (key x :: rest.map key) := by
          rw [hSame]
          exact hPerm.map key
        calc (xs.map key).Perm (rest.map key)
          _ ↔ (key x :: xs.map key).Perm (key x :: rest.map key) := (List.perm_cons (key x)).symm
          _ ↔ (key x :: xs.map key).Perm (ys.map key) := ⟨fun h => h.trans hKeys.symm, fun h => h.trans hKeys⟩

end Matching

/-- Two containers with the same number of elements, in any order. -/
def unorderedEqual (equal : α → α → Except Failure Bool) (xs ys : List α) : Except Failure Bool :=
  if xs.length != ys.length then .ok false else allFound equal xs ys

/-- In any order: the class of a container is how many elements of each class there are. -/
theorem sorts_unordered (h : Sorts equal domain order alike) :
    Sorts (unorderedEqual equal) (fun xs => ∀ x ∈ xs, domain x) order (Rearranged alike) := by
  obtain ⟨κ, key, hEqual, hKey⟩ := h
  refine ⟨Multiset κ, fun xs => xs.map key, fun xs ys hx hy => ?_, ?_⟩
  · simp only [Multiset.coe_eq_coe, unorderedEqual]
    by_cases hLength : xs.length = ys.length
    · simp only [hLength, bne_self_eq_false, Bool.false_eq_true, if_false]
      exact allFound_outcome hLength fun x hxs y hys => hEqual x y (hx x hxs) (hy y hys)
    · refine ⟨false, if_pos (by simpa using hLength), iff_of_false Bool.false_ne_true fun h => hLength ?_⟩
      simpa using h.length_eq
  · rintro hOrder xs ys hx ⟨zs, hAlike, hPerm⟩
    obtain ⟨hz, hSame⟩ := domain_of_forall₂ (hKey hOrder) hx hAlike
    refine ⟨fun y hy => hz y (hPerm.symm.subset hy), ?_⟩
    simp only [hSame, Multiset.coe_eq_coe]
    exact hPerm.map key

end Checker

end SerializerContract
