import Mathlib.Algebra.GroupWithZero.Nat
import Mathlib.Data.List.Perm.Subperm
import SerializerContract.Proofs.ValueType.Insertion

/-! What containers keep of the elements that are inserted into them: nothing but these, and none of them more
often than it was inserted. -/
namespace SerializerContract

theorem insertSorted_perm {κ ε : Type} (less : κ → κ → Bool) (key : ε → κ) (x : ε) (xs : List ε) :
    (insertSorted less key x xs).Perm (x :: xs) := by
  induction xs with
  | nil => exact .refl _
  | cons y ys ih =>
      rw [insertSorted]
      split
      · exact .refl _
      · exact (ih.cons y).trans (.swap x y ys)

/-- An ordered container may drop the new element and never another one. -/
theorem insertOrdered_subperm {κ ε : Type} (less : κ → κ → Bool) (key : ε → κ) (multi : Bool) (xs : List ε)
    (x : ε) : (insertOrdered less key multi xs x).Subperm (x :: xs) := by
  unfold insertOrdered
  split
  · exact .cons_self
  · exact (insertSorted_perm less key x xs).subperm

/-- A hashed container may drop the new element and never another one. -/
theorem insertHashed_subperm {κ ε : Type} (same : κ → κ → Bool) (key : ε → κ) (multi : Bool) (xs : List ε)
    (x : ε) : (insertHashed same key multi xs x).Subperm (x :: xs) := by
  unfold insertHashed
  split
  · exact .cons_self
  · exact (List.perm_append_singleton x xs).subperm

theorem foldl_subperm {ε : Type} {insert : List ε → ε → List ε}
    (h : ∀ xs x, (insert xs x).Subperm (x :: xs)) (xs held : List ε) :
    (xs.foldl insert held).Subperm (held ++ xs) := by
  induction xs generalizing held with
  | nil => simpa using List.Subperm.refl held
  | cons x xs ih =>
      have hFirst : (insert held x ++ xs).Subperm (x :: held ++ xs) := (h held x).append (.refl xs)
      exact (ih _).trans (hFirst.trans List.perm_middle.symm.subperm)

theorem sum_map_le_of_sublist {ε : Type} (weight : ε → Nat) {xs ys : List ε} (h : xs.Sublist ys) :
    (xs.map weight).sum ≤ (ys.map weight).sum := by
  induction h with
  | slnil => exact Nat.le_refl _
  | cons x _ ih =>
      rw [List.map_cons, List.sum_cons]
      omega
  | cons_cons x _ ih =>
      rw [List.map_cons, List.sum_cons, List.map_cons, List.sum_cons]
      omega

/-- Elements that are kept weigh at most as much as all. -/
theorem sum_map_le_of_subperm {ε : Type} (weight : ε → Nat) {xs ys : List ε} (h : xs.Subperm ys) :
    (xs.map weight).sum ≤ (ys.map weight).sum := by
  obtain ⟨kept, hPerm, hSublist⟩ := h
  rw [← (hPerm.map weight).sum_nat]
  exact sum_map_le_of_sublist weight hSublist

namespace Lookup

variable {ε : Type} (lookup : Lookup) (multi : Bool) (k : ValueType) (key : ε → k.Val)

theorem insert_subperm (xs : List ε) (x : ε) : (lookup.insert multi k key xs x).Subperm (x :: xs) := by
  cases lookup with
  | ordered => exact insertOrdered_subperm k.less key multi xs x
  | hashed => exact insertHashed_subperm k.same key multi xs x

/-- A container holds some of the listed elements, each no more often than it is listed. -/
theorem ofList_subperm (xs : List ε) : (lookup.ofList multi k key xs).Subperm xs :=
  foldl_subperm (lookup.insert_subperm multi k key) xs []

end Lookup

end SerializerContract
