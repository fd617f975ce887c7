import SerializerContract.ValueType.Order

/-! The order of associative containers. Insertion keeps an ordered container sorted by its keys, and the
keys of a hashed one apart. Inserting the elements of a container again, in their order, gives the same
container. -/
namespace SerializerContract

/-- Elements that are each inserted behind all earlier ones stay in their order. -/
theorem foldl_insert_eq_append {ε : Type} {insert : List ε → ε → List ε} {fits : ε → ε → Prop}
    (hInsert : ∀ xs x, (∀ y ∈ xs, fits y x) → insert xs x = xs ++ [x]) (held xs : List ε)
    (h : (held ++ xs).Pairwise fits) : xs.foldl insert held = held ++ xs := by
  induction xs generalizing held with
  | nil => simp
  | cons x xs ih =>
      have hBehind := (List.pairwise_append.mp h).2.2
      rw [List.foldl_cons, hInsert held x fun y hy => hBehind y hy x List.mem_cons_self,
        ih (held ++ [x]) (by simpa using h)]
      simp

section Sorted

variable {κ ε : Type} {less : κ → κ → Bool} {key : ε → κ}

/-- The order in which an ordered container is iterated: no key is less than an earlier one, and with
unique keys every key is greater than the earlier ones. -/
def Sorted (less : κ → κ → Bool) (key : ε → κ) (multi : Bool) (xs : List ε) : Prop :=
  xs.Pairwise fun x y =>
    less (key y) (key x) = false ∧ (multi = true ∨ less (key x) (key y) = true)

/-- A strict weak order on the keys that satisfy `p`. A total order is one. -/
structure StrictOrder (less : κ → κ → Bool) (p : κ → Prop) : Prop where
  asymm : ∀ a b, p a → p b → less a b = true → less b a = false
  trans : ∀ a b c, p a → p b → p c → less b a = false → less c b = false → less c a = false

/-- Elements that come in order are appended. -/
theorem insertSorted_eq_append {x : ε} {xs : List ε}
    (h : ∀ y ∈ xs, less (key x) (key y) = false) : insertSorted less key x xs = xs ++ [x] := by
  induction xs with
  | nil => rfl
  | cons y ys ih =>
      rw [insertSorted, h y List.mem_cons_self, ih fun z hz => h z (List.mem_cons_of_mem _ hz)]
      rfl

/-- An element that belongs behind all others is inserted there. -/
theorem insertOrdered_eq_append {multi : Bool} {x : ε} {xs : List ε}
    (h : ∀ y ∈ xs, less (key x) (key y) = false ∧ (multi = true ∨ less (key y) (key x) = true)) :
    insertOrdered less key multi xs x = xs ++ [x] := by
  have hNew : (!multi && xs.any fun y => !less (key x) (key y) && !less (key y) (key x)) = false := by
    cases hMulti : multi with
    | true => rfl
    | false =>
        simp only [Bool.not_false, Bool.true_and, List.any_eq_false]
        intro y hy
        have hLess : less (key y) (key x) = true := by simpa [hMulti] using (h y hy).2
        simp [hLess]
  rw [insertOrdered, hNew]
  exact insertSorted_eq_append fun y hy => (h y hy).1

theorem mem_insertSorted {x z : ε} {xs : List ε} (h : z ∈ insertSorted less key x xs) :
    z = x ∨ z ∈ xs := by
  induction xs with
  | nil => simpa [insertSorted] using h
  | cons y ys ih =>
      rw [insertSorted] at h
      split at h
      · simpa using h
      · rcases List.mem_cons.mp h with rfl | hTail
        · exact .inr List.mem_cons_self
        · exact (ih hTail).imp_right (List.mem_cons_of_mem _)

/-- Insertion behind every element whose key is not greater keeps the elements sorted. With unique
keys no key may be there already. -/
theorem insertSorted_sorted {p : κ → Prop} (hOrder : StrictOrder less p) {multi : Bool} {x : ε}
    {xs : List ε} (hKeys : ∀ y ∈ x :: xs, p (key y)) (h : Sorted less key multi xs)
    (hNew : multi = true ∨ ∀ y ∈ xs, less (key x) (key y) = true ∨ less (key y) (key x) = true) :
    Sorted less key multi (insertSorted less key x xs) := by
  induction xs with
  | nil => exact List.pairwise_singleton _ _
  | cons y ys ih =>
      obtain ⟨hFirst, hRest⟩ := List.pairwise_cons.mp h
      have hx := hKeys x List.mem_cons_self
      have hy := hKeys y (List.mem_cons_of_mem _ List.mem_cons_self)
      have hys : ∀ z ∈ ys, p (key z) := fun z hz =>
        hKeys z (List.mem_cons_of_mem _ (List.mem_cons_of_mem _ hz))
      rw [insertSorted]
      cases hLess : less (key x) (key y) with
      | true =>
          have hBack := hOrder.asymm _ _ hx hy hLess
          refine List.pairwise_cons.mpr ⟨fun z hz => ?_, h⟩
          rcases List.mem_cons.mp hz with rfl | hz
          · exact ⟨hBack, .inr hLess⟩
          · have hAfter := hOrder.trans _ _ _ hx hy (hys z hz) hBack (hFirst z hz).1
            refine ⟨hAfter, hNew.imp_right fun hNew => ?_⟩
            exact (hNew z (List.mem_cons_of_mem _ hz)).resolve_right (by simp [hAfter])
      | false =>
          have hTail := ih (fun z hz => hKeys z (by
              rcases List.mem_cons.mp hz with rfl | hz
              · exact List.mem_cons_self
              · exact List.mem_cons_of_mem _ (List.mem_cons_of_mem _ hz))) hRest
            (hNew.imp_right fun hNew z hz => hNew z (List.mem_cons_of_mem _ hz))
          refine List.pairwise_cons.mpr ⟨fun z hz => ?_, hTail⟩
          rcases mem_insertSorted hz with rfl | hz
          · exact ⟨hLess, hNew.imp_right fun hNew =>
              (hNew y List.mem_cons_self).resolve_left (by simp [hLess])⟩
          · exact hFirst z hz

/-- Insertion keeps a container sorted. -/
theorem insertOrdered_sorted {p : κ → Prop} (hOrder : StrictOrder less p) {multi : Bool} {x : ε}
    {xs : List ε} (hKeys : ∀ y ∈ x :: xs, p (key y)) (h : Sorted less key multi xs) :
    Sorted less key multi (insertOrdered less key multi xs x) := by
  unfold insertOrdered
  split
  · exact h
  · next hNew =>
      refine insertSorted_sorted hOrder hKeys h ?_
      cases multi with
      | true => exact .inl rfl
      | false =>
          refine .inr fun y hy => ?_
          by_cases hLess : less (key x) (key y) = true
          · exact .inl hLess
          · simp only [Bool.not_false, Bool.true_and, List.any_eq_true, not_exists, not_and] at hNew
            exact .inr (by simpa [hLess] using hNew y hy)

theorem mem_insertSorted_of_mem {x y : ε} {xs : List ε} (h : y ∈ x :: xs) : y ∈ insertSorted less key x xs := by
  induction xs with
  | nil => exact h
  | cons z zs ih =>
      rw [insertSorted]
      split
      · exact h
      · rcases List.mem_cons.mp h with rfl | hOld
        · exact List.mem_cons_of_mem _ (ih List.mem_cons_self)
        · rcases List.mem_cons.mp hOld with rfl | hOld
          · exact List.mem_cons_self
          · exact List.mem_cons_of_mem _ (ih (List.mem_cons_of_mem _ hOld))

/-- An insertion drops the element, or it adds the element to all others. -/
theorem insertOrdered_dropped_or_added (multi : Bool) (xs : List ε) (x : ε) :
    insertOrdered less key multi xs x = xs ∨ ∀ y ∈ x :: xs, y ∈ insertOrdered less key multi xs x := by
  unfold insertOrdered
  split
  · exact .inl rfl
  · exact .inr fun _ => mem_insertSorted_of_mem

/-- What an ordered container holds it keeps. -/
theorem mem_foldl_insertOrdered {multi : Bool} {y : ε} (xs held : List ε) (h : y ∈ held) :
    y ∈ xs.foldl (insertOrdered less key multi) held := by
  induction xs generalizing held with
  | nil => exact h
  | cons x xs ih =>
      refine ih _ ?_
      rcases insertOrdered_dropped_or_added multi held x with hDropped | hAdded
      · rwa [hDropped]
      · exact hAdded y (List.mem_cons_of_mem _ h)

/-- What is built by insertion alone is sorted, when the keys in it are ordered. Those that were dropped need
not be. -/
theorem foldl_insertOrdered_sorted {p : κ → Prop} (hOrder : StrictOrder less p) {multi : Bool}
    (xs held : List ε) (hKeys : ∀ y ∈ xs.foldl (insertOrdered less key multi) held, p (key y))
    (h : Sorted less key multi held) : Sorted less key multi (xs.foldl (insertOrdered less key multi) held) := by
  induction xs generalizing held with
  | nil => exact h
  | cons x xs ih =>
      refine ih _ hKeys ?_
      rcases insertOrdered_dropped_or_added multi held x with hDropped | hAdded
      · rwa [hDropped]
      · exact insertOrdered_sorted hOrder (fun y hy => hKeys y (mem_foldl_insertOrdered xs _ (hAdded y hy))) h

end Sorted

section Distinct

variable {κ ε : Type} {same : κ → κ → Bool} {key : ε → κ} {multi : Bool}

/-- The keys of a hashed container: with unique keys, none is the same as an earlier one. -/
def Distinct (same : κ → κ → Bool) (key : ε → κ) (multi : Bool) (xs : List ε) : Prop :=
  xs.Pairwise fun x y => multi = true ∨ same (key y) (key x) = false

/-- An element with a new key is inserted behind all others. -/
theorem insertHashed_eq_append {x : ε} {xs : List ε}
    (h : ∀ y ∈ xs, multi = true ∨ same (key x) (key y) = false) :
    insertHashed same key multi xs x = xs ++ [x] := by
  cases multi with
  | true => rfl
  | false =>
      have hNew : (xs.any fun y => same (key x) (key y)) = false := by simpa using h
      simp [insertHashed, hNew]

end Distinct

namespace Lookup

variable {ε : Type}

/-- The elements of an associative container in the order of its iteration: an ordered one is sorted, and
the keys of a hashed one are apart. -/
def Holds (lookup : Lookup) (multi : Bool) (k : ValueType) (key : ε → k.Val) (xs : List ε) : Prop :=
  match lookup with
  | .ordered => Sorted k.less key multi xs
  | .hashed => Distinct k.same key multi xs

/-- Inserting the elements of a container in their order gives the same container. -/
theorem ofList_of_holds {lookup : Lookup} {multi : Bool} {k : ValueType} {key : ε → k.Val} {xs : List ε}
    (h : lookup.Holds multi k key xs) : lookup.ofList multi k key xs = xs := by
  cases lookup with
  | ordered => exact foldl_insert_eq_append (fun _ _ => insertOrdered_eq_append) [] xs h
  | hashed => exact foldl_insert_eq_append (fun _ _ => insertHashed_eq_append) [] xs h

/-- The order in which an associative container is iterated. A hashed one has an order that can be
relied on only if it has at most one element. -/
def Arranged (lookup : Lookup) (multi : Bool) (k : ValueType) (key : ε → k.Val) (xs : List ε) : Prop :=
  match lookup with
  | .ordered => Sorted k.less key multi xs
  | .hashed => xs.length ≤ 1

theorem holds_of_arranged {lookup : Lookup} {multi : Bool} {k : ValueType} {key : ε → k.Val}
    {xs : List ε} (h : lookup.Arranged multi k key xs) : lookup.Holds multi k key xs := by
  cases lookup with
  | ordered => exact h
  | hashed =>
      match xs, h with
      | [], _ => exact .nil
      | [x], _ => exact List.pairwise_singleton _ x

/-- The order of a container does not depend on how it was filled: the keys of an ordered one are ordered, and a
hashed one has at most one element. -/
def Orders (lookup : Lookup) (k : ValueType) (key : ε → k.Val) (xs : List ε) : Prop :=
  match lookup with
  | .ordered => StrictOrder k.less fun a => ∃ x ∈ xs, key x = a
  | .hashed => xs.length ≤ 1

/-- A container that its elements put in order is arranged. -/
theorem ofList_arranged {lookup : Lookup} {multi : Bool} {k : ValueType} {key : ε → k.Val} {xs : List ε}
    (h : lookup.Orders k key (lookup.ofList multi k key xs)) :
    lookup.Arranged multi k key (lookup.ofList multi k key xs) := by
  cases lookup with
  | ordered => exact foldl_insertOrdered_sorted h xs [] (fun x hx => ⟨x, hx, rfl⟩) .nil
  | hashed => exact h

end Lookup

end SerializerContract
