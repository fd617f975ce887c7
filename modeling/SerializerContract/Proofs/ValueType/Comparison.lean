import SerializerContract.ValueType.Kind
import SerializerContract.Proofs.ValueType.Insertion

/-! A type's own order. On the values of every type that can be written it is a strict weak order, as long as no
NaN is among them: a NaN is neither before nor behind anything. -/
namespace SerializerContract

namespace StrictOrder

variable {α β : Type} {less : α → α → Bool} {p : α → Prop}

theorem mono (h : StrictOrder less p) {q : α → Prop} (hq : ∀ a, q a → p a) : StrictOrder less q where
  asymm a b ha hb := h.asymm a b (hq a ha) (hq b hb)
  trans a b c ha hb hc := h.trans a b c (hq a ha) (hq b hb) (hq c hc)

/-- An order on a part of the values orders the values. -/
theorem comap (h : StrictOrder less p) (part : β → α) :
    StrictOrder (fun a b => less (part a) (part b)) fun a => p (part a) where
  asymm a b := h.asymm (part a) (part b)
  trans a b c := h.trans (part a) (part b) (part c)

/-- Values that are compared by whole numbers. -/
theorem of_rank (rank : α → Int) (h : ∀ a b, p a → p b → (less a b = true ↔ rank a < rank b)) :
    StrictOrder less p where
  asymm a b ha hb hLess := by
    rw [h a b ha hb] at hLess
    rw [← Bool.not_eq_true, h b a hb ha]
    omega
  trans a b c ha hb hc hab hbc := by
    rw [← Bool.not_eq_true, h b a hb ha] at hab
    rw [← Bool.not_eq_true, h c b hc hb] at hbc
    rw [← Bool.not_eq_true, h c a hc ha]
    omega

/-! ## Orders by first and then by second parts -/

section Parts

variable {less' : β → β → Bool} {a b c : α × β}

theorem pairLess_eq_false : pairLess less less' a b = false ↔
    less a.1 b.1 = false ∧ (less b.1 a.1 = true ∨ less' a.2 b.2 = false) := by
  unfold pairLess
  cases less b.1 a.1 <;> simp

theorem pairLess_asymm (h : StrictOrder less p) (ha : p a.1) (hb : p b.1)
    (hSecond : less' a.2 b.2 = true → less' b.2 a.2 = false) (hLess : pairLess less less' a b = true) :
    pairLess less less' b a = false := by
  rw [pairLess_eq_false]
  simp only [pairLess, Bool.or_eq_true, Bool.and_eq_true, Bool.not_eq_true'] at hLess
  rcases hLess with hFirst | ⟨hFirst, hRest⟩
  · exact ⟨h.asymm _ _ ha hb hFirst, .inl hFirst⟩
  · exact ⟨hFirst, .inr (hSecond hRest)⟩

theorem pairLess_trans (h : StrictOrder less p) (ha : p a.1) (hb : p b.1) (hc : p c.1)
    (hSecond : less' b.2 a.2 = false → less' c.2 b.2 = false → less' c.2 a.2 = false)
    (hab : pairLess less less' b a = false) (hbc : pairLess less less' c b = false) :
    pairLess less less' c a = false := by
  rw [pairLess_eq_false] at hab hbc ⊢
  obtain ⟨hab, hab'⟩ := hab
  obtain ⟨hbc, hbc'⟩ := hbc
  refine ⟨h.trans _ _ _ ha hb hc hab hbc, ?_⟩
  cases hac : less a.1 c.1 with
  | true => exact .inl rfl
  | false =>
      -- The first parts are all equivalent, so the second parts decide.
      have hFirst := h.trans _ _ _ hb hc ha hbc hac
      have hLast := h.trans _ _ _ hc ha hb hac hab
      exact .inr (hSecond (hab'.resolve_left (by simp [hFirst])) (hbc'.resolve_left (by simp [hLast])))

/-- Pairs are ordered by their first components, and by the second ones where these do not decide. -/
theorem both {p' : β → Prop} (h : StrictOrder less p) (h' : StrictOrder less' p') :
    StrictOrder (pairLess less less') fun v => p v.1 ∧ p' v.2 where
  asymm _ _ ha hb := h.pairLess_asymm ha.1 hb.1 (h'.asymm _ _ ha.2 hb.2)
  trans _ _ _ ha hb hc := h.pairLess_trans ha.1 hb.1 hc.1 (h'.trans _ _ _ ha.2 hb.2 hc.2)

end Parts

theorem listLess_cons (x y : α) (xs ys : List α) :
    listLess less (x :: xs) (y :: ys) = pairLess less (listLess less) (x, xs) (y, ys) := rfl

/-- Lists are ordered lexicographically. -/
theorem list (h : StrictOrder less p) : StrictOrder (listLess less) fun xs => ∀ x ∈ xs, p x where
  asymm xs ys hxs hys hLess := by
    induction xs generalizing ys with
    | nil =>
        cases ys with
        | nil => cases hLess
        | cons => rfl
    | cons x xs ih =>
        cases ys with
        | nil => cases hLess
        | cons y ys =>
            rw [listLess_cons] at hLess ⊢
            rw [List.forall_mem_cons] at hxs hys
            exact h.pairLess_asymm hxs.1 hys.1 (ih ys hxs.2 hys.2) hLess
  trans xs ys zs hxs hys hzs hab hbc := by
    induction xs generalizing ys zs with
    | nil =>
        cases zs with
        | nil => rfl
        | cons => rfl
    | cons x xs ih =>
        cases ys with
        | nil => cases hab
        | cons y ys =>
            cases zs with
            | nil => cases hbc
            | cons z zs =>
                rw [listLess_cons] at hab hbc ⊢
                rw [List.forall_mem_cons] at hxs hys hzs
                exact h.pairLess_trans hxs.1 hys.1 hzs.1 (ih ys zs hxs.2 hys.2 hzs.2) hab hbc

end StrictOrder

mutual
/-- No NaN is in a value, at any depth. -/
def ValueType.NaNFree : (t : ValueType) → t.Val → Prop
  | .scalar s, v => s.isNaN v = false
  | .enumeration _ s, v => s.isNaN v = false
  | .text _, _ => True
  | .record _ _, _ => True
  | .optional _, _ => True
  | .pointer _ _, _ => True
  | .pair a b, v => a.NaNFree v.1 ∧ b.NaNFree v.2
  | .entry k t, v => k.NaNFree v.1 ∧ t.NaNFree v.2
  | .tuple t rest, v => t.NaNFree v.1 ∧ rest.NaNFree v.2
  | .array _ t, v => ∀ x ∈ v.toList, t.NaNFree x
  | .sequence _ t, (xs : List t.Val) => ∀ x ∈ xs, t.NaNFree x
  | .set _ _ t, (xs : List t.Val) => ∀ x ∈ xs, t.NaNFree x
  | .map _ _ k t, (xs : List (k.Val × t.Val)) => ∀ x ∈ xs, k.NaNFree x.1 ∧ t.NaNFree x.2

def FieldTypes.NaNFree : (ts : FieldTypes) → ts.Val → Prop
  | .nil, _ => True
  | .cons t rest, v => t.NaNFree v.1 ∧ rest.NaNFree v.2
end

/-- Numbers are strictly ordered once NaN is left out. -/
theorem Scalar.less_strictOrder (s : Scalar) : StrictOrder s.less fun v => s.isNaN v = false := by
  cases hFormat : s.floatFormat with
  | none => exact .of_rank s.toInt fun a b _ _ => by simp [less, hFormat]
  | some format =>
      refine .of_rank (fun v => format.rank (s.floatBits v)) fun a b ha hb => ?_
      simp only [isNaN, hFormat] at ha hb
      simp [less, hFormat, FloatFormat.less, ha, hb]

theorem byteLess_strictOrder : StrictOrder byteLess fun _ => True :=
  .of_rank (fun byte => byte.toNat) fun a b _ _ => by simp [byteLess, UInt8.lt_iff_toNat_lt]

mutual
/-- Values without NaN are strictly ordered, by recursion on their type. -/
theorem ValueType.less_strictOrder : (t : ValueType) → t.Serializable → StrictOrder t.less t.NaNFree
  | .scalar s, _ => s.less_strictOrder
  | .enumeration _ s, _ => s.less_strictOrder
  | .text .owned, _ => byteLess_strictOrder.list.mono fun _ _ _ _ => trivial
  | .pair a b, h => (a.less_strictOrder h.1).both (b.less_strictOrder h.2)
  | .entry k t, h => (k.less_strictOrder h.1).both (t.less_strictOrder h.2)
  | .tuple t rest, h => (t.less_strictOrder h.1).both (rest.less_strictOrder h.2)
  | .array _ t, h => (t.less_strictOrder h.2).list.comap Row.toList
  | .sequence _ t, h => (t.less_strictOrder h.2).list
  | .set _ _ t, h => (t.less_strictOrder h).list
  | .map _ _ k t, h => ((k.less_strictOrder h.1).both (t.less_strictOrder h.2)).list

theorem FieldTypes.less_strictOrder : (ts : FieldTypes) → ts.Serializable → StrictOrder ts.less ts.NaNFree
  | .nil, _ => ⟨fun _ _ _ _ _ => rfl, fun _ _ _ _ _ _ _ _ => rfl⟩
  | .cons t rest, h => (t.less_strictOrder h.1).both (rest.less_strictOrder h.2)
end

end SerializerContract
