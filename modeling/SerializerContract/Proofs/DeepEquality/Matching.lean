import Mathlib.Data.Fintype.EquivFin
import Mathlib.Data.List.Perm.Basic
import SerializerContract.Proofs.DeepEquality.Equivalence

/-! Hashed containers are equal if their elements can be paired off, each with one that it equals. Taking the
first free partner for each element finds such a pairing whenever there is one, since partners of one class are
as good as each other; so it does not matter in which order the containers list their elements. -/
namespace SerializerContract

/-- An equivalence of some values is one of fewer values. -/
theorem Equates.mono {α : Type} {equal : α → α → Except Failure Bool} {domain domain' : α → Prop}
    (h : Equates equal domain) (hDomain : ∀ a, domain' a → domain a) : Equates equal domain' where
  total a b ha hb := h.total a b (hDomain a ha) (hDomain b hb)
  refl a ha := h.refl a (hDomain a ha)
  symm a b ha hb := h.symm a b (hDomain a ha) (hDomain b hb)
  trans a b c ha hb hc := h.trans a b c (hDomain a ha) (hDomain b hb) (hDomain c hc)

/-- The types of hashed containers: of elements alone, or of values for keys. -/
inductive HashedType where
  | set (multi : Bool) (t : ValueType)
  | map (multi : Bool) (k v : ValueType)

namespace HashedType

def type : HashedType → ValueType
  | .set multi t => .set .hashed multi t
  | .map multi k v => .map .hashed multi k v

def element : HashedType → ValueType
  | .set _ t => t
  | .map _ k v => .entry k v

/-- The elements of a container in the order in which it lists them. -/
def elements : (c : HashedType) → c.type.Val → List c.element.Val
  | .set _ _, v => v
  | .map _ _ _, v => v

end HashedType

/-- The elements of two containers can be paired off so that all pairs are found equal. -/
def Matched {α : Type} (equal : α → α → Except Failure Bool) (xs ys : List α) : Prop :=
  ∃ partner : Fin xs.length → Fin ys.length,
    Function.Bijective partner ∧ ∀ i, equal (xs.get i) (ys.get (partner i)) = .ok true

section Pairings

variable {α κ : Type} {xs ys : List α}

open Classical in
/-- Rearranging a list moves every position to another. -/
theorem exists_bijective_of_perm (h : xs.Perm ys) :
    ∃ move : Fin xs.length → Fin ys.length, Function.Bijective move ∧ ∀ i, ys.get (move i) = xs.get i :=
  ⟨h.idxBij, ⟨h.idxBij_injective, h.idxBij_surjective⟩, h.getElem_idxBij_eq_getElem⟩

/-- Elements that are paired off by their keys have the same keys, in some order. -/
theorem perm_map_of_bijective {key : α → κ} {move : Fin xs.length → Fin ys.length} (hMove : Function.Bijective move)
    (h : ∀ i, key (xs.get i) = key (ys.get (move i))) : (xs.map key).Perm (ys.map key) := by
  have hKeys (zs : List α) : Multiset.map (fun i : Fin zs.length => key (zs.get i)) Finset.univ.val = zs.map key := by
    rw [Fin.univ_val_map, ← Function.comp_def key, ← List.map_ofFn, List.ofFn_get]
  apply Multiset.coe_eq_coe.mp
  calc (xs.map key : Multiset κ)
    _ = Multiset.map (fun i => key (ys.get (move i))) Finset.univ.val := by rw [← hKeys, funext h]
    _ = Multiset.map (fun i => key (ys.get i)) (Multiset.map move Finset.univ.val) := by rw [Multiset.map_map]; rfl
    _ = ys.map key := by rw [(Multiset.bijective_iff_map_univ_eq_univ move).mp hMove, hKeys]

/-- Where elements are found equal exactly if they are of one class, they can be paired off exactly if there are
as many of each class on either side. -/
theorem matched_iff_perm {equal : α → α → Except Failure Bool} {key : α → κ}
    (h : ∀ x ∈ xs, ∀ y ∈ ys, (equal x y = .ok true ↔ key x = key y)) :
    Matched equal xs ys ↔ (xs.map key).Perm (ys.map key) := by
  constructor
  · rintro ⟨partner, hBijective, hEqual⟩
    exact perm_map_of_bijective hBijective fun i => (h _ (xs.get_mem i) _ (ys.get_mem _)).mp (hEqual i)
  · intro hPerm
    obtain ⟨move, hMove, hKey⟩ := exists_bijective_of_perm hPerm
    have hFront : xs.length = (xs.map key).length := (List.length_map key).symm
    have hBack : (ys.map key).length = ys.length := List.length_map key
    refine ⟨finCongr hBack ∘ move ∘ finCongr hFront,
      (finCongr hBack).bijective.comp (hMove.comp (finCongr hFront).bijective), fun i => ?_⟩
    refine (h _ (xs.get_mem i) _ (ys.get_mem _)).mpr ?_
    have hSame := hKey (finCongr hFront i)
    rw [List.get_eq_getElem, List.get_eq_getElem, List.getElem_map, List.getElem_map] at hSame
    exact hSame.symm

/-- A pairing is one of the elements in any other order, too. -/
theorem Matched.of_perm {equal : α → α → Except Failure Bool} {xs' ys' : List α} (h : Matched equal xs ys)
    (hx : xs'.Perm xs) (hy : ys.Perm ys') : Matched equal xs' ys' := by
  obtain ⟨partner, hPartner, hEqual⟩ := h
  obtain ⟨front, hFront, hSame⟩ := exists_bijective_of_perm hx
  obtain ⟨back, hBack, hSame'⟩ := exists_bijective_of_perm hy
  refine ⟨back ∘ partner ∘ front, hBack.comp (hPartner.comp hFront), fun i => ?_⟩
  have hPair := hEqual (front i)
  rw [hSame] at hPair
  simp only [Function.comp_apply, hSame', hPair]

end Pairings

namespace Checker

/-- Hashed containers are compared by the equality of their elements as long as nothing is registered, and by
deep equality of their elements otherwise; a comparator for the container as a whole comes first. -/
theorem equals_hashed {checker : Checker} {c : HashedType} (h : checker.find c.type = none) (xs ys : c.type.Val) :
    checker.equals c.type xs ys =
      unorderedEqual (if c.element.hasEquality && checker.isEmpty then fun x y => .ok (c.element.same x y)
        else checker.equals c.element) (c.elements xs) (c.elements ys) := by
  cases c with
  | set multi t =>
      change checker.equals (.set .hashed multi t) xs ys = _
      change checker.find (.set .hashed multi t) = none at h
      rw [equals, orElse_of_find h]
      exact congrFun₂ (checker.hashedEqual_eq t.hasEquality t.same (checker.equals t)) xs ys
  | map multi k v =>
      change checker.equals (.map .hashed multi k v) xs ys = _
      change checker.find (.map .hashed multi k v) = none at h
      rw [equals, orElse_of_find h]
      exact congrFun₂ (checker.hashedEqual_eq (ValueType.entry k v).hasEquality (ValueType.entry k v).same
        (checker.equals (.entry k v))) xs ys

/-- Once anything is registered, no container asks the equality of its elements any more. -/
theorem not_own_of_some {checker : Checker} (hSome : checker.isEmpty = false) (hasEquality : Bool) :
    ¬ (hasEquality && checker.isEmpty) = true := by
  rw [hSome, Bool.and_false]
  exact Bool.false_ne_true

variable {α : Type} {equal : α → α → Except Failure Bool} {xs ys : List α}

/-- The first free partner for each element leads to a pairing whenever there is one. -/
theorem unorderedEqual_iff_matched (h : Equates equal fun x => x ∈ xs ∨ x ∈ ys) :
    ∃ verdict, unorderedEqual equal xs ys = .ok verdict ∧ (verdict = true ↔ Matched equal xs ys) := by
  obtain ⟨κ, key, hEqual, -⟩ : Sorts equal _ False Eq := .of_equates h nofun
  have hVerdict (x : α) (hx : x ∈ xs) (y : α) (hy : y ∈ ys) := hEqual x y (.inl hx) (.inr hy)
  have hKey (x : α) (hx : x ∈ xs) (y : α) (hy : y ∈ ys) : equal x y = .ok true ↔ key x = key y := by
    obtain ⟨verdict, hOk, hSame⟩ := hVerdict x hx y hy
    rw [hOk, ← hSame, Except.ok.injEq]
  rw [matched_iff_perm hKey, unorderedEqual]
  by_cases hLength : xs.length = ys.length
  · rw [if_neg (by simpa using hLength)]
    exact allFound_outcome hLength hVerdict
  · rw [if_pos (by simpa using hLength)]
    refine ⟨false, rfl, iff_of_false Bool.false_ne_true fun hPerm => hLength ?_⟩
    simpa using hPerm.length_eq

/-- On a checker with some comparator, for which deep equality always answers about the elements of two hashed
containers and is an equivalence of them, the containers are equal exactly if there is a bijection between their
elements that pairs equal ones only, and the answer is the same for every order in which they may list their
elements. Only a comparator for the containers themselves overrules this. -/
theorem hashed_equal_iff_matched {checker : Checker} (hSome : checker.isEmpty = false) (c : HashedType)
    (xs ys : c.type.Val) (h : Equates (checker.equals c.element) fun x => x ∈ c.elements xs ∨ x ∈ c.elements ys) :
    ∃ verdict, (verdict = true ↔ Matched (checker.equals c.element) (c.elements xs) (c.elements ys)) ∧
      ∀ xs' ys' : c.type.Val, (c.elements xs').Perm (c.elements xs) → (c.elements ys').Perm (c.elements ys) →
        checker.equals c.type xs' ys' = checker.orElse c.type (fun _ _ => .ok verdict) xs' ys' := by
  obtain ⟨verdict, -, hMatched⟩ := unorderedEqual_iff_matched h
  refine ⟨verdict, hMatched, fun xs' ys' hx hy => ?_⟩
  cases hFind : checker.find c.type with
  | some comparator => rw [equals_of_find hFind, orElse, hFind, Option.getD_some]
  | none =>
      have hSame : Equates (checker.equals c.element) fun x => x ∈ c.elements xs' ∨ x ∈ c.elements ys' :=
        h.mono fun x => Or.imp hx.mem_iff.mp hy.mem_iff.mp
      obtain ⟨verdict', hVerdict', hMatched'⟩ := unorderedEqual_iff_matched hSame
      have hEqual : verdict' = verdict := by
        rw [Bool.eq_iff_iff, hMatched, hMatched']
        exact ⟨fun h => h.of_perm hx.symm hy, fun h => h.of_perm hx hy.symm⟩
      rw [equals_hashed hFind, if_neg (not_own_of_some hSome _), hVerdict', hEqual, orElse_of_find hFind]

section LastDigits

/-- Numbers, some of them more than once. -/
abbrev handful : HashedType := .set true .int32

def byLastDigit : Checker := register {} .int32 (Comparator.on fun v => (Scalar.int32.toInt v).tmod 10)

/-- One and eleven are of one class, and so are the last two of the others. -/
def someNumbers : handful.type.Val := [1#32, 11#32, 2#32]

def otherNumbers : handful.type.Val := [12#32, 21#32, 31#32]

/-- Numbers that are compared by their last digits pair off, although no two of them are the same. -/
theorem hashed_equal_iff_matched_last_digits :
    byLastDigit.isEmpty = false ∧
    (Equates (byLastDigit.equals handful.element) fun x =>
      x ∈ handful.elements someNumbers ∨ x ∈ handful.elements otherNumbers) ∧
    byLastDigit.equals handful.type someNumbers otherNumbers = .ok true ∧
    Matched (byLastDigit.equals handful.element) (handful.elements someNumbers) (handful.elements otherNumbers) := by
  have hComparator : Equates (byLastDigit.equals handful.element) fun _ => True := by
    have hFind := find_register {} .int32 (Comparator.on fun v => (Scalar.int32.toInt v).tmod 10)
    exact (congrArg (Equates · fun _ => True) (equals_of_find hFind)).mpr (Comparator.on_equates _)
  have hEquates : Equates (byLastDigit.equals handful.element) fun x =>
      x ∈ handful.elements someNumbers ∨ x ∈ handful.elements otherNumbers := hComparator.mono fun _ _ => trivial
  have hEqual : byLastDigit.equals handful.type someNumbers otherNumbers = .ok true := rfl
  obtain ⟨verdict, hMatched, hOrders⟩ := hashed_equal_iff_matched rfl handful someNumbers otherNumbers hEquates
  have hVerdict : byLastDigit.equals handful.type someNumbers otherNumbers = .ok verdict :=
    hOrders someNumbers otherNumbers (.refl _) (.refl _)
  rw [hEqual, Except.ok.injEq] at hVerdict
  exact ⟨rfl, hEquates, hEqual, hMatched.mp hVerdict.symm⟩

end LastDigits

end Checker

end SerializerContract
