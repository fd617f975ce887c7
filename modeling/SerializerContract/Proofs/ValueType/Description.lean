import SerializerContract.ValueType.Describe
import SerializerContract.ValueType.Dynamic
import SerializerContract.ValueType.Expression

/-! Descriptions of values that are shown by their elements. Between two elements there is a separator, unless
nothing has been shown before: elements that show nothing are lost from the front. -/
namespace SerializerContract

/-! ## Elements joined by separators -/

/-- Once something is shown, every further element is separated from it. -/
theorem foldl_addElement {text : String} (h : text ≠ "") (elements : List String) :
    elements.foldl addElement text = ", ".intercalate (text :: elements) := by
  induction elements generalizing text with
  | nil => exact String.intercalate_singleton.symm
  | cons element rest ih =>
      have hText : text.isEmpty = false := by simpa using h
      have hNext : addElement text element = text ++ ", " ++ element := by
        rw [addElement, hText]
        rfl
      have hShown : text ++ ", " ++ element ≠ "" := by simp [h]
      rw [List.foldl_cons, hNext, ih hShown, String.intercalate_cons_append, String.intercalate_cons_cons]

/-- Elements are joined from the first one on that shows anything. -/
theorem joinElements_eq (elements : List String) :
    joinElements elements = ", ".intercalate (elements.dropWhile String.isEmpty) := by
  induction elements with
  | nil => exact String.intercalate_nil.symm
  | cons element rest ih =>
      have hFirst : joinElements (element :: rest) = rest.foldl addElement element := by
        rw [joinElements, List.foldl_cons]
        rfl
      rw [hFirst, List.dropWhile_cons]
      by_cases hEmpty : element = ""
      · subst hEmpty
        exact ih
      · rw [if_neg (by simpa using hEmpty)]
        exact foldl_addElement hEmpty rest

/-- Leaving out empty elements in front never makes the joined text longer. -/
theorem length_intercalate_dropWhile_le (separator : String) (elements : List String) :
    (separator.intercalate (elements.dropWhile String.isEmpty)).length ≤ (separator.intercalate elements).length := by
  induction elements with
  | nil => exact Nat.le_refl _
  | cons element rest ih =>
      rw [List.dropWhile_cons]
      split
      · refine Nat.le_trans ih ?_
        cases rest with
        | nil => simp
        | cons next others =>
            rw [String.intercalate_cons_cons, String.length_append]
            exact Nat.le_add_left _ _
      · exact Nat.le_refl _

/-- Nothing is lost if there is one element at most, or if the first one shows something. -/
theorem joinElements_eq_intercalate_iff (elements : List String) :
    joinElements elements = ", ".intercalate elements ↔ elements.length ≤ 1 ∨ elements.head? ≠ some "" := by
  rw [joinElements_eq]
  match elements with
  | [] => simp
  | [element] =>
      by_cases hEmpty : element = ""
      · simp [hEmpty]
      · simp [hEmpty]
  | element :: next :: rest =>
      by_cases hEmpty : element = ""
      · subst hEmpty
        have hShorter := length_intercalate_dropWhile_le ", " (next :: rest)
        have hLost : ", ".intercalate ((next :: rest).dropWhile String.isEmpty) ≠
            ", ".intercalate ("" :: next :: rest) := by
          intro hSame
          have hLength := congrArg String.length hSame
          rw [String.intercalate_cons_cons, String.length_append] at hLength
          change _ = 2 + _ at hLength
          omega
        exact iff_of_false hLost (by simp)
      · simp [hEmpty]

/-! ## Values that show nothing -/

theorem Decimal.withPoint_ne_nil {whole : List Char} (h : whole ≠ []) (fraction : List Char) :
    withPoint whole fraction ≠ [] := by
  rw [withPoint]
  split
  · exact h
  · exact List.append_ne_nil_of_left_ne_nil h _

theorem Decimal.Style.layout_ne_nil (style : Style) (digits : Nat) (exponent : Int) :
    style.layout digits exponent ≠ [] := by
  rw [layout]
  split
  · exact List.append_ne_nil_of_right_ne_nil _ (List.cons_ne_nil _ _)
  · split
    · exact withPoint_ne_nil (List.cons_ne_nil _ _) _
    · refine withPoint_ne_nil ?_ _
      rw [Nat.toList_repr]
      simp [List.take_eq_nil_iff]

/-- Every number has a text, infinities and NaN included. -/
theorem Decimal.Style.text_ne_empty (style : Style) (format : FloatFormat) (bits : Nat) :
    style.text format bits ≠ "" := by
  have hBody {sign body : List Char} (h : body ≠ []) : String.ofList (sign ++ body) ≠ "" := by
    simp [h]
  rw [text]
  refine hBody ?_
  split
  · exact List.cons_ne_nil _ _
  · split
    · exact List.cons_ne_nil _ _
    · split
      · exact List.cons_ne_nil _ _
      · exact style.layout_ne_nil _ _

theorem Bytes.toText_eq_empty_iff (bytes : Bytes) : Bytes.toText bytes = "" ↔ bytes = [] := by
  simp [Bytes.toText]

/-- No scalar is described by the empty text. -/
theorem Scalar.describe_ne_empty (s : Scalar) (v : s.Val) : s.describe v ≠ "" := by
  have hByte (byte : UInt8) : Bytes.toText [byte] ≠ "" := by simp [Bytes.toText]
  have hInt (n : Int) : n.repr ≠ "" := by
    cases n with
    | ofNat n => exact Nat.repr_ne_empty
    | negSucc n => simp [Int.repr]
  unfold describe
  split
  · split <;> decide
  · exact hByte _
  · split
    · exact Decimal.Style.text_ne_empty _ _ _
    · exact hInt _

/-- A text without a character that is shown as it is, by itself or as what is held or pointed to. -/
def ValueType.isBlank : (t : ValueType) → t.Val → Bool
  | .record _ .label, v => List.isEmpty (α := UInt8) v
  | .optional t, some v => t.isBlank v
  | .pointer _ t, some v => t.isBlank v.value
  | _, _ => false

/-- A record is described by the empty text exactly when it is blank. -/
theorem Record.describe_eq_empty_iff (name : DeclaredName) (r : Record) (v : r.Val) :
    r.describe name v = "" ↔ (ValueType.record name r).isBlank v = true := by
  cases r with
  | label => exact (Bytes.toText_eq_empty_iff v).trans List.isEmpty_iff.symm
  | shape => simp only [describe, describeShape]; split <;> simp [ValueType.isBlank]
  | _ => simp [describe, describeShape, placeholder, ValueType.isBlank]

/-- Only blank values show nothing: whatever else there is to show has marks or digits. -/
theorem ValueType.describe_eq_empty_iff : (t : ValueType) → (v : t.Val) →
    (t.describe v = "" ↔ t.isBlank v = true)
  | .record name r, v => by
      rw [describe]
      exact r.describe_eq_empty_iff name v
  | .optional t, some v => by
      rw [describe, isBlank]
      exact t.describe_eq_empty_iff v
  | .pointer _ t, some v => by
      rw [describe, isBlank]
      exact t.describe_eq_empty_iff v.value
  | .scalar s, v | .enumeration _ s, v => by
      rw [describe, isBlank]
      · exact iff_of_false (s.describe_ne_empty v) Bool.false_ne_true
      all_goals nofun
  | .array n t, v => by
      rw [describe]
      split <;> simp [isBlank]
  | .optional _, none | .pointer _ _, none | .text _, _ | .pair _ _, _ | .entry _ _, _ | .tuple _ _, _
  | .sequence _ _, _ | .set _ _ _, _ | .map _ _ _ _, _ => by simp [describe, isBlank]

/-! ## Values shown by their elements -/

namespace ValueType

/-- The marks around a value that is shown by its elements: a composition of parts in parentheses, a container
in brackets. An array without a place for an element has no parts. -/
def marks : ValueType → Option (String × String)
  | .pair _ _ => some ("(", ")")
  | .entry _ _ => some ("(", ")")
  | .tuple _ _ => some ("(", ")")
  | .array n _ => some (if n = 0 then ("[", "]") else ("(", ")"))
  | .sequence _ _ => some ("[", "]")
  | .set _ _ _ => some ("[", "]")
  | .map _ _ _ _ => some ("[", "]")
  | _ => none

end ValueType

def FieldTypes.elements : (ts : FieldTypes) → ts.Val → List TypedValue
  | .nil, _ => []
  | .cons t rest, v => ⟨t, v.1⟩ :: rest.elements v.2

/-- The parts of a composition, or the elements of a container in iteration order. -/
def ValueType.elements : (t : ValueType) → t.Val → List TypedValue
  | .pair a b, v => [⟨a, v.1⟩, ⟨b, v.2⟩]
  | .entry k t, v => [⟨k, v.1⟩, ⟨t, v.2⟩]
  | .tuple t rest, v => ⟨t, v.1⟩ :: rest.elements v.2
  | .array _ t, v => v.toList.map (⟨t, ·⟩)
  | .sequence _ t, v => v.map (⟨t, ·⟩)
  | .set _ _ t, v => v.map (⟨t, ·⟩)
  | .map _ _ k t, v => v.map (⟨.entry k t, ·⟩)
  | _, _ => []

namespace TypedValue

def describe (element : TypedValue) : String := element.type.describe element.value

def isBlank (element : TypedValue) : Bool := element.type.isBlank element.value

/-- Blank elements are those with an empty description. -/
theorem isEmpty_describe (element : TypedValue) : element.describe.isEmpty = element.isBlank := by
  rw [Bool.eq_iff_iff, String.isEmpty_iff]
  exact element.type.describe_eq_empty_iff element.value

end TypedValue

theorem FieldTypes.describe_eq_map_elements : (ts : FieldTypes) → (v : ts.Val) →
    ts.describe v = (ts.elements v).map TypedValue.describe
  | .nil, _ => rfl
  | .cons t rest, v => by
      rw [FieldTypes.describe, elements, List.map_cons, rest.describe_eq_map_elements]
      rfl

namespace ValueType

/-- A container is described by its elements between its marks. -/
theorem describe_eq_marked {t : ValueType} {opening closing : String} (hMarks : t.marks = some (opening, closing))
    (v : t.Val) : t.describe v = opening ++ joinElements ((t.elements v).map TypedValue.describe) ++ closing := by
  have hMapped {α : Type} (f : α → String) (typed : α → TypedValue) (hShown : ∀ x, (typed x).describe = f x)
      (xs : List α) : xs.map f = (xs.map typed).map TypedValue.describe := by
    rw [List.map_map]
    exact List.map_congr_left fun x _ => (hShown x).symm
  cases t with
  | pair | entry => cases hMarks; rfl
  | tuple t rest =>
      cases hMarks
      rw [describe, rest.describe_eq_map_elements]
      rfl
  | array n t =>
      cases n with
      | zero => cases hMarks; cases v; rfl
      | succ n =>
          cases hMarks
          exact congrArg (fun shown => "(" ++ joinElements shown ++ ")") (hMapped _ (⟨t, ·⟩) (fun _ => rfl) v.toList)
  | sequence _ t | set _ _ t =>
      cases hMarks
      exact congrArg (fun shown => "[" ++ joinElements shown ++ "]") (hMapped _ (⟨t, ·⟩) (fun _ => rfl) v)
  | map _ _ k t =>
      cases hMarks
      exact congrArg (fun shown => "[" ++ joinElements shown ++ "]")
        (hMapped _ (⟨.entry k t, ·⟩) (fun _ => rfl) v)
  | _ => cases hMarks

/-- A composition or container is shown as its marks around the descriptions of its elements from the first one on
that shows anything, with a separator between each two of them. So every element and every separator is there
exactly if there is one element at most or the first of them shows something. -/
theorem describe_by_elements {t : ValueType} {opening closing : String}
    (hMarks : t.marks = some (opening, closing)) (v : t.Val) :
    t.describe v =
      opening ++ ", ".intercalate (((t.elements v).dropWhile TypedValue.isBlank).map TypedValue.describe) ++ closing ∧
    (t.describe v = opening ++ ", ".intercalate ((t.elements v).map TypedValue.describe) ++ closing ↔
      (t.elements v).length ≤ 1 ∨ ∀ first ∈ (t.elements v).head?, first.isBlank = false) := by
  have hMarked := describe_eq_marked hMarks v
  have hCancel (a b : String) : opening ++ a ++ closing = opening ++ b ++ closing ↔ a = b := by
    simp [String.append_assoc]
  constructor
  · have hBlank : String.isEmpty ∘ TypedValue.describe = TypedValue.isBlank :=
      funext TypedValue.isEmpty_describe
    rw [hMarked, joinElements_eq, List.dropWhile_map, hBlank]
  · rw [hMarked, hCancel, joinElements_eq_intercalate_iff, List.length_map, List.head?_map]
    cases (t.elements v).head? with
    | none => simp
    | some first =>
        have hFirst : first.describe = "" ↔ first.isBlank = true := by
          rw [← String.isEmpty_iff, first.isEmpty_describe]
        simp [hFirst]

/-- A part that shows nothing behind one that does keeps its separators. -/
theorem describe_by_elements_labels :
    let label : ValueType := userRecord "Label" .label
    let labelled : ValueType := .tuple label (.cons label (.cons .int32 .nil))
    let value : labelled.Val := ([0x78], [], (3 : BitVec 32), ())
    labelled.marks = some ("(", ")") ∧
      (labelled.elements value).map TypedValue.describe = ["x", "", "3"] ∧ labelled.describe value = "(x, , 3)" := by
  intro label labelled value
  have hShown : (labelled.elements value).map TypedValue.describe = ["x", "", "3"] := by decide
  have hFirst : ∀ first ∈ (labelled.elements value).head?, first.isBlank = false := by
    intro first h
    cases h
    rfl
  have hAll := (describe_by_elements (t := labelled) rfl value).2.mpr (.inr hFirst)
  refine ⟨rfl, hShown, hAll.trans ?_⟩
  rw [hShown]
  rfl

/-- An element that shows nothing is lost from the front of a container, and its separator with it. -/
theorem blank_first_element_lost :
    let labels : ValueType := .sequence .vector (userRecord "Label" .label)
    let value : labels.Val := [[], [0x61]]
    labels.marks = some ("[", "]") ∧ (labels.elements value).map TypedValue.describe = ["", "a"] ∧
      labels.describe value ≠ "[" ++ ", ".intercalate ((labels.elements value).map TypedValue.describe) ++ "]" ∧
      labels.describe value = "[a]" := by
  decide

end ValueType

end SerializerContract
