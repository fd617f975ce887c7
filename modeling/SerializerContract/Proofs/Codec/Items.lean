import SerializerContract.Proofs.Codec.RoundTrip

/-! What a value is written as. Items are the numbers and lengths of a value in the order in which they are
written, without a byte order or a width of lengths. An encoder writes them one after the other, up to the first
length that does not fit. -/
namespace SerializerContract

/-- A number in so many bytes, or the length of a container. -/
inductive Item where
  | number (size value : Nat)
  | length (n : Nat)
deriving DecidableEq, Repr

namespace Item

variable (format : Format)

def bytes : Item → Bytes
  | .number size value => format.order.toBytes size value
  | .length n => format.order.toBytes format.length.bytes n

/-- A length may be too large for the width of lengths. -/
def Fits : Item → Prop
  | .number _ _ => True
  | .length n => n ≤ format.length.maximum

instance (item : Item) : Decidable (item.Fits format) :=
  match item with
  | .number _ _ => inferInstanceAs (Decidable True)
  | .length n => inferInstanceAs (Decidable (n ≤ format.length.maximum))

def emitted : Item → Emitted
  | .number size value => .done (format.order.toBytes size value)
  | .length n => Codec.encodeLength format n

/-- Some items, one directly after the other. -/
def wire (items : List Item) : Bytes := items.flatMap (bytes format)

/-- Some items, written one after the other. -/
def emitAll : List Item → Emitted
  | [] => .done []
  | item :: items => (item.emitted format).andThen (emitAll items)

@[simp] theorem wire_nil : wire format [] = [] := rfl

@[simp] theorem wire_cons (item : Item) (items : List Item) :
    wire format (item :: items) = item.bytes format ++ wire format items := rfl

@[simp] theorem wire_append (front back : List Item) :
    wire format (front ++ back) = wire format front ++ wire format back := by
  simp [wire]

variable {format}

/-- An item that fits is written whole. -/
theorem emitted_of_fits {item : Item} (h : item.Fits format) :
    item.emitted format = .done (item.bytes format) := by
  cases item with
  | number size value => rfl
  | length n => exact if_pos h

/-- An item that does not fit leaves no byte. -/
theorem emitted_of_not_fits {item : Item} (h : ¬ item.Fits format) : item.emitted format = .refused := by
  cases item with
  | number size value => exact absurd trivial h
  | length n => exact if_neg h

end Item

namespace Emitted

@[simp] theorem done_andThen (bytes : Bytes) (next : Emitted) :
    (done bytes).andThen next = ⟨bytes ++ next.bytes, next.complete⟩ := rfl

@[simp] theorem refused_andThen (next : Emitted) : refused.andThen next = refused := rfl

@[simp] theorem andThen_done_nil (first : Emitted) : first.andThen (done []) = first := by
  cases first with
  | mk bytes complete => cases complete <;> simp [andThen, done]

/-- How the parts of a writing are grouped does not count. -/
theorem andThen_assoc (one two three : Emitted) :
    (one.andThen two).andThen three = one.andThen (two.andThen three) := by
  by_cases hOne : one.complete = true <;> by_cases hTwo : two.complete = true <;>
    simp [andThen, hOne, hTwo]

end Emitted

namespace Item

variable {format : Format}

/-- Items are written up to the first that does not fit, in two parts as in one. -/
theorem emitAll_append (front back : List Item) :
    emitAll format (front ++ back) = (emitAll format front).andThen (emitAll format back) := by
  induction front with
  | nil => rfl
  | cons item front ih => rw [List.cons_append, emitAll, emitAll, ih, Emitted.andThen_assoc]

/-- Items that all fit are written one after the other. -/
theorem emitAll_of_fits {items : List Item} (h : ∀ item ∈ items, item.Fits format) :
    emitAll format items = .done (wire format items) := by
  induction items with
  | nil => rfl
  | cons item items ih =>
      rw [emitAll, emitted_of_fits (h item List.mem_cons_self),
        ih fun other hOther => h other (List.mem_cons_of_mem _ hOther)]
      rfl

/-- The first length that does not fit ends it. -/
theorem emitAll_of_not_fits {before after : List Item} {item : Item}
    (hBefore : ∀ other ∈ before, other.Fits format) (h : ¬ item.Fits format) :
    emitAll format (before ++ item :: after) = ⟨wire format before, false⟩ := by
  rw [emitAll_append, emitAll_of_fits hBefore, emitAll, emitted_of_not_fits h, Emitted.refused_andThen,
    Emitted.done_andThen, Emitted.refused, List.append_nil]

/-- Among some items that do not all fit there is a first that does not, and it is a length. -/
theorem exists_first {items : List Item} (h : ∃ item ∈ items, ¬ item.Fits format) :
    ∃ before n after, items = before ++ .length n :: after ∧ format.length.maximum < n ∧
      ∀ item ∈ before, item.Fits format := by
  cases hFind : items.find? fun item => !decide (item.Fits format) with
  | none =>
      obtain ⟨item, hItem, hFits⟩ := h
      have hAll := List.find?_eq_none.mp hFind item hItem
      simp [hFits] at hAll
  | some item =>
      obtain ⟨hFits, before, after, rfl, hBefore⟩ := List.find?_eq_some_iff_append.mp hFind
      simp only [Bool.not_eq_eq_eq_not, Bool.not_true, decide_eq_false_iff_not] at hFits
      cases item with
      | number size value => exact absurd trivial hFits
      | length n => exact ⟨before, n, after, rfl, Nat.not_le.mp hFits, by simpa using hBefore⟩

end Item

namespace Codec

variable {α β ε : Type} {format : Format}

/-- An encoder writes the items of a value one after the other. -/
def Itemizes (codec : Codec α) (format : Format) (items : α → List Item) : Prop :=
  ∀ v, codec.encode v = Item.emitAll format (items v)

theorem number_itemizes (n : Nat) :
    (number format.order n).Itemizes format fun v => [.number n v.toNat] := by
  intro v
  rw [Item.emitAll, Item.emitAll, Emitted.andThen_done_nil]
  rfl

theorem toBytes_one (order : ByteOrder) (v : UInt8) : order.toBytes 1 v.toNat = [v] := by
  cases order <;> simp [ByteOrder.toBytes, Bytes.littleEndian]

theorem byte_itemizes : byte.Itemizes format fun v => [.number 1 v.toNat] := by
  intro v
  rw [Item.emitAll, Item.emitAll, Emitted.andThen_done_nil, Item.emitted, toBytes_one]
  rfl

theorem nothing_itemizes : nothing.Itemizes format fun _ => [] := fun _ => rfl

/-- Two parts are written as the items of the one and then those of the other. -/
theorem both_itemizes {first : Codec α} {second : Codec β} {one : α → List Item} {two : β → List Item}
    (hFirst : first.Itemizes format one) (hSecond : second.Itemizes format two) :
    (both first second).Itemizes format fun v => one v.1 ++ two v.2 := by
  intro v
  rw [Item.emitAll_append, ← hFirst, ← hSecond]
  rfl

/-- A row is written as the items of its elements. -/
theorem row_itemizes {codec : Codec α} {items : α → List Item} (h : codec.Itemizes format items) (n : Nat) :
    (row codec n).Itemizes format fun v => v.toList.flatMap items := by
  induction n with
  | zero => exact nothing_itemizes
  | succ n ih => exact both_itemizes h ih

/-- Elements are written as their items, one after the other. -/
theorem encodeAll_itemizes {codec : Codec ε} {items : ε → List Item} (h : codec.Itemizes format items)
    (xs : List ε) : encodeAll codec xs = Item.emitAll format (xs.flatMap items) := by
  induction xs with
  | nil => rfl
  | cons x xs ih => rw [List.flatMap_cons, Item.emitAll_append, ← h, ← ih, encodeAll]

/-- A container, contiguous or not, is its length and its elements. -/
theorem counted_itemizes {codec : Codec ε} {items : ε → List Item} (h : codec.Itemizes format items)
    (xs : List ε) : (encodeLength format xs.length).andThen (encodeAll codec xs) =
      Item.emitAll format (.length xs.length :: xs.flatMap items) := by
  rw [encodeAll_itemizes h, Item.emitAll]
  rfl

end Codec

end SerializerContract
