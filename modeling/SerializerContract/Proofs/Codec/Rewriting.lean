import SerializerContract.Proofs.Codec.Renewal

/-! Writing the very bytes that were read. That is so for every part whose elements are all kept, in the order in
which they were listed. -/
namespace SerializerContract

/-- A length field, and as many elements in a certain order. They are collected to the value. -/
def Layout.listed {α ε : Type} (format : Format) (layout : Layout ε) (collect : List ε → α)
    (sorted : List ε → Prop) : Layout α := fun bytes v =>
  ∃ field body xs, bytes = field ++ body ∧ lengthField format xs.length field ∧ Each layout body xs ∧
    v = collect xs ∧ sorted xs

/-- Elements that stay in their order are the value. -/
theorem Layout.listed_iff {ε : Type} {format : Format} {layout : Layout ε} {collect : List ε → List ε}
    {sorted : List ε → Prop} (hCollect : ∀ xs, sorted xs → collect xs = xs) {bytes : Bytes} {v : List ε} :
    listed format layout collect sorted bytes v ↔ counted format layout id bytes v ∧ sorted v := by
  constructor
  · rintro ⟨field, body, xs, hBytes, hField, hEach, hValue, hSorted⟩
    rw [hCollect xs hSorted] at hValue
    exact ⟨⟨field, body, xs, hBytes, hField, hEach, hValue⟩, hValue ▸ hSorted⟩
  · rintro ⟨⟨field, body, xs, hBytes, hField, hEach, rfl⟩, hSorted⟩
    exact ⟨field, body, v, hBytes, hField, hEach, (hCollect v hSorted).symm, hSorted⟩

namespace Codec

variable {α β ε : Type}

/-- What stands for a value in the layout is what is written for the value. -/
def Rewrites (codec : Codec α) (layout : Layout α) : Prop :=
  ∀ front v, layout front v → codec.encode v = .done front

/-- A number is written as the bytes that it was read from. -/
theorem number_rewrites (order : ByteOrder) (n : Nat) : (number order n).Rewrites (.number order n) := by
  rintro front v ⟨hFront, hValue⟩
  simp only [number, hValue, order.toBytes_ofBytes hFront]

theorem byte_rewrites : byte.Rewrites .byte := by
  rintro front v rfl
  rfl

theorem nothing_rewrites : nothing.Rewrites .nothing := by
  rintro front v rfl
  rfl

/-- A pair is written as the bytes that it was read from, if both parts are. -/
theorem both_rewrites {first : Codec α} {second : Codec β} {one : Layout α} {two : Layout β}
    (hFirst : first.Rewrites one) (hSecond : second.Rewrites two) :
    (both first second).Rewrites (.both one two) := by
  rintro front v ⟨front, back, rfl, hFront, hBack⟩
  have hEncode := hFirst front v.1 hFront
  rw [encode_both (congrArg Emitted.complete hEncode), hEncode, hSecond back v.2 hBack]
  rfl

/-- A row is written as the bytes that it was read from, if its elements are. -/
theorem row_rewrites {codec : Codec α} {layout : Layout α} (h : codec.Rewrites layout) (n : Nat) :
    (row codec n).Rewrites (.row layout n) := by
  induction n with
  | zero => exact nothing_rewrites
  | succ n ih => exact both_rewrites h ih

/-- A length is written as the only field that spells it. -/
theorem encodeLength_of_lengthField {format : Format} {n : Nat} {field : Bytes}
    (h : Layout.lengthField format n field) : encodeLength format n = .done field := by
  rw [encodeLength, if_pos h.le_maximum, ← h.2, format.order.toBytes_ofBytes h.1]

/-- Elements are written as the body that they were read from. -/
theorem encodeAll_of_each {codec : Codec ε} {layout : Layout ε} (h : codec.Rewrites layout) {body : Bytes}
    {xs : List ε} (each : Layout.Each layout body xs) : encodeAll codec xs = .done body := by
  induction each with
  | nil => rfl
  | cons first _ ih =>
      rw [encodeAll, h _ _ first, ih]
      rfl

/-- A container that holds what was listed, in that order, is written as it was listed. -/
theorem encode_of_counted {format : Format} {codec : Codec ε} {layout : Layout ε} (h : codec.Rewrites layout)
    {front : Bytes} {v : List ε} (hFront : Layout.counted format layout id front v) :
    (encodeLength format v.length).andThen (encodeAll codec v) = .done front := by
  obtain ⟨field, body, xs, rfl, hField, hEach, rfl⟩ := hFront
  rw [encodeLength_of_lengthField hField, encodeAll_of_each h hEach]
  rfl

end Codec

end SerializerContract
