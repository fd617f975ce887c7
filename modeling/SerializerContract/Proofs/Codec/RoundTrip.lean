import SerializerContract.Proofs.Codec.Layout

/-! Encoders write what decoders read. What a codec writes for a value is in the layout of the value,
provided that the value is one that the container's insertions lead to. -/
namespace SerializerContract

namespace Codec

variable {α β ε : Type}

/-- A complete encoding of a value is in the layout of that value. -/
def Writes (codec : Codec α) (layout : Layout α) (valid : α → Prop) : Prop :=
  ∀ v, valid v → (codec.encode v).complete = true → layout (codec.encode v).bytes v

/-- Numbers are written as all their bytes. -/
theorem number_writes (order : ByteOrder) (n : Nat) :
    (number order n).Writes (.number order n) fun _ => True := by
  intro v _ _
  have hLt : v.toNat < Nat.pow 256 n := by
    rw [pow_256_eq_two_pow]
    exact v.isLt
  exact ⟨order.length_toBytes n v.toNat, (order.ofBytes_toBytes_of_lt hLt).symm⟩

theorem byte_writes : byte.Writes .byte fun _ => True :=
  fun _ _ _ => rfl

theorem nothing_writes : nothing.Writes .nothing fun _ => True :=
  fun _ _ _ => rfl

/-- Only two complete encodings make a complete one. -/
theorem complete_andThen {first second : Emitted} (h : (first.andThen second).complete = true) :
    first.complete = true ∧ second.complete = true ∧
      (first.andThen second).bytes = first.bytes ++ second.bytes := by
  unfold Emitted.andThen at h ⊢
  cases hFirst : first.complete with
  | true => simpa [hFirst] using h
  | false => simp [hFirst] at h

/-- A pair is laid out as its parts, one after the other. -/
theorem both_writes {first : Codec α} {second : Codec β} {one : Layout α} {two : Layout β}
    {valid : α → Prop} {valid' : β → Prop} (hFirst : first.Writes one valid)
    (hSecond : second.Writes two valid') :
    (both first second).Writes (.both one two) fun v => valid v.1 ∧ valid' v.2 := by
  intro v hValid hComplete
  obtain ⟨hOne, hTwo, hBytes⟩ := complete_andThen hComplete
  exact ⟨_, _, hBytes, hFirst v.1 hValid.1 hOne, hSecond v.2 hValid.2 hTwo⟩

/-- A row is laid out as its elements, one after the other. -/
theorem row_writes {codec : Codec α} {layout : Layout α} {valid : α → Prop}
    (h : codec.Writes layout valid) (n : Nat) :
    (row codec n).Writes (.row layout n) fun v => ∀ x ∈ v.toList, valid x := by
  induction n with
  | zero => exact fun _ _ _ => rfl
  | succ n ih =>
      intro v hValid hComplete
      refine both_writes h ih v ⟨hValid v.1 ?_, fun x hx => hValid x ?_⟩ hComplete
      · exact List.mem_cons_self
      · exact List.mem_cons_of_mem _ hx

/-- Elements that are written to the end are laid out one after the other. -/
theorem encodeAll_each {codec : Codec ε} {layout : Layout ε} {valid : ε → Prop}
    (h : codec.Writes layout valid) (xs : List ε) (hValid : ∀ x ∈ xs, valid x)
    (hComplete : (encodeAll codec xs).complete = true) :
    Layout.Each layout (encodeAll codec xs).bytes xs := by
  induction xs with
  | nil => exact .nil
  | cons x xs ih =>
      obtain ⟨hFirst, hRest, hBytes⟩ := complete_andThen hComplete
      rw [encodeAll, hBytes]
      exact .cons (h x (hValid x List.mem_cons_self) hFirst)
        (ih (fun y hy => hValid y (List.mem_cons_of_mem _ hy)) hRest)

theorem maximum_lt (width : Width) : width.maximum < Nat.pow 256 width.bytes := by
  cases width <;> decide

/-- A length field that was written spells the length. -/
theorem encodeLength_spells {format : Format} {n : Nat}
    (hComplete : (encodeLength format n).complete = true) :
    Layout.lengthField format n (encodeLength format n).bytes := by
  unfold encodeLength at hComplete ⊢
  split at hComplete
  · next hFits =>
      rw [if_pos hFits]
      have hLt := Nat.lt_of_le_of_lt hFits (maximum_lt format.length)
      exact ⟨format.order.length_toBytes _ n, format.order.ofBytes_toBytes_of_lt hLt⟩
  · cases hComplete

/-- A container that was written whole is not too long for its length field. -/
theorem length_le_of_complete {format : Format} {n : Nat} {elements : Emitted}
    (hComplete : ((encodeLength format n).andThen elements).complete = true) :
    n ≤ format.length.maximum := by
  obtain ⟨hField, -, -⟩ := complete_andThen hComplete
  unfold encodeLength at hField
  split at hField
  · assumption
  · cases hField

/-- The bytes of a container, contiguous or not: a length field and the elements. -/
theorem encodeLength_andThen_encodeAll {format : Format} {codec : Codec ε} {layout : Layout ε}
    {valid : ε → Prop} (h : codec.Writes layout valid) {collect : List ε → List ε} {xs : List ε}
    (hValid : ∀ x ∈ xs, valid x) (hCollect : collect xs = xs)
    (hComplete : ((encodeLength format xs.length).andThen (encodeAll codec xs)).complete = true) :
    Layout.counted format layout collect
      ((encodeLength format xs.length).andThen (encodeAll codec xs)).bytes xs := by
  obtain ⟨hField, hElements, hBytes⟩ := complete_andThen hComplete
  exact ⟨_, _, xs, hBytes, encodeLength_spells hField, encodeAll_each h xs hValid hElements,
    hCollect.symm⟩

end Codec

end SerializerContract
