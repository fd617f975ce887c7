import SerializerContract.Proofs.Codec.Locality
import SerializerContract.Proofs.Codec.RoundTrip
import SerializerContract.Proofs.ValueType.Collection

/-! Writing again what was read. A container may have kept fewer elements than were listed, and in another order,
so what is written need not be what was read. It is never longer, and it is read as the same value. -/
namespace SerializerContract

theorem Width.le_maximum_of_lt {width : Width} {n : Nat} (h : n < Nat.pow 256 width.bytes) :
    n ≤ width.maximum := by
  have hMaximum : Nat.pow 256 width.bytes = width.maximum + 1 := by cases width <;> rfl
  omega

namespace Layout

variable {α ε : Type}

/-- The length that a field spells fits into one. -/
theorem lengthField.le_maximum {format : Format} {n : Nat} {field : Bytes} (h : lengthField format n field) :
    n ≤ format.length.maximum := by
  obtain ⟨hWidth, rfl⟩ := h
  exact Width.le_maximum_of_lt (hWidth ▸ format.order.ofBytes_lt field)

/-- Every element has a piece of the body for itself. -/
theorem Each.exists_mem {layout : Layout ε} {body : Bytes} {xs : List ε} (each : Each layout body xs) {x : ε}
    (hx : x ∈ xs) : ∃ piece, layout piece x := by
  induction each with
  | nil => cases hx
  | cons first _ ih =>
      rcases List.mem_cons.mp hx with rfl | hRest
      · exact ⟨_, first⟩
      · exact ih hRest

theorem row_exists_mem {layout : Layout ε} {n : Nat} {front : Bytes} {v : Row ε n} (h : row layout n front v)
    {x : ε} (hx : x ∈ v.toList) : ∃ piece, layout piece x := by
  induction n generalizing front with
  | zero => cases hx
  | succ n ih =>
      obtain ⟨first, rest, -, hFirst, hRest⟩ := h
      rcases List.mem_cons.mp hx with rfl | hx
      · exact ⟨first, hFirst⟩
      · exact ih hRest hx

/-- What no element has more of than bytes, all of them have no more of than the body has bytes. -/
theorem Each.sum_le {layout : Layout ε} {weight : ε → Nat} (h : ∀ piece x, layout piece x → weight x ≤ piece.length)
    {body : Bytes} {xs : List ε} (each : Each layout body xs) : (xs.map weight).sum ≤ body.length := by
  induction each with
  | nil => exact Nat.le_refl _
  | cons first _ ih =>
      have hFirst := h _ _ first
      rw [List.map_cons, List.sum_cons, List.length_append]
      omega

end Layout

namespace Codec

variable {α β ε : Type}

/-- A value that was read can be written again, in at most as many bytes. If it is valid, these are read as the
value. -/
structure Renews (codec : Codec α) (valid : α → Prop) : Prop where
  complete : ∀ front v, codec.Spells front v → (codec.encode v).complete = true
  shrinks : ∀ front v, codec.Spells front v → (codec.encode v).bytes.length ≤ front.length
  spells : ∀ front v, codec.Spells front v → valid v → codec.Spells (codec.encode v).bytes v

theorem Renews.mono {codec : Codec α} {valid valid' : α → Prop} (h : codec.Renews valid)
    (hValid : ∀ v, valid' v → valid v) : codec.Renews valid' where
  complete := h.complete
  shrinks := h.shrinks
  spells front v hFront hv := h.spells front v hFront (hValid v hv)

/-- What was read and is valid is written as bytes that spell it. -/
theorem Renews.writes {codec : Codec α} {valid : α → Prop} (h : codec.Renews valid) :
    codec.Writes codec.Spells fun v => valid v ∧ ∃ front, codec.Spells front v := by
  rintro v ⟨hValid, front, hFront⟩ -
  exact h.spells front v hFront hValid

/-- A number that was read is written with as many bytes. -/
theorem number_renews (order : ByteOrder) (n : Nat) : (number order n).Renews fun _ => True where
  complete _ _ _ := rfl
  shrinks front v h := by
    obtain ⟨hFront, -⟩ := h.layout (number_reads order n).sound
    exact Nat.le_of_eq ((order.length_toBytes n v.toNat).trans hFront.symm)
  spells front v _ _ := by
    obtain ⟨hLength, hValue⟩ := number_writes order n v trivial rfl
    have hSpells := number_spells order hLength
    rwa [← hValue, BitVec.ofNat_toNat, BitVec.setWidth_eq] at hSpells

theorem byte_renews : byte.Renews fun _ => True where
  complete _ _ _ := rfl
  shrinks front v h := by
    obtain rfl := h.layout byte_reads.sound
    exact Nat.le_refl _
  spells _ _ _ _ := fun _ _ => rfl

theorem nothing_renews : nothing.Renews fun _ => True where
  complete _ _ _ := rfl
  shrinks _ _ _ := Nat.zero_le _
  spells _ _ _ _ := fun _ _ => rfl

/-- If the first part can be written, the pair goes as far as the second part does. -/
theorem encode_both {first : Codec α} {second : Codec β} {v : α × β} (hFirst : (first.encode v.1).complete = true) :
    (both first second).encode v =
      ⟨(first.encode v.1).bytes ++ (second.encode v.2).bytes, (second.encode v.2).complete⟩ := by
  simp [both, Emitted.andThen, hFirst]

/-- A pair that was read is written with no more bytes than were read for it. -/
theorem both_renews {first : Codec α} {second : Codec β} {valid : α → Prop} {valid' : β → Prop}
    (hLocal : first.Local) (hLocal' : second.Local) (hFirst : first.Renews valid)
    (hSecond : second.Renews valid') : (both first second).Renews fun v => valid v.1 ∧ valid' v.2 where
  complete front v h := by
    obtain ⟨front, back, rfl, hFront, hBack⟩ := h.layout (both_sound hLocal.spells hLocal'.spells)
    rw [encode_both (hFirst.complete front v.1 hFront)]
    exact hSecond.complete back v.2 hBack
  shrinks front v h := by
    obtain ⟨front, back, rfl, hFront, hBack⟩ := h.layout (both_sound hLocal.spells hLocal'.spells)
    rw [encode_both (hFirst.complete front v.1 hFront), List.length_append, List.length_append]
    exact Nat.add_le_add (hFirst.shrinks front v.1 hFront) (hSecond.shrinks back v.2 hBack)
  spells front v h hValid := by
    obtain ⟨front, back, rfl, hFront, hBack⟩ := h.layout (both_sound hLocal.spells hLocal'.spells)
    rw [encode_both (hFirst.complete front v.1 hFront)]
    exact (hFirst.spells front v.1 hFront hValid.1).both (hSecond.spells back v.2 hBack hValid.2)

/-- A row that was read is written with no more bytes than were read for it. -/
theorem row_renews {codec : Codec α} {valid : α → Prop} (hLocal : codec.Local) (h : codec.Renews valid) (n : Nat) :
    (row codec n).Renews fun v => ∀ x ∈ v.toList, valid x := by
  induction n with
  | zero => exact nothing_renews.mono fun _ _ => trivial
  | succ n ih =>
      refine (both_renews hLocal (row_local hLocal n) h ih).mono fun v hValid => ⟨hValid v.1 ?_, fun x hx => ?_⟩
      · exact List.mem_cons_self
      · exact hValid x (List.mem_cons_of_mem _ hx)

/-! ## Containers -/

/-- Elements that can all be written are written one after the other. -/
theorem encodeAll_of_complete {codec : Codec ε} {xs : List ε}
    (h : ∀ x ∈ xs, (codec.encode x).complete = true) :
    encodeAll codec xs = .done (xs.flatMap fun x => (codec.encode x).bytes) := by
  induction xs with
  | nil => rfl
  | cons x xs ih =>
      rw [encodeAll, ih fun y hy => h y (List.mem_cons_of_mem _ hy)]
      simp [Emitted.andThen, Emitted.done, h x List.mem_cons_self]

section Counted

variable {format : Format} {codec : Codec ε} {valid : ε → Prop} {collect : List ε → List ε} {front : Bytes}
    {v : List ε} (h : codec.Renews valid) (hCollect : ∀ xs, (collect xs).Subperm xs)
    (hFront : Layout.counted format codec.Spells collect front v)

include h hCollect hFront

/-- A container that was read is written as its own length and its own elements. -/
theorem encode_counted : (encodeLength format v.length).andThen (encodeAll codec v) =
    .done (format.order.toBytes format.length.bytes v.length ++
      v.flatMap fun x => (codec.encode x).bytes) := by
  obtain ⟨field, body, xs, rfl, hField, hEach, rfl⟩ := hFront
  have hFits : (collect xs).length ≤ format.length.maximum :=
    Nat.le_trans (hCollect xs).length_le hField.le_maximum
  have hElements : ∀ x ∈ collect xs, (codec.encode x).complete = true := by
    intro x hx
    obtain ⟨piece, hPiece⟩ := hEach.exists_mem ((hCollect xs).subset hx)
    exact h.complete piece x hPiece
  rw [encodeLength, if_pos hFits, encodeAll_of_complete hElements]
  rfl

/-- Dropping elements of what was read can only shorten what is written for it. -/
theorem length_encode_counted :
    ((encodeLength format v.length).andThen (encodeAll codec v)).bytes.length ≤ front.length := by
  rw [encode_counted h hCollect hFront]
  obtain ⟨field, body, xs, rfl, hField, hEach, rfl⟩ := hFront
  have hKept := sum_map_le_of_subperm (fun x => (codec.encode x).bytes.length) (hCollect xs)
  have hBody := hEach.sum_le h.shrinks
  simp only [Emitted.done, List.length_append, ByteOrder.length_toBytes, List.length_flatMap, hField.1]
  omega

/-- What is written is counted elements again, and they are collected to the same container if all of them are
valid and the container is one that they are collected to. -/
theorem counted_encode_counted (hValid : ∀ x ∈ v, valid x) (hAgain : collect v = v) :
    Layout.counted format codec.Spells collect
      ((encodeLength format v.length).andThen (encodeAll codec v)).bytes v := by
  have hComplete := congrArg Emitted.complete (encode_counted h hCollect hFront)
  obtain ⟨_, _, xs, -, -, hEach, rfl⟩ := hFront
  refine encodeLength_andThen_encodeAll h.writes (fun x hx => ⟨hValid x hx, ?_⟩) hAgain hComplete
  exact hEach.exists_mem ((hCollect xs).subset hx)

end Counted

/-- A container that was read is written with no more bytes than were read for it, and is read again from these
if its elements are kept in place. -/
theorem container_renews (format : Format) {codec : Codec ε} {layout : Layout ε} {valid : ε → Prop}
    (hReads : codec.Reads layout) (hLocal : codec.Local) (h : codec.Renews valid)
    {insert : List ε → ε → List ε} {collect : List ε → List ε} (hInsert : ∀ xs, collect xs = xs.foldl insert [])
    (hCollect : ∀ xs, (collect xs).Subperm xs) :
    (container format codec insert).Renews fun v => (∀ x ∈ v, valid x) ∧ collect v = v where
  complete _ _ hFront :=
    congrArg Emitted.complete
      (encode_counted h hCollect (hFront.layout (container_sound format hLocal.spells hInsert)))
  shrinks _ _ hFront :=
    length_encode_counted h hCollect (hFront.layout (container_sound format hLocal.spells hInsert))
  spells _ _ hFront hValid :=
    Spells.container format hReads hInsert (counted_encode_counted h hCollect
      (hFront.layout (container_sound format hLocal.spells hInsert)) hValid.1 hValid.2)

/-- A contiguous container that was read is written with no more bytes, and read again from these. -/
theorem contiguous_renews (format : Format) {codec : Codec ε} {layout : Layout ε} {valid : ε → Prop}
    (hReads : codec.Reads layout) (hLocal : codec.Local) (h : codec.Renews valid) :
    (contiguous format codec).Renews fun v => ∀ x ∈ v, valid x where
  complete _ _ hFront :=
    congrArg Emitted.complete
      (encode_counted h List.Subperm.refl (hFront.layout (contiguous_sound format hLocal.spells)).1)
  shrinks _ _ hFront :=
    length_encode_counted h List.Subperm.refl (hFront.layout (contiguous_sound format hLocal.spells)).1
  spells _ _ hFront hValid := by
    obtain ⟨hCounted, hRoom⟩ := hFront.layout (contiguous_sound format hLocal.spells)
    exact Spells.contiguous format hReads
      (counted_encode_counted h List.Subperm.refl hCounted hValid rfl) hRoom

end Codec

end SerializerContract
