import SerializerContract.Proofs.Codec.Loops
import SerializerContract.Proofs.ValueType.Items
import SerializerContract.Proofs.ValueType.Stall

/-! The least size of the values of every type. It is never zero, no value is smaller, and the blank value is no
larger; without a length field all values have it. A decoder that trusts it never runs on. -/
namespace SerializerContract

namespace Item

variable (format : Format)

theorem length_bytes_length (n : Nat) : (bytes format (.length n)).length = format.length.bytes :=
  ByteOrder.length_toBytes _ _ _

theorem length_bytes_number (size value : Nat) : (bytes format (.number size value)).length = size :=
  ByteOrder.length_toBytes _ _ _

/-- The number of bytes of some items. -/
def width (items : List Item) : Nat := (wire format items).length

@[simp] theorem width_nil : width format [] = 0 := rfl

@[simp] theorem width_number (size value : Nat) : width format [.number size value] = size := by
  simp [width, length_bytes_number]

@[simp] theorem width_append (front back : List Item) :
    width format (front ++ back) = width format front + width format back := by
  simp [width]

@[simp] theorem width_length_cons (n : Nat) (items : List Item) :
    width format (.length n :: items) = format.length.bytes + width format items := by
  simp [width, length_bytes_length]

theorem le_width_length_cons (n : Nat) (items : List Item) :
    format.length.bytes ≤ width format (.length n :: items) := by
  rw [width_length_cons]
  exact Nat.le_add_right _ _

variable {format} {ε : Type} {items : ε → List Item} {least : Nat}

/-- Elements that take at least so much each take at least so much together. -/
theorem le_width_flatMap (h : ∀ x, least ≤ width format (items x)) (xs : List ε) :
    xs.length * least ≤ width format (xs.flatMap items) := by
  induction xs with
  | nil => simp
  | cons x xs ih =>
      have hFirst := h x
      rw [List.length_cons, List.flatMap_cons, width_append, Nat.succ_mul]
      omega

theorem width_flatMap (xs : List ε) (h : ∀ x ∈ xs, width format (items x) = least) :
    width format (xs.flatMap items) = xs.length * least := by
  induction xs with
  | nil => simp
  | cons x xs ih =>
      rw [List.length_cons, List.flatMap_cons, width_append, Nat.succ_mul, h x List.mem_cons_self,
        ih fun y hy => h y (List.mem_cons_of_mem _ hy), Nat.add_comm]

end Item

namespace Row

variable {α : Type}

@[simp] theorem length_toList {n : Nat} (row : Row α n) : row.toList.length = n := by
  induction n with
  | zero => rfl
  | succ n ih => exact congrArg Nat.succ (ih row.2)

theorem eq_of_mem_replicate {x y : α} {n : Nat} (h : y ∈ (replicate x n).toList) : y = x := by
  induction n with
  | zero => cases h
  | succ n ih =>
      rcases List.mem_cons.mp h with rfl | hRest
      · rfl
      · exact ih hRest

end Row

theorem Width.bytes_pos (width : Width) : 0 < width.bytes := by
  cases width <;> decide

mutual
/-- No value has fewer bytes. -/
theorem ValueType.leastSize_le_width (format : Format) :
    (t : ValueType) → (v : t.Val) → t.leastSize format ≤ Item.width format (t.items v)
  | .scalar s, _ => Nat.le_of_eq (Item.width_number format s.size _).symm
  | .enumeration _ s, _ => Nat.le_of_eq (Item.width_number format s.size _).symm
  | .text _, _ => Item.le_width_length_cons format _ _
  | .record _ _, _ => Nat.zero_le _
  | .optional _, _ => Nat.zero_le _
  | .pointer _ _, _ => Nat.zero_le _
  | .pair a b, v => by
      rw [ValueType.items, Item.width_append]
      exact Nat.add_le_add (a.leastSize_le_width format v.1) (b.leastSize_le_width format v.2)
  | .entry k t, v => by
      rw [ValueType.items, Item.width_append]
      exact Nat.add_le_add (k.leastSize_le_width format v.1) (t.leastSize_le_width format v.2)
  | .tuple t rest, v => by
      rw [ValueType.items, Item.width_append]
      exact Nat.add_le_add (t.leastSize_le_width format v.1) (rest.leastSize_le_width format v.2)
  | .array n t, (v : Row t.Val n) => by
      have hEach := Item.le_width_flatMap (t.leastSize_le_width format) v.toList
      rwa [Row.length_toList] at hEach
  | .sequence _ _, _ => Item.le_width_length_cons format _ _
  | .set _ _ _, _ => Item.le_width_length_cons format _ _
  | .map _ _ _ _, _ => Item.le_width_length_cons format _ _

theorem FieldTypes.leastSize_le_width (format : Format) :
    (ts : FieldTypes) → (v : ts.Val) → ts.leastSize format ≤ Item.width format (ts.items v)
  | .nil, _ => Nat.zero_le _
  | .cons t rest, v => by
      rw [FieldTypes.items, Item.width_append]
      exact Nat.add_le_add (t.leastSize_le_width format v.1) (rest.leastSize_le_width format v.2)
end

mutual
/-- A blank value has no more bytes than it must. -/
theorem ValueType.width_blank (format : Format) :
    (t : ValueType) → Item.width format (t.items t.blank) = t.leastSize format
  | .scalar s => Item.width_number format s.size _
  | .enumeration _ s => Item.width_number format s.size _
  | .text kind => by cases kind <;> exact Item.width_length_cons format _ _
  | .record _ _ => rfl
  | .optional _ => rfl
  | .pointer _ _ => rfl
  | .pair a b => by
      rw [ValueType.leastSize, ← a.width_blank format, ← b.width_blank format]
      exact Item.width_append format _ _
  | .entry k t => by
      rw [ValueType.leastSize, ← k.width_blank format, ← t.width_blank format]
      exact Item.width_append format _ _
  | .tuple t rest => by
      rw [ValueType.leastSize, ← t.width_blank format, ← rest.width_blank format]
      exact Item.width_append format _ _
  | .array n t => by
      have hEach := Item.width_flatMap (Row.replicate t.blank n).toList fun x hx =>
        Row.eq_of_mem_replicate hx ▸ t.width_blank format
      rwa [Row.length_toList] at hEach
  | .sequence _ _ => Item.width_length_cons format 0 []
  | .set _ _ _ => Item.width_length_cons format 0 []
  | .map _ _ _ _ => Item.width_length_cons format 0 []

theorem FieldTypes.width_blank (format : Format) :
    (ts : FieldTypes) → Item.width format (ts.items ts.blank) = ts.leastSize format
  | .nil => rfl
  | .cons t rest => by
      rw [FieldTypes.leastSize, ← t.width_blank format, ← rest.width_blank format]
      exact Item.width_append format _ _
end

mutual
/-- No part of a value has a length field: there are only numbers, and tuples of them. -/
def ValueType.Unprefixed : ValueType → Prop
  | .scalar _ => True
  | .enumeration _ _ => True
  | .pair a b => a.Unprefixed ∧ b.Unprefixed
  | .entry k v => k.Unprefixed ∧ v.Unprefixed
  | .tuple t rest => t.Unprefixed ∧ rest.Unprefixed
  | .array _ t => t.Unprefixed
  | _ => False

def FieldTypes.Unprefixed : FieldTypes → Prop
  | .nil => True
  | .cons t rest => t.Unprefixed ∧ rest.Unprefixed
end

mutual
/-- Values of a type without length prefixes all take the least size. -/
theorem ValueType.width_of_unprefixed (format : Format) : (t : ValueType) → t.Unprefixed → (v : t.Val) →
    Item.width format (t.items v) = t.leastSize format
  | .scalar s, _, _ => Item.width_number format s.size _
  | .enumeration _ s, _, _ => Item.width_number format s.size _
  | .pair a b, h, v => by
      rw [ValueType.items, Item.width_append, a.width_of_unprefixed format h.1, b.width_of_unprefixed format h.2]
      rfl
  | .entry k t, h, v => by
      rw [ValueType.items, Item.width_append, k.width_of_unprefixed format h.1, t.width_of_unprefixed format h.2]
      rfl
  | .tuple t rest, h, v => by
      rw [ValueType.items, Item.width_append, t.width_of_unprefixed format h.1,
        rest.width_of_unprefixed format h.2]
      rfl
  | .array n t, h, (v : Row t.Val n) => by
      have hEach := Item.width_flatMap v.toList fun x _ => t.width_of_unprefixed format h x
      rwa [Row.length_toList] at hEach

theorem FieldTypes.width_of_unprefixed (format : Format) : (ts : FieldTypes) → ts.Unprefixed → (v : ts.Val) →
    Item.width format (ts.items v) = ts.leastSize format
  | .nil, _, _ => rfl
  | .cons t rest, h, v => by
      rw [FieldTypes.items, Item.width_append, t.width_of_unprefixed format h.1,
        rest.width_of_unprefixed format h.2]
      rfl
end

mutual
/-- Without length prefixes nothing can be overlong. -/
theorem ValueType.not_overlong_of_unprefixed (limit : Nat) : (t : ValueType) → t.Unprefixed → (v : t.Val) →
    ¬ t.Overlong limit v
  | .scalar _, _, _ => not_false
  | .enumeration _ _, _, _ => not_false
  | .pair a b, h, v =>
    not_or_intro (a.not_overlong_of_unprefixed limit h.1 v.1) (b.not_overlong_of_unprefixed limit h.2 v.2)
  | .entry k t, h, v =>
    not_or_intro (k.not_overlong_of_unprefixed limit h.1 v.1) (t.not_overlong_of_unprefixed limit h.2 v.2)
  | .tuple t rest, h, v =>
    not_or_intro (t.not_overlong_of_unprefixed limit h.1 v.1) (rest.not_overlong_of_unprefixed limit h.2 v.2)
  | .array _ t, h, _ => fun hOverlong => by
      obtain ⟨x, -, hx⟩ := hOverlong
      exact t.not_overlong_of_unprefixed limit h x hx

theorem FieldTypes.not_overlong_of_unprefixed (limit : Nat) : (ts : FieldTypes) → ts.Unprefixed →
    (v : ts.Val) → ¬ ts.Overlong limit v
  | .nil, _, _ => not_false
  | .cons t rest, h, v =>
    not_or_intro (t.not_overlong_of_unprefixed limit h.1 v.1) (rest.not_overlong_of_unprefixed limit h.2 v.2)
end

mutual
/-- The blank value has no overlong part. -/
theorem ValueType.not_overlong_blank (limit : Nat) : (t : ValueType) → ¬ t.Overlong limit t.blank
  | .scalar _ => not_false
  | .enumeration _ _ => not_false
  | .text kind => by cases kind <;> exact Nat.not_lt_zero limit
  | .record _ _ => not_false
  | .optional _ => not_false
  | .pointer _ _ => not_false
  | .pair a b => not_or_intro (a.not_overlong_blank limit) (b.not_overlong_blank limit)
  | .entry k t => not_or_intro (k.not_overlong_blank limit) (t.not_overlong_blank limit)
  | .tuple t rest => not_or_intro (t.not_overlong_blank limit) (rest.not_overlong_blank limit)
  | .array n t => fun hOverlong => by
      obtain ⟨x, hx, hLong⟩ := hOverlong
      exact t.not_overlong_blank limit (Row.eq_of_mem_replicate hx ▸ hLong)
  | .sequence _ _ => by simp [ValueType.Overlong, ValueType.blank]
  | .set _ _ _ => by simp [ValueType.Overlong, ValueType.blank]
  | .map _ _ _ _ => by simp [ValueType.Overlong, ValueType.blank]

theorem FieldTypes.not_overlong_blank (limit : Nat) : (ts : FieldTypes) → ¬ ts.Overlong limit ts.blank
  | .nil => not_false
  | .cons t rest => not_or_intro (t.not_overlong_blank limit) (rest.not_overlong_blank limit)
end

/-- Nothing that can be serialized takes no bytes at all. -/
theorem ValueType.leastSize_pos (format : Format) : (t : ValueType) → t.Serializable → 0 < t.leastSize format
  | .scalar s, _ => s.size_pos
  | .enumeration _ s, _ => s.size_pos
  | .text _, _ => format.length.bytes_pos
  | .pair a _, h => Nat.add_pos_left (a.leastSize_pos format h.1) _
  | .entry k _, h => Nat.add_pos_left (k.leastSize_pos format h.1) _
  | .tuple t _, h => Nat.add_pos_left (t.leastSize_pos format h.1) _
  | .array _ t, h => Nat.mul_pos h.1 (t.leastSize_pos format h.2)
  | .sequence _ _, _ => format.length.bytes_pos
  | .set _ _ _, _ => format.length.bytes_pos
  | .map _ _ _ _, _ => format.length.bytes_pos

namespace ValueType

variable {format : Format}

/-- What is announced as the least size of a type is the least size. -/
theorem minSize?_eq_leastSize (t : ValueType) (h : t.Serializable) :
    t.minSize? format = some (t.leastSize format) := by
  have hOther : (if h : t.Serializable then some (t.codec format h).minSize else none) =
      some (t.leastSize format) := by rw [dif_pos h, t.minSize_codec format h]
  cases t with
  | scalar s =>
      have hKind : kind (scalar s) = .arithmetic := if_pos h
      rw [minSize?, hKind]
      exact hOther
  | text kind =>
      cases kind with
      | owned => rfl
      | _ => cases h
  | array n t =>
      have hKind : kind (array n t) = .tuple := if_neg (Nat.pos_iff_ne_zero.mp h.1)
      rw [minSize?, hKind]
      exact hOther
  | sequence kind t =>
      by_cases hContiguous : isContiguous kind t = true
      · simp [minSize?, ValueType.kind, hContiguous, leastSize]
      · simp [minSize?, ValueType.kind, hContiguous, h.1, leastSize]
  | enumeration => exact hOther
  | pair => exact hOther
  | entry => exact hOther
  | tuple => exact hOther
  | set => rfl
  | map => rfl
  | _ => exact h.elim

theorem Serializable.element {kind : SequenceKind} {t : ValueType} (h : (sequence kind t).Serializable) :
    t.Serializable := h.2

theorem Serializable.key {lookup : Lookup} {multi : Bool} {k v : ValueType}
    (h : (map lookup multi k v).Serializable) : k.Serializable := h.1

theorem Serializable.mapped {lookup : Lookup} {multi : Bool} {k v : ValueType}
    (h : (map lookup multi k v).Serializable) : v.Serializable := h.2

/-- What reads one element, for the types whose values begin with a length field. -/
def elementCodec (format : Format) : (t : ValueType) → t.Serializable → Option ((ε : Type) × Codec ε)
  | .text .owned, _ => some ⟨_, .byte⟩
  | .sequence _ t, h => some ⟨_, t.codec format h.element⟩
  | .set _ _ t, h => some ⟨_, t.codec format h⟩
  | .map _ _ k v, h => some ⟨_, .both (k.codec format h.key) (v.codec format h.mapped)⟩
  | _, _ => none

/-- The codec of a container loops over elements, none of which is empty. -/
theorem elementCodec_loops (t : ValueType) (h : t.Serializable) {element : (ε : Type) × Codec ε}
    (hElement : t.elementCodec format h = some element) :
    element.2.LoopsOver format (t.codec format h) ∧
      ∃ layout, element.2.Reads layout ∧ 0 < element.2.minSize := by
  cases t with
  | text kind =>
      cases kind with
      | owned =>
          cases hElement
          exact ⟨.contiguous, _, Codec.byte_reads, Nat.one_pos⟩
      | _ => cases h
  | sequence kind t =>
      cases hElement
      have hPos := t.leastSize_pos format h.2
      rw [← t.minSize_codec format h.2] at hPos
      refine ⟨?_, _, t.codec_reads format h.2, hPos⟩
      exact codec_sequence_cases (motive := fun codec => Codec.LoopsOver format _ codec) h (fun _ => .contiguous)
        (.container _)
  | set lookup multi t =>
      cases hElement
      have hPos := t.leastSize_pos format h
      rw [← t.minSize_codec format h] at hPos
      exact ⟨.container _, _, t.codec_reads format h, hPos⟩
  | map lookup multi k v =>
      cases hElement
      have hPos := k.leastSize_pos format h.1
      rw [← k.minSize_codec format h.1] at hPos
      exact ⟨.container _, _, Codec.both_reads (k.codec_reads format h.1) (v.codec_reads format h.2),
        Nat.add_pos_left hPos _⟩
  | _ => cases hElement

/-- The size of a value that fits is the width of its items. -/
theorem byteSize_of_not_overlong {t : ValueType} (h : t.Serializable) {v : t.Val}
    (hFits : ¬ t.Overlong format.length.maximum v) :
    OutputChannel.byteSize (t.codec format h) v = .ok (Item.width format (t.items v)) :=
  OutputChannel.byteSize_of_encode (encode_of_not_overlong h hFits)

/-- A size that is computed is the width of the items. -/
theorem width_of_byteSize {t : ValueType} (h : t.Serializable) {v : t.Val} {size : Nat}
    (hSize : OutputChannel.byteSize (t.codec format h) v = .ok size) :
    size = Item.width format (t.items v) := by
  by_cases hOverlong : t.Overlong format.length.maximum v
  · obtain ⟨before, n, after, -, -, -, hEncode⟩ := encode_of_overlong h hOverlong
    rw [OutputChannel.byteSize_of_encode hEncode] at hSize
    cases hSize
  · rw [byteSize_of_not_overlong h hOverlong] at hSize
    exact (Except.ok.inj hSize).symm

/-- The least size of a type is at least one byte. Every value that can be written has at least this size, the
blank value has it, and so has every value of a type without length fields. Reading elements takes at least so many
bytes each, so the loop over the elements of a container begins with at most one element more than there are bytes
behind its length field, whatever length this claims, and whether or not it was right to accept it. -/
theorem least_size_exact (format : Format) (t : ValueType) (h : t.Serializable) :
    ∃ least, t.minSize? format = some least ∧ 1 ≤ least ∧
      (∀ v size, OutputChannel.byteSize (t.codec format h) v = .ok size → least ≤ size) ∧
      OutputChannel.byteSize (t.codec format h) t.blank = .ok least ∧
      (t.Unprefixed → ∀ v, OutputChannel.byteSize (t.codec format h) v = .ok least) ∧
      (∀ insert n held bytes, (Codec.decodeInto (t.codec format h) insert n held bytes).stop = none →
        n * least + (Codec.decodeInto (t.codec format h) insert n held bytes).rest.length ≤ bytes.length) ∧
      ∀ element, t.elementCodec format h = some element → element.2.LoopsOver format (t.codec format h) ∧
        ∀ n bytes, element.2.begun n bytes ≤ bytes.length + 1 := by
  refine ⟨t.leastSize format, t.minSize?_eq_leastSize h, t.leastSize_pos format h, fun v size hSize => ?_, ?_,
    fun hUnprefixed v => ?_, fun insert n held bytes hStop => ?_, fun element hElement => ?_⟩
  · rw [width_of_byteSize h hSize]
    exact t.leastSize_le_width format v
  · rw [byteSize_of_not_overlong h (t.not_overlong_blank _), t.width_blank format]
  · rw [byteSize_of_not_overlong h (t.not_overlong_of_unprefixed _ hUnprefixed v),
      t.width_of_unprefixed format hUnprefixed]
  · rw [← t.minSize_codec format h]
    exact Codec.length_of_decodeInto (t.codec_reads format h) insert n held bytes hStop
  · obtain ⟨hLoops, layout, hReads, hPos⟩ := t.elementCodec_loops h hElement
    exact ⟨hLoops, Codec.begun_le hReads hPos⟩

/-- Numbers of eight bytes, in a list. -/
abbrev int64List : ValueType := sequence .list .int64

/-- The least size of 2 ^ 61 numbers of eight bytes is zero in 64 bits. Their length is accepted in front of
nothing, and the loop ends at the first of them. -/
theorem least_size_exact_wrapping :
    int64List.minSize? ⟨.big, .w64⟩ = some 8 ∧
    Codec.decodeLength ⟨.big, .w64⟩ 8 [0x20, 0, 0, 0, 0, 0, 0, 0] = .accepted 0x2000000000000000 [] ∧
    ((ValueType.int64).codec ⟨.big, .w64⟩ (by decide)).begun 0x2000000000000000 [] ≤ 1 := by
  obtain ⟨_, -, -, -, -, -, -, hLoops⟩ := least_size_exact ⟨.big, .w64⟩ int64List (by decide)
  exact ⟨by decide, by decide, (hLoops _ rfl).2 0x2000000000000000 []⟩

end ValueType

end SerializerContract
